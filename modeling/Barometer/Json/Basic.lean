/-!
# JSON values

Objects keep their members in order.  A text may repeat a key; `Json.distinct` keeps the first place
and the last value of each key, and lookups look at the first member of a name.
-/

namespace Barometer

/-- An integer of at most 64 bits, signed or unsigned, or a finite double. -/
inductive Json.Number where
  | integer (value : Int)
  | real (value : Float)

inductive Json where
  | null
  | bool (value : Bool)
  | number (value : Json.Number)
  | string (value : String)
  | array (items : List Json)
  | object (members : List (String × Json))
deriving Inhabited

namespace Json

abbrev Members := List (String × Json)

def ofInt (n : Int) : Json := .number (.integer n)

def ofNat (n : Nat) : Json := .number (.integer n)

def ofStrings (names : List String) : Json := .array (names.map .string)

/-- A text that may be missing. -/
def ofOption : Option String → Json
  | none => .null
  | some s => .string s

/-- Sets a key: in its old place if the key is present, at the end otherwise. -/
def put (key : String) (value : Json) : Members → Members
  | [] => [(key, value)]
  | (k, v) :: rest => if k = key then (k, value) :: rest else (k, v) :: put key value rest

/-- The member of a name. -/
def get? (members : Members) (key : String) : Option Json := members.lookup key

/-- A member of an object; none for other values. -/
def field? (value : Json) (key : String) : Option Json :=
  match value with
  | .object members => get? members key
  | _ => none

mutual

/-- The value with each key of an object once. -/
def distinct : Json → Json
  | .array items => .array (distinctItems items)
  | .object members => .object (distinctMembers [] members)
  | value => value

def distinctItems : List Json → List Json
  | [] => []
  | item :: rest => distinct item :: distinctItems rest

def distinctMembers (done : Members) : List (String × Json) → Members
  | [] => done
  | (key, value) :: rest => distinctMembers (put key (distinct value) done) rest

end

/-- A lookup yields something smaller than what it looks into. -/
theorem sizeOf_get?_lt {members : Members} {key : String} {value : Json}
    (h : get? members key = some value) : sizeOf value < sizeOf members := by
  induction members with
  | nil => simp [get?] at h
  | cons member rest ih =>
    obtain ⟨k, v⟩ := member
    simp only [get?, List.lookup_cons] at h ih
    split at h
    · cases h
      simp +arith
    · have := ih h
      simp only [List.cons.sizeOf_spec]
      omega

theorem sizeOf_items_lt {members : Members} {key : String} {items : List Json}
    (h : get? members key = some (.array items)) : sizeOf items < sizeOf members := by
  have := sizeOf_get?_lt h
  simp only [array.sizeOf_spec] at this
  omega

theorem sizeOf_lt_of_mem {items : List Json} {item : Json} (h : item ∈ items) :
    sizeOf item < sizeOf items :=
  List.sizeOf_lt_of_mem h

end Json

end Barometer
