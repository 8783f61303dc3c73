import Barometer.Json.Parser
import Barometer.Json.Printer
import Barometer.Text.Quoted

/-!
# Values of a known shape

A structure is read from an object, whose other members are passed over, or from an array of its
fields in order.  A misfit says what is wrong and where in the value it was found.
-/

namespace Barometer.Json

/-- What does not fit. -/
inductive Problem where
  | missing (field : String)
  | repeated (field : String)
  | unexpected (found expected : String)
  | outOfRange (found expected : String)
  | length (found : Nat) (expected : String)
  | invalid (reason : String)
deriving DecidableEq, Repr

/-- Where it shows: at the beginning or at the end of a value, or after the key of a member. -/
inductive Side where
  | before
  | after
  | key
deriving DecidableEq, Repr

/-- A problem, at the value that the places of items and members lead to. -/
structure Misfit where
  problem : Problem
  side : Side
  path : List Nat
deriving DecidableEq, Repr

def Problem.message : Problem → String
  | .missing field => "missing field `" ++ field ++ "`"
  | .repeated field => "duplicate field `" ++ field ++ "`"
  | .unexpected found expected => "invalid type: " ++ found ++ ", expected " ++ expected
  | .outOfRange found expected => "invalid value: " ++ found ++ ", expected " ++ expected
  | .length found expected => "invalid length " ++ toString found ++ ", expected " ++ expected
  | .invalid reason => reason

/-- The misfit as seen from a value that holds this one at a place. -/
def Misfit.under (place : Nat) (m : Misfit) : Misfit := { m with path := place :: m.path }

namespace Decoder

/-- A value as messages speak of it. -/
def described : Json → String
  | .null => "null"
  | .bool b => "boolean `" ++ (if b then "true" else "false") ++ "`"
  | .number (.integer n) => "integer `" ++ toString n ++ "`"
  | .number (.real x) =>
    "floating point `" ++ (Decimal.format? Decimal.Layout.sql x).getD "" ++ "`"
  | .string s => "string " ++ Text.quoted s
  | .array _ => "sequence"
  | .object _ => "map"

/-- A value of another type than the expected one. -/
def unexpected (v : Json) (expected : String) : Misfit where
  problem := .unexpected (described v) expected
  side :=
    match v with
    | .array _ => .before
    | .object _ => .before
    | _ => .after
  path := []

def integer (v : Json) : Except Misfit Int :=
  match v with
  | .number (.integer n) =>
    if n < Nat.pow 2 63 then .ok n
    else .error { problem := .outOfRange (described v) "i64", side := .after, path := [] }
  | _ => .error (unexpected v "i64")

def natural (v : Json) : Except Misfit Nat :=
  match v with
  | .number (.integer n) =>
    if 0 ≤ n then .ok n.toNat
    else .error { problem := .outOfRange (described v) "usize", side := .after, path := [] }
  | _ => .error (unexpected v "usize")

def text (v : Json) : Except Misfit String :=
  match v with
  | .string s => .ok s
  | _ => .error (unexpected v "a string")

/-- A value that may be null. -/
def optional (decode : Json → Except Misfit α) (v : Json) : Except Misfit (Option α) :=
  match v with
  | .null => .ok none
  | _ => (decode v).map some

/-- The members of an object, each key once. -/
def members (v : Json) : Except Misfit Members :=
  match v with
  | .object entries => .ok (distinctMembers [] entries)
  | _ => .error (unexpected v "a map")

/-- The items of an array from a place on. -/
def itemsFrom (decode : Json → Except Misfit α) : Nat → List Json → Except Misfit (List α)
  | _, [] => .ok []
  | place, item :: rest => do
    let x ← (decode item).mapError (Misfit.under place)
    let xs ← itemsFrom decode (place + 1) rest
    return x :: xs

def list (decode : Json → Except Misfit α) (v : Json) : Except Misfit (List α) :=
  match v with
  | .array items => itemsFrom decode 0 items
  | _ => .error (unexpected v "a sequence")

/-- The fields of a structure that are present, each with its place, and what it means that one is
not. -/
structure Fields where
  present : List (String × Nat × Json)
  absence : String → Misfit
  /-- Whether the fields were written as an array. -/
  listed : Bool

/-- The members of the known names with their places; none of them may be there twice. -/
def knownMembers (names : List String) : Nat → Members → List String →
    Except Misfit (List (String × Nat × Json))
  | _, [], _ => .ok []
  | place, (key, v) :: rest, seen =>
    if key ∉ names then knownMembers names (place + 1) rest seen
    else if key ∈ seen then .error { problem := .repeated key, side := .key, path := [place] }
    else do
      let others ← knownMembers names (place + 1) rest (key :: seen)
      return (key, place, v) :: others

/-- The fields of a structure. -/
def fields (title : String) (names : List String) (v : Json) : Except Misfit Fields :=
  match v with
  | .object entries => do
    let present ← knownMembers names 0 entries []
    return {
      present
      absence := fun name ↦ { problem := .missing name, side := .after, path := [] }
      listed := false }
  | .array items =>
    if names.length < items.length then
      .error { problem := .invalid "trailing characters", side := .before, path := [names.length] }
    else
      let expected := "struct " ++ title ++ " with " ++ toString names.length ++ " elements"
      .ok {
        present := (names.zip items).zipIdx.map fun entry ↦ (entry.1.1, entry.2, entry.1.2)
        absence := fun _ ↦
          { problem := .length items.length expected, side := .after, path := [] }
        listed := true }
  | _ => .error (unexpected v ("struct " ++ title))

namespace Fields

/-- A field, or what stands for it when it is absent. -/
def getOr (fields : Fields) (name : String) (decode : Json → Except Misfit α)
    (absent : Except Misfit α) : Except Misfit α :=
  match fields.present.lookup name with
  | some (place, v) => (decode v).mapError (Misfit.under place)
  | none => absent

/-- A field that must be present. -/
def get (fields : Fields) (name : String) (decode : Json → Except Misfit α) : Except Misfit α :=
  fields.getOr name decode (.error (fields.absence name))

/-- A field that may be absent. -/
def getD (fields : Fields) (name : String) (decode : Json → Except Misfit α) (default : α) :
    Except Misfit α :=
  fields.getOr name decode (.ok default)

/-- A field that may be null, and absent from an object. -/
def nullable (fields : Fields) (name : String) (decode : Json → Except Misfit α) :
    Except Misfit (Option α) :=
  fields.getOr name (optional decode)
    (if fields.listed then .error (fields.absence name) else .ok none)

end Fields

end Decoder

namespace Parser

/-- The text after a key. -/
def afterKey? (s : List Char) : Option (List Char) :=
  match s with
  | '"' :: body => (stringBody body).toOption.map Prod.snd
  | _ => none

/-- The text after a key and its colon. -/
def memberValue? (s : List Char) : Option (List Char) := do
  match skipSpace (← afterKey? s) with
  | ':' :: rest => return rest
  | _ => none

/-- The text from an entry of an array or object on, given that from the first entry on. -/
def entryAt? (keyed : Bool) : Nat → List Char → Option (List Char)
  | 0, s => some (skipSpace s)
  | place + 1, s => do
    let start ← if keyed then memberValue? (skipSpace s) else some s
    let (_, rest) ← (value 128 start).toOption
    match skipSpace rest with
    | ',' :: after => entryAt? keyed place after
    | _ => none

/-- The text after the point that a path and a side lead to. -/
def restAt? (side : Side) : List Nat → List Char → Option (List Char)
  | [], s =>
    if side = .after then (value 128 s).toOption.map Prod.snd else some (skipSpace s)
  | place :: path, s =>
    match skipSpace s with
    | '[' :: items => (entryAt? false place items).bind (restAt? side path)
    | '\x7b' :: entries => do
      let entry ← entryAt? true place entries
      if side = .key ∧ path.isEmpty then (afterKey? entry).map skipSpace
      else restAt? side path (← memberValue? entry)
    | _ => none

end Parser

/-- A misfit with the place in the text where it shows. -/
def Misfit.textMessage (text : String) (m : Misfit) : String :=
  let rest := (Parser.restAt? m.side m.path text.toList).getD []
  m.problem.message ++ " at " ++ (positionBefore text (byteCount rest)).text

end Barometer.Json
