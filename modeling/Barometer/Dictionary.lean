/-!
# Dictionaries

Entries in the order of their keys, each key once.
-/

namespace Barometer

abbrev Dictionary (α : Type) := List (String × α)

namespace Dictionary

def get? (entries : Dictionary α) (key : String) : Option α := entries.lookup key

def contains (entries : Dictionary α) (key : String) : Bool := (get? entries key).isSome

/-- Sets the value of a key. -/
def insert (key : String) (value : α) : Dictionary α → Dictionary α
  | [] => [(key, value)]
  | (k, v) :: rest =>
    if key < k then (key, value) :: (k, v) :: rest
    else if key = k then (key, value) :: rest
    else (k, v) :: insert key value rest

/-- The dictionary of a list of entries; of several entries with one key the last counts. -/
def ofList (entries : List (String × α)) : Dictionary α :=
  entries.foldl (fun d entry ↦ insert entry.1 entry.2 d) []

end Dictionary

end Barometer
