/-!
# Lists sorted by name

A dictionary is a list of named things in the order of their names, each name once. Names compare
character by character.
-/

namespace GroundLink.Dictionary

variable {α : Type}

/-- Put an entry into a dictionary, in place of one of the same name. -/
def insert (name : String) (value : α) : List (String × α) → List (String × α)
  | [] => [(name, value)]
  | (other, held) :: rest =>
    if name < other then (name, value) :: (other, held) :: rest
    else if name = other then (name, value) :: rest
    else (other, held) :: insert name value rest

/-- The dictionary of some entries. Of several with one name the last stands. -/
def ofList (entries : List (String × α)) : List (String × α) :=
  entries.foldl (fun acc entry => insert entry.1 entry.2 acc) []

end GroundLink.Dictionary
