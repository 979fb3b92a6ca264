/-!
Finite maps from names, kept as lists of entries in strictly increasing order of their names.
Names compare by code point, so the order of the entries is a function of the map alone.
-/

namespace Stagecraft

abbrev Keyed (α : Type) := List (String × α)

namespace Keyed

/-- The names increase strictly along the list, so no name occurs twice. -/
def Sorted {α : Type} (entries : Keyed α) : Prop :=
  entries.Pairwise (fun a b => a.1 < b.1)

def insert {α : Type} (name : String) (value : α) : Keyed α → Keyed α
  | [] => [(name, value)]
  | (other, kept) :: rest =>
    if name = other then (name, value) :: rest
    else if name < other then (name, value) :: (other, kept) :: rest
    else (other, kept) :: insert name value rest

/-- The map of the given entries; the last entry of a name counts. -/
def ofList {α : Type} (entries : List (String × α)) : Keyed α :=
  entries.foldl (fun map entry => insert entry.1 entry.2 map) []

def erase {α : Type} (name : String) (entries : Keyed α) : Keyed α :=
  entries.filter (fun entry => entry.1 != name)

def replace {α : Type} (name : String) (value : α) : Keyed α → Keyed α
  | [] => []
  | (other, kept) :: rest =>
    if name = other then (other, value) :: rest else (other, kept) :: replace name value rest

end Keyed

end Stagecraft
