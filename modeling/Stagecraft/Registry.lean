import Stagecraft.Fault

/-!
Registries: things with distinct names, in the order of their registration.
-/

namespace Stagecraft

class Named (α : Type) where
  noun : Noun
  name : α → String

structure Registry (α : Type) where
  entries : List α
deriving Inhabited

namespace Registry

variable {α : Type} [Named α]

def empty : Registry α := ⟨[]⟩

def find? (registry : Registry α) (name : String) : Option α :=
  registry.entries.find? (fun entry => Named.name entry == name)

def contains (registry : Registry α) (name : String) : Bool := (registry.find? name).isSome

def names (registry : Registry α) : List String := registry.entries.map Named.name

def size (registry : Registry α) : Nat := registry.entries.length

def add (registry : Registry α) (entry : α) : Except Fault (Registry α) :=
  if registry.contains (Named.name entry) then
    .error (.alreadyRegistered (Named.noun α) (Named.name entry))
  else .ok ⟨registry.entries ++ [entry]⟩

theorem contains_iff_mem_names (registry : Registry α) (name : String) :
    registry.contains name = true ↔ name ∈ registry.names := by
  simp [contains, find?, names]

theorem find?_name {registry : Registry α} {name : String} {entry : α}
    (found : registry.find? name = some entry) : Named.name entry = name := by
  simpa using List.find?_some found

theorem add_ok_iff {registry next : Registry α} {entry : α} :
    registry.add entry = .ok next ↔
      Named.name entry ∉ registry.names ∧ next = ⟨registry.entries ++ [entry]⟩ := by
  rw [← contains_iff_mem_names]
  unfold add
  split
  · simp_all
  · simp_all only [Bool.not_eq_true, Except.ok.injEq, true_and, reduceCtorEq, not_false_eq_true]
    exact eq_comm

end Registry

end Stagecraft
