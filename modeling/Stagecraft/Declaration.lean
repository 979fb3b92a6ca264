import Stagecraft.Registry

/-!
Declarations of components and events: what is agreed on before any scene exists.
-/

namespace Stagecraft

structure Component where
  name : String
  schema : Schema
  initial : Value
deriving DecidableEq, Inhabited

instance : Named Component := ⟨.component, Component.name⟩

namespace Component

def of (name : String) (schema : Schema) : Component := ⟨name, schema, .initial schema⟩

def accept (component : Component) (value : Value) : Except Fault Unit :=
  match value.check component.schema with
  | .ok () => .ok ()
  | .error mismatch => .error (.componentType component.name (.mismatch mismatch))

def validate (component : Component) : Except Fault Unit :=
  if component.name = "" then .error (.emptyName .component)
  else component.accept component.initial

theorem accept_ok_iff (component : Component) (value : Value) :
    component.accept value = .ok () ↔ value.schema = component.schema := by
  rw [← Value.check_ok_iff]
  unfold accept
  split <;> simp_all

end Component

structure Role where
  name : String
  components : List String
deriving DecidableEq, Inhabited

structure Contract where
  name : String
  roles : List Role
  payload : Schema
deriving DecidableEq, Inhabited

instance : Named Contract := ⟨.event, Contract.name⟩

def checkRegistered (owner : String) (roles : List Role) (components : Registry Component) :
    Except Fault Unit :=
  match (roles.flatMap Role.components).find? (fun name => !components.contains name) with
  | some name => .error (.unregisteredComponent name owner)
  | none => .ok ()

namespace Contract

def validate (contract : Contract) (components : Registry Component) : Except Fault Unit :=
  if contract.name = "" then .error (.emptyName .event)
  else checkRegistered contract.name contract.roles components

/-- The first role in which two lists of roles differ; `index` counts from the first role on. -/
def roleDifference? (index : Nat) : List Role → List Role → Option Disagreement
  | ours :: declared, theirs :: found =>
    if ours.components = theirs.components then roleDifference? (index + 1) declared found
    else some (.components index ours.components theirs.components)
  | _, _ => none

/-- How another contract differs. The names of roles do not count. -/
def difference? (declared found : Contract) : Option Disagreement :=
  if declared.payload ≠ found.payload then some (.payload declared.payload found.payload)
  else if declared.roles.length ≠ found.roles.length then
    some (.roleCount declared.roles.length found.roles.length)
  else roleDifference? 0 declared.roles found.roles

def checkCompatible (declared found : Contract) : Except Fault Unit :=
  match difference? declared found with
  | some difference => .error (.eventMismatch declared.name difference)
  | none => .ok ()

end Contract

end Stagecraft
