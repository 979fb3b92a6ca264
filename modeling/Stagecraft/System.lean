import Stagecraft.Behavior
import Stagecraft.Event
import Stagecraft.Script.Fault

/-!
Systems: behaviors that answer the events of one name.
-/

namespace Stagecraft

inductive Cause where
  | script (fault : Script.Fault)
  | scene (fault : Fault)
  /-- A system of the host gives its own reason. -/
  | host (message : String)
deriving DecidableEq

namespace Cause

def message : Cause → String
  | script fault => fault.message
  | scene fault => fault.message
  | host message => message

def kind? : Cause → Option FaultKind
  | script fault => some fault.kind
  | scene fault => some fault.kind
  | host _ => none

end Cause

/-- A named behavior with its parameters, and with the event that sets it off. The behavior yields
the events that follow. -/
structure System where
  name : String
  params : List Role
  listener : Option Contract
  body : BoundEvent → Behavior Cause (List Event)

instance : Named System := ⟨.system, System.name⟩

namespace System

def roles (system : System) : List Role :=
  match system.listener with
  | some contract => contract.roles
  | none => []

def components (system : System) : List String :=
  (system.params.flatMap Role.components).eraseDups

def allComponents (system : System) : List String :=
  ((system.params ++ system.roles).flatMap Role.components).eraseDups

def listensTo (system : System) (event : String) : Bool :=
  match system.listener with
  | some contract => contract.name == event
  | none => false

/-- A system needs a name and at least one parameter; every parameter needs components; and all
components must be registered. -/
def validate (system : System) (components : Registry Component) : Except Fault Unit := do
  if system.name = "" then throw (.emptyName .system)
  if system.params.isEmpty || system.params.any (fun param => param.components.isEmpty) then
    throw (.emptyParameter system.name)
  checkRegistered system.name system.params components
  match system.listener with
  | some contract =>
    if contract.name = "" then throw (.emptyName .event)
    checkRegistered system.name contract.roles components
  | none => return ()

end System

end Stagecraft
