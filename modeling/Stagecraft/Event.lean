import Stagecraft.Handle
import Stagecraft.Value

/-!
Events: what is sent to a scene.
-/

namespace Stagecraft

/-- A named occurrence. The targets fill the roles of the event in order; further targets are
carried along and fill none. -/
structure Event where
  name : String
  targets : List Entity
  payload : Value
deriving DecidableEq, Inhabited

structure ComponentRef where
  entity : Entity
  component : ComponentId
deriving DecidableEq, Inhabited

/-- An event as a system receives it: with the components of every role that the system names. -/
structure BoundEvent where
  event : Event
  roles : List (List ComponentRef)
deriving DecidableEq, Inhabited

def BoundEvent.entity? (bound : BoundEvent) (role : Nat) : Option Entity :=
  bound.event.targets[role]?

end Stagecraft
