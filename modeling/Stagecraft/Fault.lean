import Stagecraft.Handle
import Stagecraft.Value.Interchange

/-!
Faults: why a declaration, a request to a scene, or an event is refused.
-/

namespace Stagecraft

inductive FaultKind where
  /-- A declaration or a request is malformed. -/
  | validation
  /-- A name is taken. -/
  | registration
  /-- A handle is out of bounds, or there is no room left. -/
  | range
  /-- A value is not of the schema that it must have. -/
  | type
  /-- A script is not well-formed. -/
  | parse
  /-- Something failed while it ran. -/
  | runtime
deriving DecidableEq, Repr

inductive Noun where
  | component
  | event
  | system
  | entity
deriving DecidableEq, Repr

def Noun.text : Noun → String
  | component => "component"
  | event => "event"
  | system => "system"
  | entity => "entity"

inductive Disagreement where
  | payload (declared found : Schema)
  | roleCount (declared found : Nat)
  | components (role : Nat) (declared found : List String)
deriving DecidableEq

def Disagreement.message : Disagreement → String
  | payload declared found => "payload " ++ found.render ++ " differs from " ++ declared.render
  | roleCount declared found => toString found ++ " roles instead of " ++ toString declared
  | components role declared found =>
    "role " ++ toString role ++ " requires [" ++ ", ".intercalate found ++ "] instead of ["
      ++ ", ".intercalate declared ++ "]"

inductive Fault where
  | emptyName (what : Noun)
  /-- A system has no parameter, or one without components. -/
  | emptyParameter (system : String)
  | unregisteredComponent (component owner : String)
  | alreadyRegistered (what : Noun) (name : String)
  | unregisteredSystem (name : String)
  | unregisteredEvent (name : String)
  | eventMismatch (event : String) (difference : Disagreement)
  | tooManyEntities
  | entityOutOfRange (entity : Entity)
  | entityNotAlive (entity : Entity)
  | tooManyComponents (max : Nat)
  | unknownComponent (id : ComponentId)
  | componentType (component : String) (reason : DataFault)
  | payloadType (event : String) (expected found : Schema)
  | missingTargets (event : String) (expected found : Nat)
  | missingComponent (entity : Entity) (component : String)
  | unknownScene (id : Nat)
  /-- A stored value has no document. -/
  | unencodable (reason : DataFault)
deriving DecidableEq

namespace Fault

def message : Fault → String
  | emptyName what => what.text ++ " description has an empty name"
  | emptyParameter system => "system `" ++ system ++ "` has an empty argument"
  | unregisteredComponent component owner =>
    "component `" ++ component ++ "` used by `" ++ owner ++ "` is not registered"
  | alreadyRegistered what name => what.text ++ " `" ++ name ++ "` is already registered"
  | unregisteredSystem name => "system `" ++ name ++ "` is not registered"
  | unregisteredEvent name => "event `" ++ name ++ "` is not registered"
  | eventMismatch event difference =>
    "event `" ++ event ++ "` does not match its declaration: " ++ difference.message
  | tooManyEntities => "too many entities in existence"
  | entityOutOfRange entity => "entity " ++ toString entity.id ++ " out of range"
  | entityNotAlive entity => "entity " ++ toString entity.id ++ " is not alive"
  | tooManyComponents max =>
    "too many component kinds in one scene (max " ++ toString max ++ ")"
  | unknownComponent id => "unknown component id ComponentId(" ++ toString id.index ++ ")"
  | componentType component reason =>
    "invalid value for component `" ++ component ++ "`: " ++ reason.message
  | payloadType event expected found =>
    "payload of event `" ++ event ++ "` must be " ++ expected.render ++ ", found " ++ found.render
  | missingTargets event expected found =>
    "event `" ++ event ++ "` needs " ++ toString expected ++ " target entities, got "
      ++ toString found
  | missingComponent entity component =>
    "entity " ++ toString entity.id ++ " has no `" ++ component ++ "` component"
  | unknownScene id => "scene " ++ toString id ++ " is not registered"
  | unencodable reason => "snapshot encoding failed: " ++ reason.message

def kind : Fault → FaultKind
  | emptyName _ | emptyParameter _ | unregisteredComponent _ _ | unregisteredSystem _
  | unregisteredEvent _ | eventMismatch _ _ | missingTargets _ _ _ | missingComponent _ _
  | unknownScene _ => .validation
  | alreadyRegistered _ _ => .registration
  | tooManyEntities | entityOutOfRange _ | entityNotAlive _ | tooManyComponents _
  | unknownComponent _ => .range
  | componentType _ _ | payloadType _ _ _ | unencodable _ => .type

def reason? : Fault → Option DataFault
  | componentType _ reason => some reason
  | unencodable reason => some reason
  | _ => none

end Fault

end Stagecraft
