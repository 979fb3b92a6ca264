import Stagecraft.Roster
import Stagecraft.Store

/-!
Views: the part of a scene that a system may touch. Components outside the view cannot be seen, and
writing to them is refused.
-/

namespace Stagecraft

/-- The values of the given kinds. Entities are matched through their signatures. -/
structure View where
  store : Store
  roster : Roster
  components : List ComponentId
deriving Inhabited

namespace View

def componentId? (view : View) (name : String) : Option ComponentId :=
  (view.store.componentId? name).filter (fun id => id ∈ view.components)

def componentName? (view : View) (id : ComponentId) : Option String :=
  if id ∈ view.components then (view.store.component? id).map Component.name else none

/-- The entities that own all of the given kinds, in ascending order. None match where no kind is
given, or one outside the view. -/
def matching (view : View) (ids : List ComponentId) : List Entity :=
  if ids.isEmpty || !ids.all (fun id => id ∈ view.components) then []
  else view.roster.entities.filter fun entity =>
    match view.roster.signature entity with
    | .ok signature => signature.covers (.ofList ids)
    | .error _ => false

def get? (view : View) (entity : Entity) (id : ComponentId) : Option Value :=
  if id ∈ view.components then view.store.get? entity id else none

def set : View → Entity → ComponentId → Value → Except Fault Unit × View
  | ⟨store, roster, components⟩, entity, id, value =>
    if id ∈ components then
      let (written, store) := store.set entity id value
      (written, ⟨store, roster, components⟩)
    else (.error (.unknownComponent id), ⟨store, roster, components⟩)

end View

end Stagecraft
