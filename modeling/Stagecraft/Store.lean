import Stagecraft.Column
import Stagecraft.Declaration
import Stagecraft.Operation
import Stagecraft.Signature

/-!
Stores: the component values of a scene, one column for every kind of component. The column of a
kind is opened by the first attempt to add to it.
-/

namespace Stagecraft

structure Kind where
  component : Component
  column : Option Column
deriving Inhabited

structure Store where
  kinds : Array Kind
deriving Inhabited

namespace Store

def empty : Store := ⟨#[]⟩

def componentId? (store : Store) (name : String) : Option ComponentId :=
  (store.kinds.findIdx? (fun kind => kind.component.name == name)).map ComponentId.mk

def component? (store : Store) (id : ComponentId) : Option Component :=
  store.kinds[id.index]?.map Kind.component

def component (store : Store) (id : ComponentId) : Except Fault Component :=
  match store.component? id with
  | some component => .ok component
  | none => .error (.unknownComponent id)

def ids (store : Store) : List ComponentId := (List.range store.kinds.size).map ComponentId.mk

def register (store : Store) (component : Component) : Except Fault (ComponentId × Store) :=
  match store.componentId? component.name with
  | some id => .ok (id, store)
  | none =>
    if maxKinds ≤ store.kinds.size then .error (.tooManyComponents maxKinds)
    else .ok (⟨store.kinds.size⟩, ⟨store.kinds.push ⟨component, none⟩⟩)

def column? (store : Store) (id : ComponentId) : Option Column :=
  store.kinds[id.index]?.bind Kind.column

def get? (store : Store) (entity : Entity) (id : ComponentId) : Option Value :=
  (store.column? id).bind (fun column => column.get? entity)

def contains (store : Store) (entity : Entity) (id : ComponentId) : Bool :=
  (store.get? entity id).isSome

def openColumn (store : Store) (id : ComponentId) : Store :=
  ⟨store.kinds.modify id.index fun
    | ⟨component, column⟩ => ⟨component, some (column.getD .empty)⟩⟩

def write (store : Store) (entity : Entity) (id : ComponentId) (content : Option Value) : Store :=
  ⟨store.kinds.modify id.index fun
    | ⟨component, column⟩ => ⟨component, column.map (fun column => column.set entity content)⟩⟩

/-- Give an entity a value, whatever it had before. The column is open afterwards even if the value
is refused. -/
def add (entity : Entity) (id : ComponentId) (value : Value) : Operation Store Unit := do
  let component ← (← get).component id
  modify (fun store => store.openColumn id)
  component.accept value
  modify (fun store => store.write entity id (some value))

/-- Replace a value that the entity has. A refused value leaves the store as it was. -/
def set (store : Store) (entity : Entity) (id : ComponentId) (value : Value) :
    Except Fault Unit × Store :=
  match store.component? id with
  | none => (.error (.unknownComponent id), store)
  | some component =>
    if store.contains entity id then
      match component.accept value with
      | .ok () => (.ok (), store.write entity id (some value))
      | .error fault => (.error fault, store)
    else (.error (.missingComponent entity component.name), store)

def remove (store : Store) (entity : Entity) (id : ComponentId) :
    Except Fault (Option Value × Store) := do
  let _ ← store.component id
  return (store.get? entity id, store.write entity id none)

def valuesOf (store : Store) (entity : Entity) : List (ComponentId × Value) :=
  store.ids.filterMap (fun id => (store.get? entity id).map (fun value => (id, value)))

def drop (store : Store) (entity : Entity) : Store :=
  ⟨store.kinds.map fun
    | ⟨component, column⟩ => ⟨component, column.map (fun column => column.set entity none)⟩⟩

end Store

end Stagecraft
