import Stagecraft.Catalog
import Stagecraft.Operation
import Stagecraft.Roster

/-!
Scenes: entities with their names and components, and the systems that run on them. A scene alone
writes to its store. Declarations come from the catalog of the host; a scene keeps the numbers that
it gave to them.
-/

namespace Stagecraft

structure Limits where
  /-- The greatest number of generations below the sent event. -/
  cascadeDepth : Nat
  /-- The greatest number of events delivered by one sending. -/
  events : Nat
deriving DecidableEq, Repr

def Limits.standard : Limits := ⟨32, 4096⟩

instance : Inhabited Limits := ⟨.standard⟩

structure Enrolled where
  system : System
  components : List ComponentId

structure Scene where
  name : String
  limits : Limits
  roster : Roster
  store : Store
  /-- The entities that have names, by name. -/
  byName : List (String × Entity)
  /-- The names that entities were given. -/
  names : List (Entity × String)
  /-- The systems in the order in which they were enrolled. -/
  systems : List Enrolled

namespace Scene

def empty (name : String) (limits : Limits) : Scene :=
  ⟨name, limits, .empty Roster.defaultCapacity, .empty, [], [], []⟩

instance : Inhabited Scene := ⟨empty "" .standard⟩

def find? (scene : Scene) (name : String) : Option Entity := scene.byName.lookup name

def givenName? (scene : Scene) (entity : Entity) : Option String := scene.names.lookup entity

/-- The name of an entity for display; one without a name goes by its number. -/
def entityName (scene : Scene) (entity : Entity) : String :=
  (scene.givenName? entity).getD ("Entity " ++ toString entity.id)

def onStore {α : Type} : Operation Store α → Operation Scene α :=
  .within store (fun store scene => { scene with store := store })

def create : Operation Scene Entity :=
  .replace fun scene => do
    let (entity, roster) ← scene.roster.create
    return (entity, { scene with roster := roster })

def createNamed (name : String) : Operation Scene Entity := do
  if ((← get).find? name).isSome then throw (.alreadyRegistered .entity name)
  let entity ← create
  modify fun scene => { scene with
    byName := (name, entity) :: scene.byName
    names := (entity, name) :: scene.names }
  return entity

def unname (scene : Scene) (entity : Entity) : Scene :=
  match scene.givenName? entity with
  | some name => { scene with
      byName := scene.byName.filter (fun entry => entry.1 != name)
      names := scene.names.filter (fun entry => entry.1 != entity) }
  | none => scene

def destroy (entity : Entity) : Operation Scene Unit :=
  .replace fun scene => do
    let roster ← scene.roster.destroy entity
    return ((), { scene with roster := roster, store := scene.store.drop entity }.unname entity)

def register (component : Component) : Operation Scene ComponentId :=
  onStore (.replace (fun store => store.register component))

def setSignature (entity : Entity) (signature : Signature) : Operation Scene Unit :=
  .replace fun scene => do
    let roster ← scene.roster.setSignature entity signature
    return ((), { scene with roster := roster })

def add (entity : Entity) (id : ComponentId) (value : Value) : Operation Scene Unit := do
  let signature ← (← get).roster.signature entity
  onStore (Store.add entity id value)
  setSignature entity (signature.insert id)

def insert (entity : Entity) (component : Component) (value : Value) :
    Operation Scene ComponentId := do
  let id ← register component
  add entity id value
  return id

def remove (entity : Entity) (id : ComponentId) : Operation Scene (Option Value) := do
  let signature ← (← get).roster.signature entity
  let previous ← onStore (.replace (fun store => store.remove entity id))
  setSignature entity (signature.erase id)
  return previous

def component (scene : Scene) (entity : Entity) (id : ComponentId) :
    Except Fault (Option Value) := do
  scene.roster.checkAlive entity
  return scene.store.get? entity id

def components (scene : Scene) (entity : Entity) : Except Fault (List (String × Value)) := do
  scene.roster.checkAlive entity
  (scene.store.valuesOf entity).mapM fun (id, value) => do
    let component ← scene.store.component id
    return (component.name, value)

def hasSystem (scene : Scene) (name : String) : Bool :=
  scene.systems.any (fun enrolled => enrolled.system.name == name)

def registerFor (system : String) (catalog : Catalog) (component : String) :
    Operation Scene ComponentId :=
  match catalog.components.find? component with
  | none => throw (.unregisteredComponent component system)
  | some component => register component

/-- Let a system of the catalog run in the scene. The components before the first one that is refused
stay known. -/
def enroll (name : String) (catalog : Catalog) : Operation Scene Unit := do
  match catalog.systems.find? name with
  | none => throw (.unregisteredSystem name)
  | some system =>
    if (← get).hasSystem name then throw (.alreadyRegistered .system name)
    let ids ← system.allComponents.mapM (registerFor name catalog)
    modify fun scene => { scene with systems := scene.systems ++ [⟨system, ids⟩] }

def enrollAll (names : List String) (catalog : Catalog) : Operation Scene Unit :=
  names.forM (fun name => enroll name catalog)

def insertAll (entity : Entity) : List (Component × Value) → Operation Scene Unit
  | [] => return ()
  | (component, value) :: rest => do
    let _ ← insert entity component value
    insertAll entity rest

end Scene

end Stagecraft
