import Stagecraft.Json.Reader
import Stagecraft.Scene

/-!
Snapshots: the entities of a scene as documents. Loading reads every value before it creates any
entity, and takes back what it created if it fails later.
-/

namespace Stagecraft

structure EntityRecord where
  name : Option String
  components : Keyed Json
deriving DecidableEq, Inhabited

structure Snapshot where
  name : String
  entities : List EntityRecord
deriving DecidableEq, Inhabited

namespace EntityRecord

def encode (record : EntityRecord) : Json :=
  let name := match record.name with
    | some name => [("name", Json.text name)]
    | none => []
  .object (name ++ [("components", .object record.components)])

end EntityRecord

namespace Snapshot

def encode (snapshot : Snapshot) : Json :=
  .object [("name", .text snapshot.name),
    ("entities", .array (snapshot.entities.map EntityRecord.encode))]

end Snapshot

def EntityRecord.name? : Option Json.Form → Option (Option String)
  | none => some none
  | some .null => some none
  | some form => form.text?.map some

/-- The documents of the components by name, which may be missing. The entries of the document of a
component are at most `depth` levels deep. -/
def EntityRecord.components? (depth : Nat) : Option Json.Form → Option (Keyed Json)
  | none => some []
  | some (.object entries) => do
    let entries ← Json.Form.entries? depth entries
    return (Keyed.ofList entries).map (fun entry => (entry.1, entry.2.sorted))
  | some _ => none

/-- A record of an entity, four levels down in the document of a scene. Both parts may be missing. -/
def EntityRecord.decode? (form : Json.Form) : Option EntityRecord := do
  match ← form.parts? ["name", "components"] with
  | [name, components] =>
    return ⟨← EntityRecord.name? name,
      ← EntityRecord.components? (Json.nestingLimit - 4) components⟩
  | _ => none

def Snapshot.ofParts? (name entities : Option Json.Form) : Option Snapshot := do
  let name ← (← name).text?
  let items ← Json.Form.itemsOrNone? entities
  return ⟨name, ← items.mapM EntityRecord.decode?⟩

def Snapshot.read? (text : String) : Option Snapshot := do
  match ← (← Json.Form.ofText? text).parts? ["name", "entities"] with
  | [name, entities] => Snapshot.ofParts? name entities
  | _ => none

structure Blueprint where
  name : Option String
  values : List (Component × Value)

namespace Blueprint

def ofRecord (owner : String) (components : Registry Component) (record : EntityRecord) :
    Except Fault Blueprint := do
  let values ← record.components.mapM fun (name, json) =>
    match components.find? name with
    | none => throw (.unregisteredComponent name owner)
    | some component =>
      match Value.decodeAs component.schema json with
      | .error reason => throw (.componentType name reason)
      | .ok value => return (component, value)
  return ⟨record.name, values⟩

end Blueprint

namespace Scene

def record (scene : Scene) (entity : Entity) : Except Fault EntityRecord := do
  let documents ← (scene.store.valuesOf entity).mapM fun (id, value) => do
    let component ← scene.store.component id
    match value.encode with
    | .ok json => return (component.name, json)
    | .error reason => throw (.unencodable reason)
  return ⟨scene.givenName? entity, Keyed.ofList documents⟩

def snapshot (scene : Scene) : Except Fault Snapshot := do
  let entities ← scene.roster.entities.mapM scene.record
  return ⟨scene.name, entities⟩

def createAs : Option String → Operation Scene Entity
  | some name => createNamed name
  | none => create

/-- Create entities one after the other, up to the first that fails. The entities come back even
then, the failed one included if it came to be. -/
def createAll : List Blueprint → Scene → Option Fault × List Entity × Scene
  | [], scene => (none, [], scene)
  | blueprint :: rest, scene =>
    match createAs blueprint.name scene with
    | (.error fault, scene) => (some fault, [], scene)
    | (.ok entity, scene) =>
      match insertAll entity blueprint.values scene with
      | (.error fault, scene) => (some fault, [entity], scene)
      | (.ok (), scene) =>
        match createAll rest scene with
        | (failed, created, scene) => (failed, entity :: created, scene)

def destroyAll (created : List Entity) (scene : Scene) : Scene :=
  created.foldl (fun scene entity => (destroy entity scene).2) scene

def load (snapshot : Snapshot) (components : Registry Component) :
    Operation Scene (List Entity) := fun scene =>
  match snapshot.entities.mapM (Blueprint.ofRecord snapshot.name components) with
  | .error fault => (.error fault, scene)
  | .ok blueprints =>
    match createAll blueprints scene with
    | (none, created, scene) => (.ok created, scene)
    | (some fault, created, scene) => (.error fault, destroyAll created scene)

end Scene

end Stagecraft
