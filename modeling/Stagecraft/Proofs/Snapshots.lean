import Stagecraft.Proofs.Interchange
import Stagecraft.Proofs.Registration

/-!
Snapshots: what the record of an entity says. It lists the documents of the entity's values by the names of
their components, so it does not depend on the numbers that a scene gave to them.
-/

namespace Stagecraft

namespace Store

def valueOf (store : Store) (entity : Entity) (name : String) : Option Value :=
  (store.componentId? name).bind (fun id => store.get? entity id)

variable {store : Store}

/-- By distinct names, an entity has exactly the values that it has by their kinds. -/
theorem valueOf_eq_some_iff (distinct : (store.components.map Component.name).Nodup)
    {entity : Entity} {name : String} {value : Value} :
    store.valueOf entity name = some value ↔ ∃ id component,
      store.component? id = some component ∧ component.name = name ∧
        store.get? entity id = some value := by
  rw [valueOf, Option.bind_eq_some_iff]
  constructor
  · rintro ⟨id, known, present⟩
    obtain ⟨component, registered, named⟩ := exists_component?_of_componentId? known
    exact ⟨id, component, registered, named, present⟩
  · rintro ⟨id, component, registered, rfl, present⟩
    exact ⟨id, componentId?_name distinct registered, present⟩

theorem valueOf_write {name : String} {id : ComponentId} (known : store.componentId? name = some id)
    (opened : store.isOpen id = true) (entity other : Entity) (value : Value) (kind : String) :
    (store.write entity id (some value)).valueOf other kind =
      if entity = other ∧ name = kind then some value else store.valueOf other kind := by
  rw [valueOf, componentId?_congr (fun kind => component?_write store entity id kind (some value)),
    valueOf]
  by_cases same : name = kind
  · subst same
    obtain ⟨column, present⟩ := Option.isSome_iff_exists.mp opened
    rw [known, Option.bind_some, Option.bind_some, get?_write, present]
    simp
  · cases sought : store.componentId? kind with
    | none => simp [same]
    | some found =>
      have apart : id ≠ found := by
        rintro rfl
        obtain ⟨component, registered, named⟩ := exists_component?_of_componentId? known
        obtain ⟨namesake, again, named'⟩ := exists_component?_of_componentId? sought
        rw [registered] at again
        cases again
        exact same (named.symm.trans named')
      rw [Option.bind_some, Option.bind_some, get?_write]
      simp [same, apart]

theorem mem_valuesOf_iff {entity : Entity} {id : ComponentId} {value : Value} :
    (id, value) ∈ store.valuesOf entity ↔ store.get? entity id = some value := by
  refine ⟨get?_of_mem_valuesOf, fun present => ?_⟩
  obtain ⟨component, known⟩ := component?_of_get? present
  have inside : id ∈ store.ids :=
    List.mem_map.mpr ⟨id.index, List.mem_range.mpr (lt_size_of_component? known), rfl⟩
  exact List.mem_filterMap.mpr ⟨id, inside, by rw [present]; rfl⟩

theorem valuesOf_distinct (store : Store) (entity : Entity) :
    ((store.valuesOf entity).map Prod.fst).Nodup := by
  have distinct : store.ids.Nodup := by
    apply List.nodup_range.map
    rintro _ _ same
    exact congrArg ComponentId.index same
  have listed (id kind : ComponentId) (found : kind ∈ ((store.get? entity id).map
      (fun value => (id, value))).map Prod.fst) : id = kind := by
    obtain ⟨_, present, same⟩ := Option.map_eq_some_iff.mp found
    obtain ⟨value, -, rfl⟩ := Option.map_eq_some_iff.mp present
    exact same
  rw [valuesOf, List.map_filterMap]
  exact distinct.filterMap
    (fun id other kind here there => (listed id kind here).trans (listed other kind there).symm)

end Store

namespace Scene

variable {scene : Scene}

def document (scene : Scene) : ComponentId × Value → Except Fault (String × Json)
  | (id, value) => do
    let component ← scene.store.component id
    match value.encode with
    | .ok json => return (component.name, json)
    | .error reason => throw (.unencodable reason)

theorem record_eq (scene : Scene) (entity : Entity) : scene.record entity = (do
    let documents ← (scene.store.valuesOf entity).mapM scene.document
    return ⟨scene.givenName? entity, Keyed.ofList documents⟩) := rfl

theorem document_ok_iff {id : ComponentId} {value : Value} {name : String} {json : Json} :
    scene.document (id, value) = .ok (name, json) ↔ ∃ component,
      scene.store.component? id = some component ∧ component.name = name ∧
        value.encode = .ok json := by
  unfold document Store.component
  cases known : scene.store.component? id with
  | none => simp only [known, bind, Except.bind]; simp
  | some component =>
    simp only [known, bind, Except.bind]
    cases value.encode with
    | ok found => simp [pure, Except.pure]
    | error reason => simp [throw, throwThe, MonadExceptOf.throw]

theorem documents_distinct (distinct : (scene.store.components.map Component.name).Nodup)
    {values : List (ComponentId × Value)} {documents : List (String × Json)}
    (listed : values.mapM scene.document = .ok documents) (kinds : (values.map Prod.fst).Nodup) :
    (documents.map Prod.fst).Nodup := by
  rw [mapM_ok_iff] at listed
  induction listed with
  | nil => exact List.nodup_nil
  | @cons first entry values documents here behind ih =>
    obtain ⟨id, value⟩ := first
    obtain ⟨name, json⟩ := entry
    rw [List.map_cons, List.nodup_cons] at kinds ⊢
    refine ⟨fun inside => ?_, ih kinds.2⟩
    obtain ⟨⟨_, other⟩, found, rfl⟩ := List.mem_map.mp inside
    obtain ⟨⟨kind, held⟩, member, there⟩ := (mem_mapM_iff (mapM_ok_iff.mpr behind)).mp found
    obtain ⟨component, known, named, -⟩ := document_ok_iff.mp here
    obtain ⟨namesake, registered, same, -⟩ := document_ok_iff.mp there
    have one := Store.componentId?_name distinct known
    have two := Store.componentId?_name distinct registered
    rw [named] at one
    rw [same, one] at two
    cases two
    exact kinds.1 (List.mem_map.mpr ⟨_, member, rfl⟩)

/-- The record of an entity has its name, and the documents of its values in the order of the names of
their components. -/
theorem record_ok (distinct : (scene.store.components.map Component.name).Nodup) {entity : Entity}
    {record : EntityRecord} (recorded : scene.record entity = .ok record) :
    record.name = scene.givenName? entity ∧ Keyed.Sorted record.components ∧
      ∀ name json, (name, json) ∈ record.components ↔
        ∃ value, scene.store.valueOf entity name = some value ∧ value.encode = .ok json := by
  rw [record_eq] at recorded
  obtain ⟨documents, listed, same⟩ := bind_ok recorded
  cases same
  obtain ⟨sorted, members⟩ := Keyed.ofList_spec
    (documents_distinct distinct listed (scene.store.valuesOf_distinct entity))
  refine ⟨rfl, sorted, fun name json => ?_⟩
  rw [members, mem_mapM_iff listed]
  constructor
  · rintro ⟨⟨id, value⟩, member, written⟩
    obtain ⟨component, known, named, encoded⟩ := document_ok_iff.mp written
    exact ⟨value, (Store.valueOf_eq_some_iff distinct).mpr
      ⟨id, component, known, named, Store.mem_valuesOf_iff.mp member⟩, encoded⟩
  · rintro ⟨value, held, encoded⟩
    obtain ⟨id, component, known, named, present⟩ := (Store.valueOf_eq_some_iff distinct).mp held
    exact ⟨(id, value), Store.mem_valuesOf_iff.mpr present,
      document_ok_iff.mpr ⟨component, known, named, encoded⟩⟩

theorem exists_record_iff (scene : Scene) (entity : Entity) :
    (∃ record, scene.record entity = .ok record) ↔
      ∀ id value, scene.store.get? entity id = some value → value.Finite := by
  have listed : (∃ record, scene.record entity = .ok record) ↔
      ∃ documents, (scene.store.valuesOf entity).mapM scene.document = .ok documents := by
    rw [record_eq]
    constructor
    · rintro ⟨record, recorded⟩
      obtain ⟨documents, listed, -⟩ := bind_ok recorded
      exact ⟨documents, listed⟩
    · rintro ⟨documents, listed⟩
      exact ⟨⟨scene.givenName? entity, Keyed.ofList documents⟩, by rw [listed]; rfl⟩
  rw [listed, exists_mapM_iff]
  constructor
  · intro written id value present
    obtain ⟨⟨name, json⟩, here⟩ := written (id, value) (Store.mem_valuesOf_iff.mpr present)
    obtain ⟨-, -, -, encoded⟩ := document_ok_iff.mp here
    exact (Value.exists_encode_iff value).mp ⟨json, encoded⟩
  · rintro finite ⟨id, value⟩ member
    have present := Store.mem_valuesOf_iff.mp member
    obtain ⟨component, known⟩ := Store.component?_of_get? present
    obtain ⟨json, encoded⟩ := (Value.exists_encode_iff value).mpr (finite id value present)
    exact ⟨(component.name, json), document_ok_iff.mpr ⟨component, known, rfl, encoded⟩⟩

/-- A scene has a snapshot exactly if every value that is stored in it is finite. -/
theorem exists_snapshot_iff (wellFormed : scene.WellFormed) :
    (∃ snapshot, scene.snapshot = .ok snapshot) ↔
      ∀ entity id value, scene.store.get? entity id = some value → value.Finite := by
  have recorded : (∃ snapshot, scene.snapshot = .ok snapshot) ↔
      ∃ records, scene.roster.entities.mapM scene.record = .ok records := by
    unfold snapshot
    constructor
    · rintro ⟨snapshot, taken⟩
      obtain ⟨records, listed, -⟩ := bind_ok taken
      exact ⟨records, listed⟩
    · rintro ⟨records, listed⟩
      exact ⟨⟨scene.name, records⟩, by rw [listed]; rfl⟩
  rw [recorded, exists_mapM_iff]
  constructor
  · intro every entity id value present
    -- Nothing is stored for an entity that is not alive, so its values need no record.
    have alive := (Roster.mem_entities _ entity).mpr (wellFormed.isAlive_of_get? present)
    exact (scene.exists_record_iff entity).mp (every entity alive) id value present
  · intro finite entity _
    exact (scene.exists_record_iff entity).mpr (finite entity)

/-- Two entities whose values have the same documents under the same names, and which have the same name
themselves, have the same record. -/
theorem record_congr {other : Scene}
    (distinct : (scene.store.components.map Component.name).Nodup)
    (distinctOther : (other.store.components.map Component.name).Nodup) {entity copy : Entity}
    (named : other.givenName? copy = scene.givenName? entity)
    (same : ∀ name, (other.store.valueOf copy name).map Value.encode =
      (scene.store.valueOf entity name).map Value.encode)
    {record found : EntityRecord} (recorded : scene.record entity = .ok record)
    (recordedOther : other.record copy = .ok found) : found = record := by
  obtain ⟨name, sorted, members⟩ := record_ok distinct recorded
  obtain ⟨nameOther, sortedOther, membersOther⟩ := record_ok distinctOther recordedOther
  have components : found.components = record.components := by
    apply sortedOther.eq_of_mem_iff sorted
    rintro ⟨component, json⟩
    rw [members, membersOther]
    have here : (∃ value, other.store.valueOf copy component = some value ∧
        value.encode = .ok json) ↔ (other.store.valueOf copy component).map Value.encode =
          some (.ok json) := Option.map_eq_some_iff.symm
    rw [here, same, Option.map_eq_some_iff]
  cases record
  cases found
  exact congrArg₂ EntityRecord.mk (nameOther.trans (named.trans name.symm)) components

end Scene

end Stagecraft
