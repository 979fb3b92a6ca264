import Stagecraft.Proofs.Frames
import Stagecraft.Proofs.Population

/-!
Copies: what comes of a snapshot that is loaded into a scene without entities. The copy has the entities of
the source in their order, under the numbers from zero on, with their names; and it has their values, but
for optionals that come back empty. A snapshot does not tell these apart, so the copy has the same one.
-/

namespace Stagecraft

structure Store.DeeplyTyped (store : Store) : Prop where
  /-- The fields of records stand in the order of their names, as `Keyed.ofList` leaves them. -/
  ordered : ∀ component ∈ store.components, component.schema.Ordered
  fits : ∀ entity id value component, store.get? entity id = some value →
    store.component? id = some component → value.Fits component.schema

theorem Store.DeeplyTyped.exists_component {store : Store} (typed : store.DeeplyTyped)
    (distinct : (store.components.map Component.name).Nodup) {entity : Entity} {name : String}
    {value : Value} (held : store.valueOf entity name = some value) :
    ∃ component ∈ store.components, component.name = name ∧ component.schema.Ordered ∧
      value.Fits component.schema := by
  obtain ⟨id, component, known, named, present⟩ := (valueOf_eq_some_iff distinct).mp held
  have listed := mem_components known
  exact ⟨component, listed, named, typed.ordered component listed,
    typed.fits entity id value component present known⟩

namespace Scene

variable {source scene copy : Scene} {index : Registry Component} {repertoire : Repertoire}

/-- Nothing but the values of entities that are alive needs to be looked at. -/
theorem WellFormed.deeplyTyped (wellFormed : source.WellFormed)
    (ordered : ∀ component ∈ source.store.components, component.schema.Ordered)
    (fits : ∀ entity ∈ source.roster.entities, ∀ entry ∈ source.store.valuesOf entity, ∀ component,
      source.store.component? entry.1 = some component → entry.2.Fits component.schema) :
    source.store.DeeplyTyped := by
  refine ⟨ordered, fun entity id value component present known => ?_⟩
  have alive := wellFormed.isAlive_of_get? present
  exact fits entity ((Roster.mem_entities _ entity).mpr alive) (id, value)
    (Store.mem_valuesOf_iff.mpr present) component known

def Describes (index : Registry Component) (scene : Scene) (record : EntityRecord) : Prop :=
  ∀ entry ∈ record.components, ∀ component ∈ scene.store.components, component.name = entry.1 →
    ∃ found, index.find? entry.1 = some found ∧ found.schema = component.schema

theorem entry_of_record (distinct : (source.store.components.map Component.name).Nodup)
    (typed : source.store.DeeplyTyped) {entity : Entity} {record : EntityRecord}
    (recorded : source.record entity = .ok record) (described : Describes index source record)
    (owner : String) {name : String} {json : Json} (member : (name, json) ∈ record.components) :
    ∃ component value, Blueprint.entry owner index (name, json) = .ok (component, value.restored) ∧
      component.name = name ∧ component.heading ∈ source.store.components.map Component.heading ∧
      value.restored.schema = component.schema ∧
      source.store.valueOf entity name = some value := by
  obtain ⟨value, held, encoded⟩ := ((record_ok distinct recorded).2.2 name json).mp member
  obtain ⟨component, listed, same, ordered, fits⟩ := typed.exists_component distinct held
  obtain ⟨found, known, schema⟩ := described _ member component listed same
  have named : found.name = name := Registry.find?_name known
  have heading : component.heading = found.heading := Prod.ext (same.trans named.symm) schema.symm
  rw [← schema] at ordered fits
  refine ⟨found, value, Blueprint.entry_ok_iff.mpr
    ⟨known, Value.decodeAs_encode value ordered fits encoded⟩, named,
    List.mem_map.mpr ⟨component, listed, heading⟩, ?_, held⟩
  exact Value.schema_of_fits _ (Value.fits_restored value fits)

theorem mem_record (distinct : (source.store.components.map Component.name).Nodup) {entity : Entity}
    {record : EntityRecord} (recorded : source.record entity = .ok record) {name : String}
    {value : Value} (held : source.store.valueOf entity name = some value) :
    ∃ json, (name, json) ∈ record.components := by
  obtain ⟨id, component, -, -, present⟩ := (Store.valueOf_eq_some_iff distinct).mp held
  have finite := (source.exists_record_iff entity).mp ⟨record, recorded⟩ id value present
  obtain ⟨json, encoded⟩ := (Value.exists_encode_iff value).mpr finite
  exact ⟨json, ((record_ok distinct recorded).2.2 name json).mpr ⟨value, held, encoded⟩⟩

/-- The record of an entity is read as a blueprint with its name and its values, as they come back. -/
theorem ofRecord_record (distinct : (source.store.components.map Component.name).Nodup)
    (typed : source.store.DeeplyTyped)
    (asked : source.store.components.map Component.heading ⊆ repertoire.headings)
    {entity : Entity} {record : EntityRecord} (recorded : source.record entity = .ok record)
    (described : Describes index source record) (owner : String) :
    ∃ blueprint, Blueprint.ofRecord owner index record = .ok blueprint ∧
      blueprint.name = source.givenName? entity ∧ Suitable repertoire blueprint.values ∧
      ∀ name, intended blueprint.values name =
        (source.store.valueOf entity name).map Value.restored := by
  have reads {name : String} {json : Json} (member : (name, json) ∈ record.components) :=
    entry_of_record distinct typed recorded described owner member
  obtain ⟨named, sorted, -⟩ := record_ok distinct recorded
  obtain ⟨values, read⟩ : ∃ values,
      record.components.mapM (Blueprint.entry owner index) = .ok values := by
    rw [exists_mapM_iff]
    rintro ⟨name, json⟩ member
    obtain ⟨component, value, here, -⟩ := reads member
    exact ⟨_, here⟩
  have decoded : Blueprint.ofRecord owner index record = .ok ⟨record.name, values⟩ := by
    rw [Blueprint.ofRecord_eq, read]
    rfl
  have names := Blueprint.ofRecord_names decoded
  have distinctNames : (values.map (fun entry => entry.1.name)).Nodup := names ▸ sorted.distinct
  -- Conversely, every value of the blueprint was read from a document.
  have comes {component : Component} {content : Value} (member : (component, content) ∈ values) :
      component.heading ∈ source.store.components.map Component.heading ∧
        content.schema = component.schema ∧ ∃ value, content = value.restored ∧
          source.store.valueOf entity component.name = some value := by
    obtain ⟨⟨name, json⟩, inside, here⟩ := (mem_mapM_iff read).mp member
    obtain ⟨found, value, there, rfl, wanted, schema, held⟩ := reads inside
    rw [there] at here
    cases here
    exact ⟨wanted, schema, value, rfl, held⟩
  refine ⟨⟨record.name, values⟩, decoded, named, ⟨?_, ?_, distinctNames⟩, ?_⟩
  · rintro ⟨component, content⟩ member
    exact asked (comes member).1
  · rintro ⟨component, content⟩ member
    exact (comes member).2.1
  · intro name
    have listed : ((values.map (fun entry => (entry.1.name, entry.2))).map Prod.fst).Nodup := by
      rw [List.map_map]
      exact distinctNames
    apply Option.ext
    intro content
    rw [intended, Keyed.lookup_eq_some_iff listed, Option.map_eq_some_iff, List.mem_map]
    constructor
    · rintro ⟨⟨component, found⟩, inside, pair⟩
      cases pair
      obtain ⟨-, -, value, restored, held⟩ := comes inside
      exact ⟨value, held, restored.symm⟩
    · rintro ⟨value, held, rfl⟩
      obtain ⟨json, member⟩ := mem_record distinct recorded held
      obtain ⟨component, found, here, rfl, -, -, same⟩ := reads member
      rw [held] at same
      cases same
      exact ⟨(component, value.restored), (mem_mapM_iff read).mpr ⟨_, member, here⟩, rfl⟩

/-- The second scene has the entities of the first, in their order but under the numbers from zero on,
with their names and their values, as these come back. -/
structure Copies (source copy : Scene) : Prop where
  dense : copy.Dense source.roster.entities.length
  givenName? : ∀ place entity, source.roster.entities[place]? = some entity →
    copy.givenName? ⟨place⟩ = source.givenName? entity
  valueOf : ∀ place entity name, source.roster.entities[place]? = some entity →
    copy.store.valueOf ⟨place⟩ name = (source.store.valueOf entity name).map Value.restored

theorem distinct_givenNames (wellFormed : source.WellFormed) :
    (source.roster.entities.filterMap source.givenName?).Nodup := by
  apply (Roster.entities_distinct source.roster).filterMap
  intro first second name one other
  rw [Option.mem_def, ← wellFormed.named] at one other
  rw [one] at other
  exact Option.some.inj other

structure MeantFor (source : Scene) (repertoire : Repertoire) (entity : Entity)
    (blueprint : Blueprint) : Prop where
  name : blueprint.name = source.givenName? entity
  suitable : Suitable repertoire blueprint.values
  intended : ∀ name, intended blueprint.values name =
    (source.store.valueOf entity name).map Value.restored

/-- The records of a scene are read as blueprints for copies of its entities, in order. -/
theorem exists_blueprints (distinct : (source.store.components.map Component.name).Nodup)
    (typed : source.store.DeeplyTyped)
    (asked : source.store.components.map Component.heading ⊆ repertoire.headings)
    {records : List EntityRecord} (recorded : source.roster.entities.mapM source.record = .ok records)
    (described : ∀ record ∈ records, Describes index source record) (owner : String) :
    ∃ blueprints, records.mapM (Blueprint.ofRecord owner index) = .ok blueprints ∧
      List.Forall₂ (source.MeantFor repertoire) source.roster.entities blueprints := by
  generalize source.roster.entities = entities at recorded ⊢
  rw [mapM_ok_iff] at recorded
  induction recorded with
  | nil => exact ⟨[], rfl, .nil⟩
  | @cons entity record _ rest here _ ih =>
    obtain ⟨describedHere, describedRest⟩ := List.forall_mem_cons.mp described
    obtain ⟨blueprint, read, named, suitable, values⟩ :=
      ofRecord_record distinct typed asked here describedHere owner
    obtain ⟨blueprints, others, meant⟩ := ih describedRest
    refine ⟨blueprint :: blueprints, ?_, .cons ⟨named, suitable, values⟩ meant⟩
    rw [List.mapM_cons, read, others]
    rfl

theorem filterMap_name_of_meant {entities : List Entity} {blueprints : List Blueprint}
    (meant : List.Forall₂ (source.MeantFor repertoire) entities blueprints) :
    blueprints.filterMap Blueprint.name = entities.filterMap source.givenName? := by
  induction meant with
  | nil => rfl
  | cons here _ ih => rw [List.filterMap_cons, List.filterMap_cons, here.name, ih]

/-- A snapshot is loaded into a scene without entities if the index describes it and there is room. -/
theorem load_copies (wellFormed : source.WellFormed)
    (distinct : (source.store.components.map Component.name).Nodup)
    (typed : source.store.DeeplyTyped) {snapshot : Snapshot} (taken : source.snapshot = .ok snapshot)
    (described : ∀ record ∈ snapshot.entities, Describes index source record)
    (asked : source.store.components.map Component.heading ⊆ repertoire.headings)
    (stocked : scene.Stocked repertoire) (dense : scene.Dense 0)
    (unnamed : ∀ given, scene.find? given = none)
    (room : source.roster.entities.length ≤ scene.roster.capacity) :
    ∃ copy, load snapshot index scene =
        (.ok ((List.range source.roster.entities.length).map Entity.mk), copy) ∧
      copy.Stocked repertoire ∧ source.Copies copy ∧ copy.systems = scene.systems ∧
      copy.limits = scene.limits := by
  obtain ⟨records, recorded, same⟩ := bind_ok taken
  cases same
  obtain ⟨blueprints, decoded, meant⟩ :=
    exists_blueprints distinct typed asked recorded described source.name
  have length : source.roster.entities.length = blueprints.length := meant.length_eq
  have distinctNames : (blueprints.filterMap Blueprint.name).Nodup := by
    rw [filterMap_name_of_meant meant]
    exact distinct_givenNames wellFormed
  have suitable : ∀ blueprint ∈ blueprints, Suitable repertoire blueprint.values := by
    intro blueprint member
    obtain ⟨entity, -, here⟩ := exists_member_of_forall₂ meant member
    exact here.suitable
  have roomAll : 0 + blueprints.length ≤ scene.roster.capacity := by rwa [Nat.zero_add, ← length]
  obtain ⟨copy, all, stockedCopy, populates⟩ := createAll_populates suitable distinctNames stocked
    dense roomAll (fun given _ => unnamed given)
  have ran : load ⟨source.name, records⟩ index scene =
      (.ok ((List.range source.roster.entities.length).map Entity.mk), copy) := by
    unfold load
    rw [decoded]
    dsimp only
    rw [all, length, List.range_eq_range']
  have denseCopy := populates.dense
  rw [Nat.zero_add, ← length] at denseCopy
  refine ⟨copy, ran, stockedCopy, ⟨denseCopy, ?_, ?_⟩, populates.systems, populates.limits⟩
  · intro place entity alive
    obtain ⟨blueprint, listed, here⟩ := getElem?_of_forall₂ meant alive
    have named := populates.givenName? place blueprint listed
    rwa [Nat.zero_add, here.name] at named
  · intro place entity name alive
    obtain ⟨blueprint, listed, here⟩ := getElem?_of_forall₂ meant alive
    have held := populates.valueOf place blueprint name listed
    rwa [Nat.zero_add, here.intended] at held

theorem Copies.record (copies : source.Copies copy)
    (distinct : (source.store.components.map Component.name).Nodup)
    (distinctCopy : (copy.store.components.map Component.name).Nodup) {place : Nat} {entity : Entity}
    (alive : source.roster.entities[place]? = some entity) {record : EntityRecord}
    (recorded : source.record entity = .ok record) : copy.record ⟨place⟩ = .ok record := by
  have finite : ∀ id value, copy.store.get? ⟨place⟩ id = some value → value.Finite := by
    intro id value present
    obtain ⟨component, known⟩ := Store.component?_of_get? present
    have held : copy.store.valueOf ⟨place⟩ component.name = some value :=
      (Store.valueOf_eq_some_iff distinctCopy).mpr ⟨id, component, known, rfl, present⟩
    rw [copies.valueOf place entity _ alive, Option.map_eq_some_iff] at held
    obtain ⟨original, there, rfl⟩ := held
    obtain ⟨kind, _, -, -, stored⟩ := (Store.valueOf_eq_some_iff distinct).mp there
    have written := (source.exists_record_iff entity).mp ⟨record, recorded⟩ kind original stored
    rw [← Value.exists_encode_iff] at written ⊢
    rwa [Value.encode_restored]
  obtain ⟨found, recordedCopy⟩ := (copy.exists_record_iff ⟨place⟩).mpr finite
  rw [recordedCopy]
  apply congrArg Except.ok
  apply record_congr distinct distinctCopy (copies.givenName? place entity alive) _ recorded
    recordedCopy
  intro name
  rw [copies.valueOf place entity name alive, Option.map_map]
  congr 1
  funext value
  exact Value.encode_restored value

/-- The copy has a snapshot with the same records. -/
theorem Copies.snapshot (copies : source.Copies copy)
    (distinct : (source.store.components.map Component.name).Nodup)
    (distinctCopy : (copy.store.components.map Component.name).Nodup) {snapshot : Snapshot}
    (taken : source.snapshot = .ok snapshot) :
    copy.snapshot = .ok ⟨copy.name, snapshot.entities⟩ := by
  obtain ⟨records, recorded, same⟩ := bind_ok taken
  cases same
  have again : copy.roster.entities.mapM copy.record = .ok records := by
    rw [mapM_ok_iff, List.forall₂_iff_get] at recorded ⊢
    obtain ⟨length, every⟩ := recorded
    rw [copies.dense.entities]
    refine ⟨by rw [List.length_map, List.length_range, length], fun place inside there => ?_⟩
    have here : place < source.roster.entities.length := length ▸ there
    simp only [List.get_eq_getElem, List.getElem_map, List.getElem_range]
    exact copies.record distinct distinctCopy (List.getElem?_eq_getElem here)
      (every place here there)
  unfold Scene.snapshot
  rw [again]
  rfl

/-! ### Room for copies -/

theorem length_entities_le (wellFormed : scene.WellFormed) :
    scene.roster.entities.length ≤ scene.roster.capacity := by
  have slots : scene.roster.slots.countP Option.isSome ≤ scene.roster.slots.size :=
    Array.countP_le_size
  have size := wellFormed.roster.slots_size
  have bound := wellFormed.roster.fresh_le
  rw [Roster.length_entities wellFormed.roster, wellFormed.roster.counted]
  omega

theorem empty_dense (name : String) (limits : Limits) : (empty name limits).Dense 0 := by
  intro entity
  simp [empty, Roster.empty, Roster.isAlive, Roster.signature?]

theorem empty_stocked (repertoire : Repertoire) (name : String) (limits : Limits) :
    (empty name limits).Stocked repertoire :=
  ⟨empty_wellFormed name limits, List.nodup_nil, nofun⟩

/-- Whatever a host asked of a new scene before: its snapshot, if all stored values are typed in depth, is
loaded into another new scene by every index that has the components of the scene. The entities come under
the numbers from zero on, in their order and with their names, and their snapshot has the same records. And
there is no snapshot exactly if some stored value is not finite. -/
theorem snapshot_returns (title : String) (commands : List Command) (index : Registry Component)
    (fresh : String) (limits : Limits) :
    let source := (empty title .standard).after commands
    (∀ snapshot, source.snapshot = .ok snapshot → source.store.DeeplyTyped →
      (∀ record ∈ snapshot.entities, Describes index source record) →
      ∃ copy again,
        load snapshot index (empty fresh limits) =
          (.ok ((List.range source.roster.entities.length).map Entity.mk), copy) ∧
        (∀ place entity, source.roster.entities[place]? = some entity →
          copy.givenName? ⟨place⟩ = source.givenName? entity) ∧
        copy.snapshot = .ok again ∧ again.entities = snapshot.entities) ∧
    ((∃ fault, source.snapshot = .error fault) ↔
      ∃ entity id value, source.store.get? entity id = some value ∧ ¬value.Finite) := by
  intro source
  have wellFormed : source.WellFormed := after_wellFormed title .standard commands
  have distinct := after_distinct title .standard commands
  constructor
  · intro snapshot taken typed described
    have room : source.roster.entities.length ≤ (empty fresh limits).roster.capacity := by
      have bound := length_entities_le wellFormed
      rwa [after_capacity commands (empty_wellFormed title .standard)] at bound
    have stocked := empty_stocked (source.repertoire wellFormed distinct) fresh limits
    obtain ⟨copy, loaded, stocked, copies, -⟩ := load_copies wellFormed distinct typed taken described
      (List.Subset.refl _) stocked (empty_dense fresh limits) (fun _ => rfl) room
    exact ⟨copy, _, loaded, copies.givenName?,
      copies.snapshot distinct stocked.distinct taken, rfl⟩
  · have finite := exists_snapshot_iff wellFormed
    constructor
    · rintro ⟨fault, refused⟩
      by_contra none
      obtain ⟨snapshot, taken⟩ := finite.mpr (fun entity id value present =>
        not_not.mp (fun infinite => none ⟨entity, id, value, present, infinite⟩))
      rw [refused] at taken
      cases taken
    · rintro ⟨entity, id, value, present, infinite⟩
      cases answer : source.snapshot with
      | error fault => exact ⟨fault, rfl⟩
      | ok snapshot => exact absurd (finite.mp ⟨snapshot, answer⟩ entity id value present) infinite

def title : Component := .of "Title" (.optional (.optional (.basic .text)))

def hallCommands : List Command :=
  [.create, .createNamed "hall", .destroy ⟨0⟩,
    .insert ⟨1⟩ title (.filled (.vacant (.basic .text)))]

/-- The hall comes back under another number, and with another title of the same document. -/
theorem hall_returns :
    let source := (empty "stage" .standard).after hallCommands
    let snapshot : Snapshot := ⟨"stage", [⟨some "hall", [("Title", .null)]⟩]⟩
    source.snapshot = .ok snapshot ∧ source.store.DeeplyTyped ∧
      (∀ record ∈ snapshot.entities, Describes ⟨[title]⟩ source record) ∧
      ∃ copy again, load snapshot ⟨[title]⟩ (empty "copy" .standard) = (.ok [⟨0⟩], copy) ∧
        copy.givenName? ⟨0⟩ = some "hall" ∧ copy.snapshot = .ok again ∧
        again.entities = snapshot.entities := by
  intro source snapshot
  have entities : source.roster.entities = [⟨1⟩] := by decide +kernel
  have components : source.store.components = [title] := by decide +kernel
  have taken : source.snapshot = .ok snapshot := by decide +kernel
  have values : source.store.valuesOf ⟨1⟩ = [(⟨0⟩, .filled (.vacant (.basic .text)))] := by
    decide +kernel
  have typed : source.store.DeeplyTyped := by
    apply (after_wellFormed "stage" .standard hallCommands).deeplyTyped
    · intro component listed
      rw [components, List.mem_singleton] at listed
      simp [listed, title, Component.of, Schema.Ordered]
    · intro entity alive entry stored component known
      rw [entities, List.mem_singleton] at alive
      rw [alive, values, List.mem_singleton] at stored
      rw [stored, Store.component?_eq, components] at known
      cases known
      rw [stored]
      simp [title, Component.of, Value.filled, Value.vacant, Value.Fits, Value.schema]
  have described : ∀ record ∈ snapshot.entities, Describes ⟨[title]⟩ source record := by
    intro record member entry inside component listed _
    rw [List.mem_singleton.mp member, List.mem_singleton] at inside
    rw [components, List.mem_singleton] at listed
    rw [inside, listed]
    exact ⟨title, rfl, rfl⟩
  obtain ⟨copy, again, loaded, named, recorded, same⟩ :=
    (snapshot_returns "stage" hallCommands ⟨[title]⟩ "copy" .standard).1 snapshot taken typed described
  have name : copy.givenName? ⟨0⟩ = source.givenName? ⟨1⟩ := named 0 ⟨1⟩ (by rw [entities]; rfl)
  have called : source.givenName? ⟨1⟩ = some "hall" := by decide +kernel
  have count : (List.range source.roster.entities.length).map Entity.mk = [⟨0⟩] := by
    rw [entities]
    rfl
  rw [count] at loaded
  exact ⟨taken, typed, described, copy, again, loaded, name.trans called, recorded, same⟩

end Scene

end Stagecraft
