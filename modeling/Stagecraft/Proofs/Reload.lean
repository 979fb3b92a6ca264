import Stagecraft.Proofs.Copies
import Stagecraft.Proofs.Script.Loading
import Stagecraft.Proofs.Twins

/-!
Reloads: a new scene in which the systems of another are enrolled again, and into which a snapshot of that
scene is loaded. Kinds may have other numbers there, and entities may; but where every system comes from a
script and no value changes on its way through a document, the two scenes are twins.
-/

namespace Stagecraft

theorem Script.Loaded.scripted {system : System} (loaded : Script.Loaded system) :
    system.Scripted := by
  obtain ⟨settings, source, before, summary, after, ran, put, new⟩ := loaded
  obtain ⟨_, decl, -, -, checked⟩ := load_checked ran put new
  obtain ⟨catalog, contract, -, -, rfl⟩ := checked.exists_routine
  exact ⟨settings.routine source catalog decl, fun _ => rfl⟩

/-! ### Schemas -/

namespace Store

variable {store : Store} {name : String} {id : ComponentId}

def schemaOf? (store : Store) (name : String) : Option Schema :=
  (store.componentId? name).bind (fun id => (store.component? id).map Component.schema)

theorem exists_schemaOf? (known : store.componentId? name = some id) :
    ∃ schema, store.schemaOf? name = some schema := by
  obtain ⟨component, registered, -⟩ := exists_component?_of_componentId? known
  exact ⟨component.schema, by rw [schemaOf?, known, Option.bind_some, registered]; rfl⟩

theorem mem_headings {schema : Schema} (found : store.schemaOf? name = some schema) :
    (name, schema) ∈ store.components.map Component.heading := by
  obtain ⟨id, known, schema⟩ := Option.bind_eq_some_iff.mp found
  obtain ⟨component, registered, rfl⟩ := Option.map_eq_some_iff.mp schema
  obtain ⟨same, again, rfl⟩ := exists_component?_of_componentId? known
  rw [registered] at again
  cases again
  exact List.mem_map.mpr ⟨component, mem_components registered, rfl⟩

theorem componentId?_injective {other : String} (known : store.componentId? name = some id)
    (same : store.componentId? other = some id) : name = other := by
  obtain ⟨component, registered, rfl⟩ := exists_component?_of_componentId? known
  obtain ⟨found, again, rfl⟩ := exists_component?_of_componentId? same
  rw [registered] at again
  cases again
  rfl

theorem Stand.mem_iff {names : List String} {ids : List ComponentId} (stand : store.Stand names ids)
    (known : store.componentId? name = some id) : id ∈ ids ↔ name ∈ names := by
  induction stand with
  | nil => simp
  | @cons first kind _ _ here _ ih =>
    have same : id = kind ↔ name = first := by
      constructor
      · rintro rfl
        exact componentId?_injective known here
      · rintro rfl
        rw [known] at here
        exact Option.some.inj here
    rw [List.mem_cons, List.mem_cons, same, ih]

end Store

namespace Scene

variable {source scene copy : Scene} {repertoire : Repertoire}

/-- A system has just its own components in view, with their schemas. -/
theorem viewOf_schema? {enrolled : Enrolled}
    (stand : scene.store.Stand enrolled.system.allComponents enrolled.components) (name : String) :
    (scene.viewOf enrolled).schema? name =
      if name ∈ enrolled.system.allComponents then scene.store.schemaOf? name else none := by
  unfold View.schema? View.componentId? viewOf Store.schemaOf?
  cases known : scene.store.componentId? name with
  | none => simp
  | some id =>
    have visible : id ∈ enrolled.components ↔ name ∈ enrolled.system.allComponents :=
      stand.mem_iff known
    simp only [Option.filter_some, visible, decide_eq_true_eq]
    split <;> rfl

/-- Where both scenes know a name, and the second has components of the first only, the name has the same
schema in both. -/
theorem Stocked.schemaOf? {formed : source.WellFormed}
    {distinct : (source.store.components.map Component.name).Nodup}
    (stocked : copy.Stocked (source.repertoire formed distinct)) {name : String}
    {id kind : ComponentId} (known : source.store.componentId? name = some id)
    (knownCopy : copy.store.componentId? name = some kind) :
    copy.store.schemaOf? name = source.store.schemaOf? name := by
  obtain ⟨schema, found⟩ := Store.exists_schemaOf? known
  obtain ⟨other, foundCopy⟩ := Store.exists_schemaOf? knownCopy
  obtain ⟨component, member, heading⟩ := List.mem_map.mp (Store.mem_headings foundCopy)
  have inside := stocked.known component member
  rw [heading] at inside
  rw [found, foundCopy, Repertoire.schema_eq _ inside (Store.mem_headings found)]

theorem SameSystem.of_stocked {formed : source.WellFormed}
    {distinct : (source.store.components.map Component.name).Nodup}
    (stocked : copy.Stocked (source.repertoire formed distinct)) {enrolled enrolledCopy : Enrolled}
    (same : enrolledCopy.system = enrolled.system) (scripted : enrolled.system.Scripted)
    (stand : source.store.Stand enrolled.system.allComponents enrolled.components)
    (standCopy : copy.store.Stand enrolledCopy.system.allComponents enrolledCopy.components) :
    source.SameSystem copy enrolled enrolledCopy := by
  refine ⟨same, scripted, fun name => ?_⟩
  rw [viewOf_schema? stand, viewOf_schema? standCopy, same]
  split
  · next inside =>
    obtain ⟨id, -, known⟩ := stand.exists_mem inside
    obtain ⟨kind, -, knownCopy⟩ := standCopy.exists_mem (same ▸ inside)
    exact stocked.schemaOf? known knownCopy
  · rfl

/-! ### Systems that are enrolled again -/

structure Offers (scene : Scene) (enrolled : Enrolled) (catalog : Catalog) : Prop where
  system : catalog.systems.find? enrolled.system.name = some enrolled.system
  components : ∀ name ∈ enrolled.system.allComponents, ∃ found,
    catalog.components.find? name = some found ∧ scene.store.schemaOf? name = some found.schema

/-- Further systems are enrolled, and nothing else is different but for their components. -/
structure Equips (systems : List System) (before after : Scene) : Prop where
  frame : after = { before with store := after.store, systems := after.systems }
  grows : before.store.Grows after.store
  systems : after.systems.map Enrolled.system = before.systems.map Enrolled.system ++ systems

theorem Equips.refl (scene : Scene) : scene.Equips [] scene where
  frame := rfl
  grows := .refl _
  systems := (List.append_nil _).symm

theorem Equips.trans {first second third : Scene} {one other : List System}
    (earlier : first.Equips one second) (further : second.Equips other third) :
    first.Equips (one ++ other) third where
  frame := by rw [further.frame, earlier.frame]
  grows := earlier.grows.trans further.grows
  systems := by rw [further.systems, earlier.systems, List.append_assoc]

theorem Equips.hasSystem {later : Scene} {systems : List System}
    (equips : scene.Equips systems later) {name : String} (absent : scene.hasSystem name = false)
    (different : name ∉ systems.map System.name) : later.hasSystem name = false := by
  rw [hasSystem_eq_false_iff] at absent ⊢
  have names : later.systems.map (fun enrolled => enrolled.system.name) =
      scene.systems.map (fun enrolled => enrolled.system.name) ++ systems.map System.name := by
    have same := congrArg (List.map System.name) equips.systems
    rwa [List.map_append, List.map_map, List.map_map] at same
  rw [names, List.mem_append]
  exact fun inside => inside.elim absent different

theorem Stocked.registerAll (system : String) (catalog : Catalog) {names : List String}
    (offered : ∀ name ∈ names, ∃ found, catalog.components.find? name = some found ∧
      found.heading ∈ repertoire.headings) {scene : Scene} (stocked : scene.Stocked repertoire) :
    ∃ ids later, names.mapM (registerFor system catalog) scene = (.ok ids, later) ∧
      later.Stocked repertoire := by
  induction names generalizing scene with
  | nil => exact ⟨[], scene, rfl, stocked⟩
  | cons name rest ih =>
    obtain ⟨⟨found, known, listed⟩, others⟩ := List.forall_mem_cons.mp offered
    obtain ⟨id, store, -, registered, -, -, middle⟩ := stocked.register listed
    obtain ⟨ids, later, all, stockedLater⟩ := ih others middle
    have first : registerFor system catalog name scene = (.ok id, { scene with store := store }) := by
      rw [registerFor, known]
      dsimp only
      rw [register_apply, registered]
    refine ⟨id :: ids, later, ?_, stockedLater⟩
    rw [List.mapM_cons, Operation.bind_apply, first]
    dsimp only
    rw [Operation.bind_apply, all]
    rfl

theorem Stocked.enroll
    (asked : source.store.components.map Component.heading ⊆ repertoire.headings)
    (stocked : scene.Stocked repertoire) {enrolled : Enrolled} {catalog : Catalog}
    (offers : source.Offers enrolled catalog)
    (fresh : scene.hasSystem enrolled.system.name = false) :
    ∃ later, Scene.enroll enrolled.system.name catalog scene = (.ok (), later) ∧
      later.Stocked repertoire ∧ scene.Equips [enrolled.system] later := by
  have offered : ∀ name ∈ enrolled.system.allComponents, ∃ found,
      catalog.components.find? name = some found ∧ found.heading ∈ repertoire.headings := by
    intro name member
    obtain ⟨found, known, schema⟩ := offers.components name member
    have named : found.name = name := Registry.find?_name known
    rw [← named] at schema
    exact ⟨found, named ▸ known, asked (Store.mem_headings schema)⟩
  obtain ⟨ids, middle, all, stockedMiddle⟩ :=
    stocked.registerAll enrolled.system.name catalog offered
  have ran : Scene.enroll enrolled.system.name catalog scene =
      (.ok (), { middle with systems := middle.systems ++ [⟨enrolled.system, ids⟩] }) := by
    rw [enroll_apply, offers.system]
    dsimp only
    rw [fresh, all]
    rfl
  have formed := enroll_keeps enrolled.system.name catalog scene stocked.formed
  rw [ran] at formed
  refine ⟨_, ran, ⟨formed, stockedMiddle.distinct, stockedMiddle.known⟩, ?_⟩
  obtain ⟨system, kinds, store, found, -, grows, -, same⟩ := enroll_ok ran
  rw [offers.system] at found
  cases found
  rw [same]
  exact ⟨rfl, grows, List.map_append⟩

def enrollments (systems : List Enrolled) (catalogs : List Catalog) : List Command :=
  List.zipWith (fun enrolled catalog => .enroll enrolled.system.name catalog) systems catalogs

/-- Systems that are offered, and whose names are distinct and free, can be enrolled one after the other. -/
theorem Stocked.enrollments
    (asked : source.store.components.map Component.heading ⊆ repertoire.headings)
    {systems : List Enrolled} {catalogs : List Catalog}
    (offers : List.Forall₂ source.Offers systems catalogs)
    (distinct : (systems.map (fun enrolled => enrolled.system.name)).Nodup) {scene : Scene}
    (stocked : scene.Stocked repertoire)
    (fresh : ∀ enrolled ∈ systems, scene.hasSystem enrolled.system.name = false) :
    scene.Accepts (Scene.enrollments systems catalogs) ∧
      (scene.after (Scene.enrollments systems catalogs)).Stocked repertoire ∧
      scene.Equips (systems.map Enrolled.system)
        (scene.after (Scene.enrollments systems catalogs)) := by
  induction offers generalizing scene with
  | nil => exact ⟨trivial, stocked, .refl scene⟩
  | @cons enrolled catalog rest others here _ ih =>
    obtain ⟨absent, distinctRest⟩ := List.nodup_cons.mp distinct
    obtain ⟨freshHere, freshRest⟩ := List.forall_mem_cons.mp fresh
    obtain ⟨middle, ran, stockedMiddle, first⟩ := stocked.enroll asked here freshHere
    have performed : (Command.enroll enrolled.system.name catalog).perform scene = (none, middle) :=
      Operation.refusal?_of_ok ran
    -- The first takes no name but its own, which none of the others has.
    have freshMiddle : ∀ other ∈ rest, middle.hasSystem other.system.name = false := by
      intro other behind
      apply first.hasSystem (freshRest other behind)
      rw [List.map_singleton, List.mem_singleton]
      intro same
      exact absent (List.mem_map.mpr ⟨other, behind, same⟩)
    obtain ⟨accepted, stockedLater, equips⟩ := ih distinctRest stockedMiddle freshMiddle
    have after : scene.after (Scene.enrollments (enrolled :: rest) (catalog :: others)) =
        middle.after (Scene.enrollments rest others) := by
      rw [Scene.enrollments, List.zipWith_cons_cons, after_cons, performed]
      rfl
    rw [after]
    refine ⟨⟨congrArg Prod.fst performed, ?_⟩, stockedLater, first.trans equips⟩
    rw [performed]
    exact accepted

/-! ### Snapshots that are loaded again -/

/-- The commands that set a scene up again: some of its systems are enrolled before its snapshot is loaded,
and the others after that. -/
def reloading (source : Scene) (catalogs : List Catalog) (snapshot : Snapshot)
    (index : Registry Component) (early : Nat) : List Command :=
  enrollments (source.systems.take early) (catalogs.take early) ++
    .load snapshot index :: enrollments (source.systems.drop early) (catalogs.drop early)

theorem Copies.equips {later : Scene} {systems : List System} (copies : source.Copies copy)
    (equips : copy.Equips systems later) : source.Copies later where
  dense entity := by
    rw [equips.frame]
    exact copies.dense entity
  givenName? place entity alive := by
    rw [equips.frame]
    exact copies.givenName? place entity alive
  valueOf place entity name alive :=
    (equips.grows.valueOf _ name).trans (copies.valueOf place entity name alive)

theorem Equips.load {fresh : String} {limits : Limits} {systems : List System}
    (equips : (empty fresh limits).Equips systems scene) (stocked : scene.Stocked repertoire)
    (asked : source.store.components.map Component.heading ⊆ repertoire.headings)
    (formed : source.WellFormed) (distinct : (source.store.components.map Component.name).Nodup)
    (room : source.roster.entities.length ≤ Roster.defaultCapacity)
    (typed : source.store.DeeplyTyped) {snapshot : Snapshot} (taken : source.snapshot = .ok snapshot)
    {index : Registry Component}
    (described : ∀ record ∈ snapshot.entities, Describes index source record) :
    ∃ later, (Command.load snapshot index).perform scene = (none, later) ∧
      later.Stocked repertoire ∧ source.Copies later ∧ later.systems = scene.systems ∧
      later.limits = limits := by
  have dense : scene.Dense 0 := by
    rw [equips.frame]
    exact empty_dense fresh limits
  have unnamed (given : String) : scene.find? given = none := by
    rw [equips.frame]
    rfl
  have capacity : scene.roster.capacity = Roster.defaultCapacity := by
    rw [equips.frame]
    rfl
  have same : scene.limits = limits := by
    rw [equips.frame]
    rfl
  obtain ⟨later, loaded, stockedLater, copies, kept, limitsLater⟩ :=
    load_copies formed distinct typed taken described asked stocked dense unnamed (capacity ▸ room)
  exact ⟨later, Operation.refusal?_of_ok loaded, stockedLater, copies, kept, limitsLater.trans same⟩

/-- A new scene accepts all commands that set a scene up again, and has copies of its entities and its
systems then. -/
theorem reloading_copies (formed : source.WellFormed) (enlisted : source.Enlisted)
    (distinct : (source.store.components.map Component.name).Nodup)
    (room : source.roster.entities.length ≤ Roster.defaultCapacity)
    (typed : source.store.DeeplyTyped) {snapshot : Snapshot} (taken : source.snapshot = .ok snapshot)
    {index : Registry Component} (described : ∀ record ∈ snapshot.entities, Describes index source record)
    {catalogs : List Catalog} (offers : List.Forall₂ source.Offers source.systems catalogs)
    (fresh : String) (limits : Limits) (early : Nat) {copy : Scene}
    (reloaded : copy =
      (empty fresh limits).after (source.reloading catalogs snapshot index early)) :
    (empty fresh limits).Accepts (source.reloading catalogs snapshot index early) ∧
      copy.Stocked (source.repertoire formed distinct) ∧ source.Copies copy ∧
      copy.limits = limits ∧
      copy.systems.map Enrolled.system = source.systems.map Enrolled.system := by
  have asked := List.Subset.refl (source.store.components.map Component.heading)
  have names := enlisted.distinct
  rw [← List.take_append_drop early source.systems, List.map_append, List.nodup_append] at names
  obtain ⟨distinctEarly, distinctLate, apart⟩ := names
  obtain ⟨acceptedEarly, stockedEarly, equipsEarly⟩ :=
    (empty_stocked (source.repertoire formed distinct) fresh limits).enrollments asked
      (List.forall₂_take early offers) distinctEarly (fun _ _ => rfl)
  rw [reloading, after_append] at reloaded
  rw [reloading, accepts_append]
  generalize (empty fresh limits).after (enrollments (source.systems.take early) _) = scene at *
  obtain ⟨middle, performed, stockedMiddle, copies, systems, limitsMiddle⟩ :=
    equipsEarly.load stockedEarly asked formed distinct room typed taken described
  -- The snapshot brought no systems in, and those before it have other names than those behind it.
  have absent : ∀ enrolled ∈ source.systems.drop early,
      middle.hasSystem enrolled.system.name = false := by
    intro enrolled behind
    rw [hasSystem, systems]
    apply equipsEarly.hasSystem rfl
    rw [List.map_map]
    exact fun before => apart _ before _ (List.mem_map.mpr ⟨enrolled, behind, rfl⟩) rfl
  obtain ⟨acceptedLate, stockedLate, equipsLate⟩ :=
    stockedMiddle.enrollments asked (List.forall₂_drop early offers) distinctLate absent
  rw [after_cons, performed] at reloaded
  rw [Accepts, performed]
  subst reloaded
  refine ⟨⟨acceptedEarly, rfl, acceptedLate⟩, stockedLate, copies.equips equipsLate, ?_, ?_⟩
  · rw [equipsLate.frame]
    exact limitsMiddle
  · rw [equipsLate.systems, systems, equipsEarly.systems, List.append_assoc, ← List.map_append,
      List.take_append_drop]
    rfl

def place (scene : Scene) (entity : Entity) : Entity := ⟨scene.roster.entities.idxOf entity⟩

theorem getElem?_place {entity : Entity} (alive : scene.roster.isAlive entity = true) :
    scene.roster.entities[(scene.place entity).id]? = some entity :=
  List.getElem?_idxOf ((Roster.mem_entities _ entity).mpr alive)

theorem map_place (scene : Scene) : scene.roster.entities.map scene.place =
    (List.range scene.roster.entities.length).map Entity.mk := by
  apply List.ext_getElem (by simp)
  intro index inside _
  rw [List.length_map] at inside
  rw [List.getElem_map, List.getElem_map, List.getElem_range, place,
    (Roster.entities_distinct _).idxOf_getElem index inside]

/-- Without optionals of optionals, copies have the values of their originals. -/
theorem Copies.valueOf_place (copies : source.Copies copy)
    (distinct : (source.store.components.map Component.name).Nodup)
    (typed : source.store.DeeplyTyped)
    (plain : ∀ component ∈ source.store.components, component.schema.Plain) {entity : Entity}
    (alive : source.roster.isAlive entity = true) (name : String) :
    copy.store.valueOf (source.place entity) name = source.store.valueOf entity name := by
  have copied := copies.valueOf _ entity name (getElem?_place alive)
  cases held : source.store.valueOf entity name with
  | none => rwa [held] at copied
  | some value =>
    obtain ⟨component, listed, -, -, fits⟩ := typed.exists_component distinct held
    have whole := Value.whole_of_plain value (plain component listed) fits
    rw [held, Option.map_some, (Value.restored_eq_iff value).mpr whole] at copied
    exact copied

/-- Scenes with the same systems have the same scripts at work, with the same components in view. -/
theorem sameSystems {formed : source.WellFormed}
    {distinct : (source.store.components.map Component.name).Nodup}
    (stocked : copy.Stocked (source.repertoire formed distinct)) (enlisted : source.Enlisted)
    (enlistedCopy : copy.Enlisted)
    (loaded : ∀ enrolled ∈ source.systems, Script.Loaded enrolled.system)
    (same : copy.systems.map Enrolled.system = source.systems.map Enrolled.system) :
    List.Forall₂ (source.SameSystem copy) source.systems copy.systems := by
  rw [List.forall₂_iff_get]
  have length := congrArg List.length same
  rw [List.length_map, List.length_map] at length
  refine ⟨length.symm, fun index inside insideCopy => ?_⟩
  have system : copy.systems[index].system = source.systems[index].system := by
    have here := congrArg (fun systems => systems[index]?) same
    rw [List.getElem?_map, List.getElem?_map, List.getElem?_eq_getElem inside,
      List.getElem?_eq_getElem insideCopy] at here
    exact Option.some.inj here
  exact .of_stocked stocked system (loaded _ (List.getElem_mem inside)).scripted
    (enlisted.stand _ (List.getElem_mem inside)) (enlistedCopy.stand _ (List.getElem_mem insideCopy))

/-- Whatever a host asked of a new scene before: if all its systems come from scripts, no component has an
optional of an optional, and all stored values are typed in depth, then its snapshot, loaded into another
new scene where its systems are enrolled again in their order, gives a scene that behaves in the same
way. An event to some entities and the event to their copies are refused or cut short for the same reason,
or come to an end with the same report; the same is printed; and the copies have the values of their
originals afterwards. -/
theorem reloaded_mirrors (title : String) (commands : List Command) (snapshot : Snapshot)
    (index : Registry Component) (catalogs : List Catalog) (fresh : String) (early : Nat)
    (events : Registry Contract) (event : Event) :
    let source := (empty title .standard).after commands
    let reload := source.reloading catalogs snapshot index early
    let copy := (empty fresh source.limits).after reload
    (∀ enrolled ∈ source.systems, Script.Loaded enrolled.system) →
    (∀ component ∈ source.store.components, component.schema.Plain) →
    source.store.DeeplyTyped →
    source.snapshot = .ok snapshot →
    (∀ record ∈ snapshot.entities, Describes index source record) →
    List.Forall₂ source.Offers source.systems catalogs →
    (empty fresh source.limits).Accepts reload ∧
      copy.systems.map Enrolled.system = source.systems.map Enrolled.system ∧
      copy.roster.entities = source.roster.entities.map source.place ∧
      ((∀ target ∈ event.targets, source.roster.isAlive target = true) →
        let outcome := source.dispatch events event
        let outcomeCopy := copy.dispatch events (event.rename source.place)
        outcomeCopy.result = (outcome.result.map (Report.rename source.place)).mapError
            (DispatchFault.rename source.place) ∧
          outcomeCopy.output = outcome.output ∧
          ∀ entity, source.roster.isAlive entity = true → ∀ name,
            outcomeCopy.scene.store.valueOf (source.place entity) name =
              outcome.scene.store.valueOf entity name) := by
  intro source reload copy loaded plain typed taken described offers
  have formed : source.WellFormed := after_wellFormed title .standard commands
  have distinct := after_distinct title .standard commands
  have enlisted : source.Enlisted := after_enlisted title .standard commands
  have room : source.roster.entities.length ≤ Roster.defaultCapacity := by
    have bound := length_entities_le formed
    rwa [after_capacity commands (empty_wellFormed title .standard)] at bound
  obtain ⟨accepted, stocked, copies, limits, systems⟩ :=
    reloading_copies formed enlisted distinct room typed taken described offers fresh source.limits
      early rfl
  have entities : copy.roster.entities = source.roster.entities.map source.place :=
    copies.dense.entities.trans source.map_place.symm
  have twins : source.Twins source.place copy := {
    formed := formed
    formedCopy := stocked.formed
    limits := limits
    entities := entities
    systems := sameSystems stocked enlisted (after_enlisted fresh source.limits reload) loaded systems
    valueOf := fun entity alive => copies.valueOf_place distinct typed plain alive }
  exact ⟨accepted, systems, entities, twins.dispatch events⟩

/-! ### A lamp -/

def lightScript : String :=
  "component Lamp\n\tBoolean lit\nsystem Light(lamp<Lamp>) event Tick()\n" ++
    "\tlamp.Lamp.lit = True\n\tprint(\"lit\")\n"

def lightCatalog : Catalog :=
  match Script.load .standard lightScript .empty with
  | .ok (_, after) => after
  | .error _ => .empty

theorem lightCatalog_loaded :
    ∃ summary, Script.load .standard lightScript .empty = .ok (summary, lightCatalog) := by
  have succeeded : (Script.load .standard lightScript .empty).isOk = true := by decide +kernel
  obtain ⟨⟨summary, after⟩, loads⟩ := exists_ok_of_isOk succeeded
  refine ⟨summary, ?_⟩
  unfold lightCatalog
  rw [loads]

def mark : Component := .of "Mark" (.basic .text)

def signal : Component := .of "Lamp" (.record [("lit", .basic .boolean)])

def lampCommands : List Command :=
  [.create, .create, .destroy ⟨0⟩, .register mark,
    .insert ⟨1⟩ signal (.record [("lit", .boolean false)])]

abbrev lampScene : Scene :=
  (empty "stage" .standard).after (lampCommands ++ [.enroll "Light" lightCatalog])

theorem light_alone (title : String) (limits : Limits) (commands : List Command)
    (ready : ((empty title limits).after commands).systems.isEmpty = true ∧
      (Scene.enroll "Light" lightCatalog ((empty title limits).after commands)).1 = .ok ()) :
    ∃ system ids,
      ((empty title limits).after (commands ++ [.enroll "Light" lightCatalog])).systems =
        [⟨system, ids⟩] ∧ lightCatalog.systems.find? "Light" = some system := by
  obtain ⟨first, accepted⟩ := ready
  obtain ⟨system, ids, found, systems⟩ := systems_perform_enroll accepted
  rw [List.isEmpty_iff.mp first] at systems
  rw [after_append]
  exact ⟨system, ids, systems, found⟩

theorem lampScene_systems : ∃ system ids, lampScene.systems = [⟨system, ids⟩] ∧
    lightCatalog.systems.find? "Light" = some system :=
  light_alone "stage" .standard lampCommands (by decide +kernel)

theorem lampScene_typed : lampScene.store.DeeplyTyped := by
  obtain ⟨entities, components, values⟩ : lampScene.roster.entities = [⟨1⟩] ∧
      lampScene.store.components = [mark, signal] ∧
      lampScene.store.valuesOf ⟨1⟩ = [(⟨1⟩, .record [("lit", .boolean false)])] := by
    decide +kernel
  apply WellFormed.deeplyTyped (after_wellFormed "stage" .standard _)
  · rw [components]
    simp [mark, signal, Component.of, Schema.Ordered, Schema.OrderedFields]
  · rw [entities, List.forall_mem_singleton, values, List.forall_mem_singleton]
    intro component known
    rw [Store.component?_eq, components] at known
    cases known
    simp [signal, Component.of, Value.Fits, Value.FieldsFit]

/-- The lamp comes back under the first number and the first kind, and is lit in the same way. -/
theorem lamp_mirrors :
    let snapshot : Snapshot := ⟨"stage", [⟨none, [("Lamp", .object [("lit", .boolean false)])]⟩]⟩
    let reload := lampScene.reloading [lightCatalog] snapshot lightCatalog.components 1
    let copy := (empty "copy" lampScene.limits).after reload
    let outcome := copy.dispatch lightCatalog.events ⟨"Tick", [⟨0⟩], .empty⟩
    (∀ enrolled ∈ lampScene.systems, Script.Loaded enrolled.system) ∧
      (∀ component ∈ lampScene.store.components, component.schema.Plain) ∧
      lampScene.store.DeeplyTyped ∧ lampScene.snapshot = .ok snapshot ∧
      (∀ record ∈ snapshot.entities, Describes lightCatalog.components lampScene record) ∧
      List.Forall₂ lampScene.Offers lampScene.systems [lightCatalog] ∧
      lampScene.roster.isAlive ⟨1⟩ = true ∧
      (empty "copy" lampScene.limits).Accepts reload ∧ copy.roster.entities = [⟨0⟩] ∧
      outcome.result = .ok ⟨#[⟨"Tick", [⟨0⟩], .empty⟩], 1, #[]⟩ ∧
      outcome.output = #[.printed "lit"] ∧
      outcome.scene.store.valueOf ⟨0⟩ "Lamp" = some (.record [("lit", .boolean true)]) := by
  intro snapshot reload copy outcome
  obtain ⟨summary, loads⟩ := lightCatalog_loaded
  obtain ⟨system, ids, systems, offered⟩ := lampScene_systems
  have loaded : ∀ enrolled ∈ lampScene.systems, Script.Loaded enrolled.system := by
    rw [systems, List.forall_mem_singleton]
    exact ⟨_, _, _, _, _, loads, List.mem_of_find?_eq_some offered, List.not_mem_nil⟩
  obtain ⟨components, taken, alive, found, schema, asks⟩ :
      lampScene.store.components = [mark, signal] ∧ lampScene.snapshot = .ok snapshot ∧
      lampScene.roster.isAlive ⟨1⟩ = true ∧
      lightCatalog.components.find? "Lamp" = some signal ∧
      lampScene.store.schemaOf? "Lamp" = some signal.schema ∧
      ∀ enrolled ∈ lampScene.systems, enrolled.system.allComponents = ["Lamp"] := by
    decide +kernel
  have plain : ∀ component ∈ lampScene.store.components, component.schema.Plain := by
    rw [components]
    simp [mark, signal, Component.of, Schema.Plain, Schema.PlainFields]
  have described : ∀ record ∈ snapshot.entities,
      Describes lightCatalog.components lampScene record := by
    rw [List.forall_mem_singleton]
    unfold Describes
    rw [List.forall_mem_singleton, components, List.forall_mem_cons, List.forall_mem_singleton]
    exact ⟨fun named => absurd named (by decide), fun _ => ⟨signal, found, rfl⟩⟩
  have offers : List.Forall₂ lampScene.Offers lampScene.systems [lightCatalog] := by
    rw [systems, List.forall_mem_singleton] at asks
    have name : system.name = "Light" := Registry.find?_name offered
    rw [← name] at offered
    rw [systems]
    refine .cons ⟨offered, ?_⟩ .nil
    rw [asks, List.forall_mem_singleton]
    exact ⟨signal, found, schema⟩
  obtain ⟨accepted, -, placed, mirrors⟩ := reloaded_mirrors "stage" _ snapshot
    lightCatalog.components [lightCatalog] "copy" 1 lightCatalog.events ⟨"Tick", [⟨1⟩], .empty⟩
    loaded plain lampScene_typed taken described offers
  obtain ⟨result, output, held⟩ := mirrors (List.forall_mem_singleton.mpr alive)
  obtain ⟨entities, place, event⟩ : lampScene.roster.entities.map lampScene.place = [⟨0⟩] ∧
      lampScene.place ⟨1⟩ = ⟨0⟩ ∧
      (⟨"Tick", [⟨1⟩], .empty⟩ : Event).rename lampScene.place = ⟨"Tick", [⟨0⟩], .empty⟩ := by
    decide +kernel
  obtain ⟨reported, printed, lit⟩ :
      let outcome := lampScene.dispatch lightCatalog.events ⟨"Tick", [⟨1⟩], .empty⟩
      outcome.result = .ok ⟨#[⟨"Tick", [⟨1⟩], .empty⟩], 1, #[]⟩ ∧
      outcome.output = #[.printed "lit"] ∧
      outcome.scene.store.valueOf ⟨1⟩ "Lamp" = some (.record [("lit", .boolean true)]) := by
    decide +kernel
  have shown := held ⟨1⟩ alive "Lamp"
  rw [event] at result output shown
  rw [place] at shown
  refine ⟨loaded, plain, lampScene_typed, taken, described, offers, alive, accepted,
    placed.trans entities, result.trans ?_, output.trans printed, shown.trans lit⟩
  rw [reported]
  simp [Except.map, Except.mapError, Report.rename, event]

end Scene

end Stagecraft
