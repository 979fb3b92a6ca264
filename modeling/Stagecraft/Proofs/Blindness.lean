import Stagecraft.Proofs.Confinement
import Stagecraft.Proofs.Reload

/-!
Blindness: what a system cannot see. Where two scenes have the same entities, and the same values in the
components of a system, the system does the same in both, however much they differ otherwise; and what
it does, it does to those components alone.
-/

namespace Stagecraft

variable {names : List String}

/-- The components of some names have the same kinds, schemas, owners and values in both stores. -/
structure Store.AgreesOn (names : List String) (first second : Store) : Prop where
  componentId? : ∀ name ∈ names, second.componentId? name = first.componentId? name
  schema : ∀ name ∈ names, ∀ id, first.componentId? name = some id →
    (second.component? id).map Component.schema = (first.component? id).map Component.schema
  get? : ∀ name ∈ names, ∀ id, first.componentId? name = some id →
    ∀ entity, second.get? entity id = first.get? entity id

namespace Store.AgreesOn

variable {first second : Store}

theorem bindRole (agrees : first.AgreesOn names second) (entity : Entity) {components : List String}
    (asked : components ⊆ names) :
    second.bindRole entity components = first.bindRole entity components := by
  apply mapM_congr
  intro name member
  rw [agrees.componentId? name (asked member)]
  cases known : first.componentId? name with
  | none => rfl
  | some id =>
    have present : second.contains entity id = first.contains entity id :=
      congrArg Option.isSome (agrees.get? name (asked member) id known entity)
    rw [Option.filter_some, Option.filter_some, present]

theorem bindTargets (agrees : first.AgreesOn names second) (missing : Fault) {roles : List Role}
    (asked : roles.flatMap Role.components ⊆ names) (targets : List Entity) :
    second.bindTargets missing roles targets = first.bindTargets missing roles targets := by
  induction roles generalizing targets with
  | nil => rfl
  | cons role rest ih =>
    rw [List.flatMap_cons, List.append_subset] at asked
    cases targets with
    | nil => rfl
    | cons entity others =>
      rw [Store.bindTargets, Store.bindTargets, agrees.bindRole entity asked.1, ih asked.2]

theorem bindRoles (agrees : first.AgreesOn names second) {roles : List Role}
    (asked : roles.flatMap Role.components ⊆ names) (event : Event) :
    second.bindRoles roles event = first.bindRoles roles event :=
  agrees.bindTargets _ asked event.targets

theorem stand (agrees : first.AgreesOn names second) {ids others : List ComponentId}
    (stand : first.Stand names ids) (standOther : second.Stand names others) : others = ids := by
  have kinds := stand.map_some
  have kindsOther := standOther.map_some
  rw [List.map_congr_left agrees.componentId?, ← kinds] at kindsOther
  exact List.map_injective_iff.mpr (Option.some_injective _) kindsOther

theorem rewritten (agrees : first.AgreesOn names second) {later laterOther : Store}
    (rewrites : first.Rewrites later) (rewritesOther : second.Rewrites laterOther)
    (same : ∀ name ∈ names, ∀ id, first.componentId? name = some id →
      ∀ entity, laterOther.get? entity id = later.get? entity id) :
    later.AgreesOn names laterOther where
  componentId? name member := by
    rw [rewritesOther.componentId?, rewrites.componentId?, agrees.componentId? name member]
  schema name member id known := by
    rw [rewrites.componentId?] at known
    rw [rewritesOther.component?, rewrites.component?, agrees.schema name member id known]
  get? name member id known :=
    same name member id ((rewrites.componentId? name).symm.trans known)

end Store.AgreesOn

/-! ### Views that look the same -/

namespace View

/-- Two views that no behavior can tell apart. -/
structure Alike (first second : View) : Prop where
  formed : first.roster.WellFormed
  formedOther : second.roster.WellFormed
  sound : first.Sound
  soundOther : second.Sound
  entities : second.roster.entities = first.roster.entities
  components : second.components = first.components
  registered : ∀ id ∈ first.components, ∃ component other,
    first.store.component? id = some component ∧ second.store.component? id = some other ∧
      other.name = component.name ∧ other.schema = component.schema
  componentId? : ∀ name, second.componentId? name = first.componentId? name
  get? : ∀ id ∈ first.components, ∀ entity,
    second.store.get? entity id = first.store.get? entity id

namespace Alike

variable {first second : View}

theorem contains (alike : first.Alike second) {id : ComponentId} (inside : id ∈ first.components)
    (entity : Entity) : second.store.contains entity id = first.store.contains entity id :=
  congrArg Option.isSome (alike.get? id inside entity)

theorem matching (alike : first.Alike second) (ids : List ComponentId) :
    second.matching ids = first.matching ids := by
  have known : ∀ id ∈ ids, id ∈ first.components →
      ∃ component, first.store.component? id = some component := by
    intro id _ inside
    obtain ⟨component, _, here, -⟩ := alike.registered id inside
    exact ⟨component, here⟩
  have knownOther : ∀ id ∈ ids, id ∈ second.components →
      ∃ component, second.store.component? id = some component := by
    intro id _ inside
    obtain ⟨_, component, -, here, -⟩ := alike.registered id (alike.components ▸ inside)
    exact ⟨component, here⟩
  rw [matching_eq_filter alike.formed alike.sound known,
    matching_eq_filter alike.formedOther alike.soundOther knownOther, alike.components, alike.entities]
  split
  · rfl
  · next asked =>
    simp only [Bool.or_eq_true, not_or, Bool.not_eq_true', Bool.not_eq_false, List.all_eq_true,
      decide_eq_true_eq] at asked
    apply List.filter_congr
    intro entity _
    rw [Bool.eq_iff_iff, List.all_eq_true, List.all_eq_true]
    exact forall₂_congr (fun id member => by rw [alike.contains (asked.2 id member)])

theorem write (alike : first.Alike second) {entity : Entity} {id : ComponentId} (value : Value)
    (inside : id ∈ first.components) (present : first.store.contains entity id = true)
    (sound : View.Sound { first with store := first.store.write entity id (some value) })
    (soundOther : View.Sound { second with store := second.store.write entity id (some value) }) :
    Alike { first with store := first.store.write entity id (some value) }
      { second with store := second.store.write entity id (some value) } where
  formed := alike.formed
  formedOther := alike.formedOther
  sound := sound
  soundOther := soundOther
  entities := alike.entities
  components := alike.components
  registered kind seen := by
    simp only [Store.component?_write]
    exact alike.registered kind seen
  componentId? name := by
    have here := Store.componentId?_congr
      (fun kind => Store.component?_write first.store entity id kind (some value)) name
    have there := Store.componentId?_congr
      (fun kind => Store.component?_write second.store entity id kind (some value)) name
    rw [View.componentId?, View.componentId?, here, there]
    exact alike.componentId? name
  get? kind seen other := by
    have opened := Store.isOpen_of_contains present
    have openedOther := Store.isOpen_of_contains ((alike.contains inside entity).trans present)
    rw [Store.get?_write_open opened, Store.get?_write_open openedOther, alike.get? kind seen]

/-- A value is accepted in one view if it is in the other, and refused for the same reason. -/
theorem set (alike : first.Alike second) (entity : Entity) (id : ComponentId) (value : Value) :
    (second.set entity id value).1 = (first.set entity id value).1 ∧
      (first.set entity id value).2.Alike (second.set entity id value).2 := by
  have sound := (View.set_evolves alike.sound.store entity id value).sound alike.sound
  have soundOther := (View.set_evolves alike.soundOther.store entity id value).sound alike.soundOther
  by_cases inside : id ∈ first.components
  · have insideOther : id ∈ second.components := alike.components ▸ inside
    obtain ⟨component, other, known, knownOther, name, schema⟩ := alike.registered id inside
    rw [set_known inside known] at sound ⊢
    rw [set_known insideOther knownOther, alike.contains inside, name,
      Component.accept_congr name schema] at soundOther ⊢
    by_cases present : first.store.contains entity id = true
    · simp only [if_pos present] at sound soundOther ⊢
      cases accepted : component.accept value with
      | error fault => exact ⟨rfl, alike⟩
      | ok =>
        rw [accepted] at sound soundOther
        exact ⟨rfl, alike.write value inside present sound soundOther⟩
    · rw [if_neg present, if_neg present]
      exact ⟨rfl, alike⟩
  · have insideOther : id ∉ second.components := alike.components ▸ inside
    rw [View.set, View.set, if_neg inside, if_neg insideOther]
    exact ⟨rfl, alike⟩

end Alike

theorem alike_of_agreesOn {first second : View} (agrees : first.store.AgreesOn names second.store)
    (stand : first.store.Stand names first.components)
    (standOther : second.store.Stand names second.components)
    (formed : first.roster.WellFormed) (formedOther : second.roster.WellFormed)
    (sound : first.Sound) (soundOther : second.Sound)
    (entities : second.roster.entities = first.roster.entities) : first.Alike second where
  formed := formed
  formedOther := formedOther
  sound := sound
  soundOther := soundOther
  entities := entities
  components := agrees.stand stand standOther
  registered id inside := by
    obtain ⟨name, member, known⟩ := stand.mem_ids_iff.mp inside
    have knownOther := (agrees.componentId? name member).trans known
    obtain ⟨component, here, named⟩ := Store.exists_component?_of_componentId? known
    obtain ⟨other, there, namedOther⟩ := Store.exists_component?_of_componentId? knownOther
    have schema := agrees.schema name member id known
    rw [here, there] at schema
    exact ⟨component, other, here, there, namedOther.trans named.symm, Option.some.inj schema⟩
  componentId? name := by
    -- A name that is not among those of the view has a kind outside the view, or none.
    by_cases member : name ∈ names
    · rw [View.componentId?, View.componentId?, agrees.componentId? name member,
        agrees.stand stand standOther]
    · have hidden {view : View} (stand : view.store.Stand names view.components) :
          view.componentId? name = none := by
        apply Option.filter_eq_none_iff.mpr
        intro id known inside
        exact member ((stand.mem_iff known).mp (of_decide_eq_true inside))
      rw [hidden stand, hidden standOther]
  get? id inside entity := by
    obtain ⟨name, member, known⟩ := stand.mem_ids_iff.mp inside
    exact agrees.get? name member id known entity

end View

structure Situation.Alike (first second : Situation) : Prop where
  view : first.view.Alike second.view
  output : second.output = first.output

theorem Situation.Alike.answer {first second : Situation} (alike : first.Alike second)
    (request : Request) :
    (second.answer request).1 = (first.answer request).1 ∧
      (first.answer request).2.Alike (second.answer request).2 := by
  obtain ⟨view, output⟩ := alike
  cases request with
  | components => exact ⟨view.components, view, output⟩
  | componentId name => exact ⟨view.componentId? name, view, output⟩
  | componentName id =>
    refine ⟨?_, view, output⟩
    change second.view.componentName? id = first.view.componentName? id
    rw [View.componentName?, View.componentName?, view.components]
    split
    · next inside =>
      obtain ⟨component, other, known, knownOther, name, -⟩ := view.registered id inside
      rw [known, knownOther, Option.map_some, Option.map_some, name]
    · rfl
  | matching ids => exact ⟨view.matching ids, view, output⟩
  | value entity id =>
    refine ⟨?_, view, output⟩
    change second.view.get? entity id = first.view.get? entity id
    rw [View.get?, View.get?, view.components]
    split
    · next inside => exact view.get? id inside entity
    · rfl
  | write entity id value =>
    obtain ⟨same, later⟩ := view.set entity id value
    exact ⟨same, later, output⟩
  | output line => exact ⟨rfl, view, congrArg (fun lines => lines.push line) output⟩
  | step => exact ⟨rfl, view, output⟩

/-- Whatever a behavior makes of the answers, it makes the same of the same answers. -/
theorem Behavior.run_alike {ε α : Type} (behavior : Behavior ε α) {first second : Situation}
    (alike : first.Alike second) :
    (behavior.run second).1 = (behavior.run first).1 ∧
      (behavior.run first).2.Alike (behavior.run second).2 := by
  induction behavior generalizing first second with
  | done result => exact ⟨rfl, alike⟩
  | fail reason => exact ⟨rfl, alike⟩
  | ask request next ih =>
    obtain ⟨same, later⟩ := alike.answer request
    change ((next (second.answer request).1).run (second.answer request).2).1
        = ((next (first.answer request).1).run (first.answer request).2).1 ∧
      ((next (first.answer request).1).run (first.answer request).2).2.Alike
        ((next (second.answer request).1).run (second.answer request).2).2
    rw [same]
    exact ih _ later

namespace Scene

variable {scene other : Scene}

theorem Meets.sound {store : Store} (met : scene.Meets store) (wellFormed : scene.WellFormed)
    (components : List ComponentId) : View.Sound ⟨store, scene.roster, components⟩ where
  store := (met.rewrites wellFormed.store).2
  owned entity id :=
    ((met.rewrites wellFormed.store).1.contains entity id).trans (wellFormed.owned entity id)

theorem Meets.stand {store : Store} (met : scene.Meets store) (wellFormed : scene.WellFormed)
    (enlisted : scene.Enlisted) {enrolled : Enrolled} (member : enrolled ∈ scene.systems) :
    store.Stand enrolled.system.allComponents enrolled.components :=
  (enlisted.stand enrolled member).mono
    (fun name _ => ((met.rewrites wellFormed.store).1.componentId? name).trans)

theorem roles_asked (system : System) :
    system.roles.flatMap Role.components ⊆ system.allComponents := by
  intro name member
  rw [System.allComponents, List.mem_eraseDups, List.flatMap_append]
  exact List.mem_append_right _ member

def conclude (system : System) :
    Except Cause (List Event) × Situation → Except Failure (List Event) × Store × Array Output
  | (result, situation) =>
    (result.mapError (Failure.system system.name), situation.view.store, situation.output)

theorem invoke_eq (scene : Scene) (enrolled : Enrolled) (event : Event) (store : Store)
    (output : Array Output) : scene.invoke enrolled event store output =
      match store.bindRoles enrolled.system.roles event with
      | .error fault => (.error (.refused fault), store, output)
      | .ok roles => conclude enrolled.system ((enrolled.system.body ⟨event, roles⟩).run
          ⟨⟨store, scene.roster, enrolled.components⟩, output⟩) := by
  unfold invoke
  cases store.bindRoles enrolled.system.roles event with
  | error fault => rfl
  | ok roles =>
    dsimp only
    rcases (enrolled.system.body ⟨event, roles⟩).run
      ⟨⟨store, scene.roster, enrolled.components⟩, output⟩ with ⟨cause | found, later⟩ <;> rfl

/-- One system at work in two scenes that look the same to it. -/
theorem invoke_alike {enrolled enrolledOther : Enrolled} {store storeOther : Store}
    (same : enrolledOther.system = enrolled.system)
    (alike : View.Alike ⟨store, scene.roster, enrolled.components⟩
      ⟨storeOther, other.roster, enrolledOther.components⟩)
    (agrees : store.AgreesOn enrolled.system.allComponents storeOther)
    (event : Event) (output : Array Output) :
    let (result, later, shown) := scene.invoke enrolled event store output
    let (resultOther, laterOther, shownOther) := other.invoke enrolledOther event storeOther output
    resultOther = result ∧ shownOther = shown ∧
      ∀ id ∈ enrolled.components, ∀ entity, laterOther.get? entity id = later.get? entity id := by
  rw [invoke_eq, invoke_eq, same, agrees.bindRoles (roles_asked enrolled.system) event]
  cases store.bindRoles enrolled.system.roles event with
  | error fault => exact ⟨rfl, rfl, alike.get?⟩
  | ok refs =>
    have evolves := (enrolled.system.body ⟨event, refs⟩).run_evolves
      ⟨⟨store, scene.roster, enrolled.components⟩, output⟩ alike.sound.store
    obtain ⟨result, later⟩ := (enrolled.system.body ⟨event, refs⟩).run_alike
      (⟨alike, rfl⟩ : Situation.Alike ⟨_, output⟩ ⟨_, output⟩)
    refine ⟨congrArg (Except.mapError _) result, later.output, fun id inside => ?_⟩
    exact later.view.get? id (evolves.components.symm ▸ inside)

/-- What a system is asked in a store of one scene, it is asked in a store of another. Both agree on what
the system names: then it answers and shows the same, both agree on it afterwards, and in each store
all else stays as it was. -/
structure Blind (system : System) (store storeOther : Store)
    (ran ranOther : Except Failure (List Event) × Store × Array Output) : Prop where
  result : ranOther.1 = ran.1
  output : ranOther.2.2 = ran.2.2
  agrees : ran.2.1.AgreesOn system.allComponents ranOther.2.1
  kept : ∀ id, ¬system.Names store id → ∀ entity, ran.2.1.get? entity id = store.get? entity id
  keptOther : ∀ id, ¬system.Names storeOther id →
    ∀ entity, ranOther.2.1.get? entity id = storeOther.get? entity id

/-- Whatever hosts asked of two new scenes before, and wherever in a dispatch each of them is: if the same
entities are alive, and the stores agree on the components of a system, then no event makes a difference
to what the system does. -/
theorem after_blind (title titleOther : String) (limits limitsOther : Limits)
    (commands commandsOther : List Command) (enrolled enrolledOther : Enrolled)
    (store storeOther : Store) (event : Event) (output : Array Output) :
    let scene := (empty title limits).after commands
    let other := (empty titleOther limitsOther).after commandsOther
    enrolled ∈ scene.systems → enrolledOther ∈ other.systems →
    enrolledOther.system = enrolled.system →
    scene.Meets store → other.Meets storeOther →
    (∀ entity, other.roster.isAlive entity = scene.roster.isAlive entity) →
    store.AgreesOn enrolled.system.allComponents storeOther →
    Blind enrolled.system store storeOther (scene.invoke enrolled event store output)
      (other.invoke enrolledOther event storeOther output) := by
  intro scene other member memberOther same met metOther alive agrees
  have formed : scene.WellFormed := after_wellFormed title limits commands
  have formedOther : other.WellFormed := after_wellFormed titleOther limitsOther commandsOther
  have stand := met.stand formed (after_enlisted title limits commands) member
  have standOther := metOther.stand formedOther
    (after_enlisted titleOther limitsOther commandsOther) memberOther
  rw [same] at standOther
  have entities : other.roster.entities = scene.roster.entities := by
    apply eq_of_ascending (Roster.entities_ascending _) (Roster.entities_ascending _)
    intro entity
    rw [Roster.mem_entities, Roster.mem_entities, alive]
  have sound := (met.rewrites formed.store).2
  have soundOther := (metOther.rewrites formedOther.store).2
  obtain ⟨result, shown, held⟩ := invoke_alike same
    (View.alike_of_agreesOn agrees stand standOther formed.roster formedOther.roster
      (met.sound formed _) (metOther.sound formedOther _) entities) agrees event output
  refine ⟨result, shown, ?_, ?_, ?_⟩
  · apply agrees.rewritten (scene.invoke_rewrites enrolled event sound output).1
      (other.invoke_rewrites enrolledOther event soundOther output).1
    intro name asked id known
    exact held id (stand.mem_ids_iff.mpr ⟨name, asked, known⟩)
  · intro id unnamed entity
    exact scene.invoke_equalOutside enrolled event sound output entity id
      (fun inside => unnamed (stand.mem_ids_iff.mp inside))
  · intro id unnamed entity
    exact other.invoke_equalOutside enrolledOther event soundOther output entity id
      (fun inside => unnamed (standOther.mem_ids_iff.mp inside))

abbrev markedScene : Scene :=
  (empty "backstage" ⟨1, 2⟩).after
    ([.create, .createNamed "lamp", .destroy ⟨0⟩, .insert ⟨1⟩ mark (.text "x"),
      .insert ⟨1⟩ signal (.record [("lit", .boolean false)])] ++ [.enroll "Light" lightCatalog])

/-- The mark makes no difference to the light. -/
theorem lamp_blind :
    ∃ enrolled ∈ lampScene.systems, ∃ enrolledOther ∈ markedScene.systems,
      enrolledOther.system = enrolled.system ∧
      (∀ entity, markedScene.roster.isAlive entity = lampScene.roster.isAlive entity) ∧
      lampScene.store.AgreesOn enrolled.system.allComponents markedScene.store ∧
      markedScene.store.get? ⟨1⟩ ⟨0⟩ ≠ lampScene.store.get? ⟨1⟩ ⟨0⟩ ∧
      Blind enrolled.system lampScene.store markedScene.store
        (lampScene.invoke enrolled ⟨"Tick", [⟨1⟩], .empty⟩ lampScene.store #[])
        (markedScene.invoke enrolledOther ⟨"Tick", [⟨1⟩], .empty⟩ markedScene.store #[]) := by
  obtain ⟨system, ids, systems, offered⟩ := lampScene_systems
  obtain ⟨systemOther, idsOther, systemsOther, offeredOther⟩ :=
    light_alone "backstage" ⟨1, 2⟩
      [.create, .createNamed "lamp", .destroy ⟨0⟩, .insert ⟨1⟩ mark (.text "x"),
        .insert ⟨1⟩ signal (.record [("lit", .boolean false)])] (by decide +kernel)
  have same : systemOther = system := Option.some.inj (offeredOther.symm.trans offered)
  obtain ⟨entities, known, knownOther, schema, slots, differs, asks⟩ :
      markedScene.roster.entities = lampScene.roster.entities ∧
      lampScene.store.componentId? "Lamp" = some ⟨1⟩ ∧
      markedScene.store.componentId? "Lamp" = some ⟨1⟩ ∧
      (markedScene.store.component? ⟨1⟩).map Component.schema =
        (lampScene.store.component? ⟨1⟩).map Component.schema ∧
      (markedScene.store.column? ⟨1⟩).map Column.slots =
        (lampScene.store.column? ⟨1⟩).map Column.slots ∧
      markedScene.store.get? ⟨1⟩ ⟨0⟩ ≠ lampScene.store.get? ⟨1⟩ ⟨0⟩ ∧
      ∀ enrolled ∈ lampScene.systems, enrolled.system.allComponents = ["Lamp"] := by
    decide +kernel
  have member : (⟨system, ids⟩ : Enrolled) ∈ lampScene.systems := systems ▸ List.mem_singleton_self _
  have memberOther : (⟨systemOther, idsOther⟩ : Enrolled) ∈ markedScene.systems :=
    systemsOther ▸ List.mem_singleton_self _
  have alive (entity : Entity) :
      markedScene.roster.isAlive entity = lampScene.roster.isAlive entity := by
    rw [Bool.eq_iff_iff, ← Roster.mem_entities, ← Roster.mem_entities, entities]
  have agrees : lampScene.store.AgreesOn system.allComponents markedScene.store := by
    rw [show system.allComponents = ["Lamp"] from asks _ member]
    constructor <;> rw [List.forall_mem_singleton]
    · rw [known, knownOther]
    · intro id here
      rw [known] at here
      cases here
      exact schema
    · intro id here entity
      rw [known] at here
      cases here
      have read (store : Store) : store.get? entity ⟨1⟩ =
          ((store.column? ⟨1⟩).map Column.slots).bind (fun slots => slots[entity.id]?.join) := by
        rw [Option.bind_map]
        rfl
      rw [read, read, slots]
  exact ⟨_, member, _, memberOther, same, alive, agrees, differs,
    after_blind _ _ _ _ _ _ _ _ _ _ _ _ member memberOther same .start .start alive agrees⟩

end Scene

end Stagecraft
