import Stagecraft.Proofs.Commands
import Stagecraft.Proofs.Effects
import Stagecraft.Proofs.Rewriting

/-!
Consistency: the signatures, the columns and the two maps of names are kept apart, and every command
that touches one of them keeps it in step with the others. Nothing of an entity outlives it.
-/

namespace Stagecraft

namespace Roster

def owns (roster : Roster) (entity : Entity) (id : ComponentId) : Bool :=
  (roster.signature? entity).any (fun signature => signature.contains id)

theorem owns_changes {roster next : Roster} {entity : Entity} {content : Option Signature}
    (changes : roster.Changes entity content next) (other : Entity) (id : ComponentId) :
    next.owns other id = if entity = other then content.any (fun signature => signature.contains id)
      else roster.owns other id := by
  rw [owns, owns, changes.signature?]
  split <;> rfl

theorem isAlive_changes {roster next : Roster} {entity : Entity} {content : Option Signature}
    (changes : roster.Changes entity content next) (other : Entity) :
    next.isAlive other = if entity = other then content.isSome else roster.isAlive other := by
  rw [isAlive, isAlive, changes.signature?]
  split <;> rfl

end Roster

namespace Store

theorem contains_drop (store : Store) (entity other : Entity) (id : ComponentId) :
    (store.drop entity).contains other id = if entity = other then false
      else store.contains other id := by
  rw [contains, contains, get?_drop]
  split <;> rfl

theorem contains_remove (store : Store) (entity other : Entity) (id kind : ComponentId) :
    (store.write entity id none).contains other kind =
      (store.contains other kind && !decide (entity = other ∧ id = kind)) := by
  rw [contains, contains, get?_write]
  split
  · next same => cases store.column? kind <;> simp [same]
  · next different => simp [different]

/-- Adding a value first opens its column, so that the value is not lost. -/
theorem contains_add {store : Store} {id : ComponentId} {component : Component}
    (known : store.component? id = some component) (entity other : Entity) (kind : ComponentId)
    (value : Value) :
    ((store.openColumn id).write entity id (some value)).contains other kind =
      (store.contains other kind || decide (entity = other ∧ id = kind)) := by
  rw [contains, contains, get?_write]
  split
  · next same =>
    obtain ⟨rfl, rfl⟩ := same
    simp [column?_openColumn, known]
  · next different => simp [different, get?_openColumn]

theorem add_wellFormed {store : Store} (wellFormed : store.WellFormed) (entity : Entity)
    {id : ComponentId} {component : Component} {value : Value}
    (known : store.component? id = some component) (fits : value.schema = component.schema) :
    ((store.openColumn id).write entity id (some value)).WellFormed := by
  apply write_wellFormed (openColumn_wellFormed wellFormed id)
  intro written found same registered
  rw [component?_openColumn, known] at registered
  cases same
  cases registered
  exact fits

end Store

def Enrolled.Equipped (enrolled : Enrolled) (store : Store) : Prop :=
  ∀ name ∈ enrolled.system.allComponents, ∃ id ∈ enrolled.components,
    store.componentId? name = some id

theorem Enrolled.Equipped.mono {enrolled : Enrolled} {store next : Store}
    (equipped : enrolled.Equipped store)
    (kept : ∀ name id, store.componentId? name = some id → next.componentId? name = some id) :
    enrolled.Equipped next := by
  intro name member
  obtain ⟨id, inside, known⟩ := equipped name member
  exact ⟨id, inside, kept name id known⟩

namespace Scene

structure WellFormed (scene : Scene) : Prop where
  roster : scene.roster.WellFormed
  store : scene.store.WellFormed
  /-- Entities have values of the kinds in their signatures, and of no other. -/
  owned : ∀ entity id, scene.store.contains entity id = scene.roster.owns entity id
  /-- The two maps of names are each other's inverse. -/
  named : ∀ name entity, scene.find? name = some entity ↔ scene.givenName? entity = some name
  alive : ∀ entity name, scene.givenName? entity = some name → scene.roster.isAlive entity = true
  /-- A system has the kinds of all its components. -/
  equipped : ∀ enrolled ∈ scene.systems, enrolled.Equipped scene.store

theorem empty_wellFormed (name : String) (limits : Limits) : (empty name limits).WellFormed where
  roster := Roster.empty_wellFormed _
  store := Store.empty_wellFormed
  owned entity id := rfl
  named given entity := by simp [empty, find?, givenName?]
  alive entity given known := by simp [empty, givenName?] at known
  equipped enrolled member := by simp [empty] at member

variable {scene later : Scene}

namespace WellFormed

variable {fault : Fault}

theorem unnamed (wellFormed : scene.WellFormed) {entity : Entity}
    (dead : scene.roster.isAlive entity = false) : scene.givenName? entity = none := by
  rw [Option.eq_none_iff_forall_ne_some]
  intro name known
  rw [wellFormed.alive entity name known] at dead
  cases dead

theorem valueless (wellFormed : scene.WellFormed) {entity : Entity}
    (dead : scene.roster.isAlive entity = false) (id : ComponentId) :
    scene.store.get? entity id = none := by
  have absent := wellFormed.owned entity id
  rw [Roster.owns, Option.not_isSome_iff_eq_none.mp (Bool.eq_false_iff.mp dead)] at absent
  exact Option.not_isSome_iff_eq_none.mp (Bool.eq_false_iff.mp absent)

theorem isAlive_of_get? (wellFormed : scene.WellFormed) {entity : Entity} {id : ComponentId}
    {value : Value} (present : scene.store.get? entity id = some value) :
    scene.roster.isAlive entity = true := by
  by_contra dead
  rw [wellFormed.valueless (Bool.eq_false_iff.mpr dead)] at present
  cases present

/-- A store may be exchanged for another that has values at the same places and forgot no kind. -/
theorem withStore (wellFormed : scene.WellFormed) {store : Store} (formed : store.WellFormed)
    (kept : ∀ name id, scene.store.componentId? name = some id → store.componentId? name = some id)
    (same : ∀ entity id, store.contains entity id = scene.store.contains entity id) :
    ({ scene with store := store } : Scene).WellFormed where
  roster := wellFormed.roster
  store := formed
  owned entity id := (same entity id).trans (wellFormed.owned entity id)
  named := wellFormed.named
  alive := wellFormed.alive
  equipped enrolled member := (wellFormed.equipped enrolled member).mono kept

/-- A roster may be exchanged for another in which only the signature of one entity differs, together
with a store in which that entity has values of the kinds in its new signature. -/
theorem withSignature (wellFormed : scene.WellFormed) {entity : Entity} {signature : Signature}
    {roster : Roster} {store : Store} (changes : scene.roster.Changes entity (some signature) roster)
    (formed : store.WellFormed)
    (kinds : ∀ id, store.component? id = scene.store.component? id)
    (own : ∀ id, store.contains entity id = signature.contains id)
    (others : ∀ other id, entity ≠ other →
      store.contains other id = scene.store.contains other id) :
    ({ scene with roster := roster, store := store } : Scene).WellFormed where
  roster := changes.wellFormed
  store := formed
  owned other id := by
    rw [Roster.owns_changes changes]
    split
    · next same =>
      subst same
      exact own id
    · next different => rw [others other id different, wellFormed.owned]
  named := wellFormed.named
  alive other name known := by
    rw [Roster.isAlive_changes changes]
    split
    · rfl
    · exact wellFormed.alive other name known
  equipped enrolled member := (wellFormed.equipped enrolled member).mono
    (fun name id => (Store.componentId?_congr kinds name).trans)

theorem create (wellFormed : scene.WellFormed) {entity : Entity} {roster : Roster}
    (creates : scene.roster.Creates entity roster) :
    ({ scene with roster := roster } : Scene).WellFormed := by
  apply wellFormed.withSignature creates.changes wellFormed.store (fun _ => rfl)
  · intro id
    rw [wellFormed.owned, Roster.owns, creates.dead, Signature.contains_empty]
    rfl
  · exact fun _ _ _ => rfl

theorem name (wellFormed : scene.WellFormed) {entity : Entity} {name : String}
    (alive : scene.roster.isAlive entity = true) (unnamed : scene.givenName? entity = none)
    (fresh : scene.find? name = none) :
    ({ scene with
      byName := (name, entity) :: scene.byName
      names := (entity, name) :: scene.names } : Scene).WellFormed where
  roster := wellFormed.roster
  store := wellFormed.store
  owned := wellFormed.owned
  named given other := by
    have before := wellFormed.named given other
    unfold find? at before fresh ⊢
    unfold givenName? at before unnamed ⊢
    rw [List.lookup_cons, List.lookup_cons]
    by_cases sameName : given = name
    · by_cases sameEntity : other = entity
      · simp [sameName, sameEntity]
      · have different : (other == entity) = false := beq_eq_false_iff_ne.mpr sameEntity
        subst sameName
        simp only [different, beq_self_eq_true, ← before, fresh, Option.some.injEq]
        simp [Ne.symm sameEntity]
    · have different : (given == name) = false := beq_eq_false_iff_ne.mpr sameName
      by_cases sameEntity : other = entity
      · subst sameEntity
        simp only [different, beq_self_eq_true, before, unnamed, Option.some.injEq]
        simp [Ne.symm sameName]
      · have differs : (other == entity) = false := beq_eq_false_iff_ne.mpr sameEntity
        simp only [different, differs, before]
  alive other given known := by
    unfold givenName? at known
    rw [List.lookup_cons] at known
    by_cases same : other = entity
    · rw [same]
      exact alive
    · have different : (other == entity) = false := beq_eq_false_iff_ne.mpr same
      rw [different] at known
      exact wellFormed.alive other given known
  equipped := wellFormed.equipped

theorem destroy (wellFormed : scene.WellFormed) {entity : Entity} {roster : Roster}
    (changes : scene.roster.Changes entity none roster) :
    ({ scene with roster := roster, store := scene.store.drop entity }.unname entity).WellFormed where
  roster := by
    rw [unname_roster]
    exact changes.wellFormed
  store := by
    rw [unname_store]
    exact Store.drop_wellFormed wellFormed.store entity
  owned other id := by
    rw [unname_store, unname_roster, Store.contains_drop, Roster.owns_changes changes,
      wellFormed.owned]
    rfl
  named name other := by
    rw [find?_unname, givenName?_unname]
    have before := wellFormed.named name other
    change (if scene.givenName? entity = some name then none else scene.find? name) = some other ↔
      (if other = entity then none else scene.givenName? other) = some name
    by_cases same : other = entity
    · subst same
      rw [if_pos rfl]
      split
      · simp
      · next different => simp [before, different]
    · rw [if_neg same]
      split
      · next taken =>
        rw [← wellFormed.named] at taken
        simp [← before, taken, Ne.symm same]
      · exact before
  alive other name known := by
    rw [givenName?_unname] at known
    rw [unname_roster, Roster.isAlive_changes changes]
    split at known
    · cases known
    · next different =>
      rw [if_neg (Ne.symm different)]
      exact wellFormed.alive other name known
  equipped enrolled member := by
    rw [unname_systems] at member
    rw [unname_store]
    exact (wellFormed.equipped enrolled member).mono
      (fun name id => (Store.componentId?_congr (Store.component?_drop scene.store entity) name).trans)

theorem grow (wellFormed : scene.WellFormed) {store : Store} (grows : scene.store.Grows store) :
    ({ scene with store := store } : Scene).WellFormed :=
  wellFormed.withStore (grows.wellFormed wellFormed.store) grows.componentId? grows.contains

end WellFormed

/-! ### Every operation keeps the parts in step -/

theorem create_keeps : Operation.Keeps WellFormed create := by
  intro scene wellFormed
  rcases ran : create scene with ⟨fault | entity, later⟩
  · exact create_refused ran ▸ wellFormed
  · obtain ⟨roster, creates, rfl⟩ := create_ok wellFormed.roster ran
    exact wellFormed.create creates

theorem createNamed_keeps (name : String) : Operation.Keeps WellFormed (createNamed name) := by
  intro scene wellFormed
  rcases ran : createNamed name scene with ⟨fault | entity, later⟩
  · exact createNamed_refused ran ▸ wellFormed
  · obtain ⟨fresh, roster, creates, rfl⟩ := createNamed_ok wellFormed.roster ran
    have dead : scene.roster.isAlive entity = false := by rw [Roster.isAlive, creates.dead]; rfl
    have alive : roster.isAlive entity = true := by
      rw [Roster.isAlive_changes creates.changes, if_pos rfl]
      rfl
    exact (wellFormed.create creates).name alive (wellFormed.unnamed dead) fresh

theorem destroy_keeps (entity : Entity) : Operation.Keeps WellFormed (destroy entity) := by
  intro scene wellFormed
  rcases ran : destroy entity scene with ⟨fault | result, later⟩
  · exact destroy_refused ran ▸ wellFormed
  · obtain ⟨-, roster, changes, rfl⟩ := destroy_ok wellFormed.roster ran
    exact wellFormed.destroy changes

theorem register_keeps (component : Component) : Operation.Keeps WellFormed (register component) := by
  intro scene wellFormed
  rcases ran : register component scene with ⟨fault | id, later⟩
  · exact register_refused ran ▸ wellFormed
  · obtain ⟨store, registered, rfl⟩ := register_ok ran
    exact wellFormed.grow (Store.register_grows registered)

theorem add_keeps (entity : Entity) (id : ComponentId) (value : Value) :
    Operation.Keeps WellFormed (add entity id value) := by
  intro scene wellFormed
  rcases ran : add entity id value scene with ⟨fault | result, later⟩
  · obtain ⟨store, grows, rfl⟩ := add_refused wellFormed.roster ran
    exact wellFormed.grow grows
  · obtain ⟨signature, component, roster, owns, known, fits, changes, rfl⟩ :=
      add_ok wellFormed.roster ran
    have small : id.index < maxKinds :=
      Nat.lt_of_lt_of_le (Store.lt_size_of_component? known) wellFormed.store.few
    apply wellFormed.withSignature changes (Store.add_wellFormed wellFormed.store entity known fits)
    · intro kind
      rw [Store.component?_write, Store.component?_openColumn]
    · intro kind
      rw [Store.contains_add known, wellFormed.owned, Roster.owns, owns, Signature.contains_insert]
      by_cases same : id = kind
      · subst same
        simp [small]
      · simp [same]
    · intro other kind different
      rw [Store.contains_add known]
      simp [different]

theorem remove_keeps (entity : Entity) (id : ComponentId) :
    Operation.Keeps WellFormed (remove entity id) := by
  intro scene wellFormed
  rcases ran : remove entity id scene with ⟨fault | previous, later⟩
  · exact remove_refused wellFormed.roster ran ▸ wellFormed
  · obtain ⟨signature, roster, owns, changes, rfl⟩ := remove_ok wellFormed.roster ran
    apply wellFormed.withSignature changes
      (Store.write_wellFormed wellFormed.store entity id none (fun _ _ nothing => nomatch nothing))
    · exact fun kind => Store.component?_write scene.store entity id kind none
    · intro kind
      rw [Store.contains_remove, wellFormed.owned, Roster.owns, owns, Signature.contains_erase]
      simp
    · intro other kind different
      rw [Store.contains_remove]
      simp [different]

theorem insert_keeps (entity : Entity) (component : Component) (value : Value) :
    Operation.Keeps WellFormed (insert entity component value) :=
  .bind (register_keeps component) (fun id => .bind (add_keeps entity id value) (fun _ => .pure id))

theorem insertAll_keeps (entity : Entity) :
    (values : List (Component × Value)) → Operation.Keeps WellFormed (insertAll entity values)
  | [] => .pure ()
  | (component, value) :: rest =>
    .bind (insert_keeps entity component value) (fun _ => insertAll_keeps entity rest)

theorem enroll_keeps (name : String) (catalog : Catalog) :
    Operation.Keeps WellFormed (enroll name catalog) := by
  intro scene wellFormed
  rcases ran : enroll name catalog scene with ⟨fault | result, later⟩
  · obtain ⟨store, grows, rfl⟩ := enroll_refused ran
    exact wellFormed.grow grows
  · obtain ⟨system, ids, store, -, -, grows, known, rfl⟩ := enroll_ok ran
    obtain ⟨roster, formed, owned, named, alive, equipped⟩ := wellFormed.grow grows
    refine ⟨roster, formed, owned, named, alive, ?_⟩
    intro enrolled member
    rcases List.mem_append.mp member with before | last
    · exact equipped enrolled before
    · rw [List.mem_singleton.mp last]
      exact fun name asked => known.exists_mem asked

theorem systems_perform_enroll {scene : Scene} {name : String} {catalog : Catalog}
    (accepted : (enroll name catalog scene).1 = .ok ()) :
    ∃ system ids, catalog.systems.find? name = some system ∧
      ((Command.enroll name catalog).perform scene).2.systems = scene.systems ++ [⟨system, ids⟩] := by
  obtain ⟨system, ids, store, found, -, -, -, after⟩ := enroll_ok (Prod.ext accepted rfl)
  exact ⟨system, ids, found, congrArg systems ((Operation.refusal?_snd _ _).trans after)⟩

theorem createAs_keeps : (name : Option String) → Operation.Keeps WellFormed (createAs name)
  | some name => createNamed_keeps name
  | none => create_keeps

/-- Creation for a snapshot keeps the parts in step wherever it stops. -/
theorem createAll_wellFormed (blueprints : List Blueprint) {scene : Scene}
    (wellFormed : scene.WellFormed) : (createAll blueprints scene).2.2.WellFormed := by
  induction blueprints generalizing scene with
  | nil => exact wellFormed
  | cons blueprint rest ih =>
    have creation := createAs_keeps blueprint.name scene wellFormed
    unfold createAll
    split
    · next ran =>
      rw [ran] at creation
      exact creation
    · next entity middle ran =>
      rw [ran] at creation
      have insertion := insertAll_keeps entity blueprint.values middle creation
      split
      · next filled =>
        rw [filled] at insertion
        exact insertion
      · next filled =>
        rw [filled] at insertion
        exact ih insertion

theorem destroyAll_wellFormed (created : List Entity) {scene : Scene}
    (wellFormed : scene.WellFormed) : (destroyAll created scene).WellFormed := by
  induction created generalizing scene with
  | nil => exact wellFormed
  | cons entity rest ih => exact ih (destroy_keeps entity scene wellFormed)

theorem load_keeps (snapshot : Snapshot) (components : Registry Component) :
    Operation.Keeps WellFormed (load snapshot components) := by
  intro scene wellFormed
  unfold load
  split
  · exact wellFormed
  · next blueprints _ =>
    have all := createAll_wellFormed blueprints wellFormed
    split
    · next ran =>
      rw [ran] at all
      exact all
    · next ran =>
      rw [ran] at all
      exact destroyAll_wellFormed _ all

theorem dispatch_wellFormed (events : Registry Contract) (event : Event)
    (wellFormed : scene.WellFormed) : (scene.dispatch events event).scene.WellFormed := by
  obtain ⟨store, after, rewrites, formed⟩ := dispatch_rewrites events event wellFormed.store
  rw [after]
  apply wellFormed.withStore formed
  · intro name id known
    rw [rewrites.componentId?]
    exact known
  · exact rewrites.contains

theorem perform_wellFormed (command : Command) (wellFormed : scene.WellFormed) :
    (command.perform scene).2.WellFormed := by
  cases command with
  | configure limits =>
    obtain ⟨roster, store, owned, named, alive, equipped⟩ := wellFormed
    exact ⟨roster, store, owned, named, alive, equipped⟩
  | dispatch events event =>
    rw [Command.perform, Outcome.refusal?_snd]
    exact dispatch_wellFormed events event wellFormed
  | create => exact create_keeps.refusal? wellFormed
  | createNamed name => exact (createNamed_keeps name).refusal? wellFormed
  | destroy entity => exact (destroy_keeps entity).refusal? wellFormed
  | register component => exact (register_keeps component).refusal? wellFormed
  | add entity id value => exact (add_keeps entity id value).refusal? wellFormed
  | insert entity component value =>
    exact (insert_keeps entity component value).refusal? wellFormed
  | remove entity id => exact (remove_keeps entity id).refusal? wellFormed
  | enroll name catalog => exact (enroll_keeps name catalog).refusal? wellFormed
  | load snapshot components =>
    exact (load_keeps snapshot components).refusal? wellFormed

theorem after_wellFormed (name : String) (limits : Limits) (commands : List Command) :
    ((empty name limits).after commands).WellFormed :=
  after_induction (empty_wellFormed name limits) (fun _ => perform_wellFormed) commands

/-! ### What a host sees -/

structure Blank (scene : Scene) (entity : Entity) : Prop where
  signature : scene.roster.signature entity = .ok .empty
  valueless : ∀ id, scene.store.get? entity id = none
  components : scene.components entity = .ok []

/-- The signatures, the columns, the names and the counts of a scene agree. -/
structure Consistent (scene : Scene) : Prop where
  /-- The signature of an entity has the registered kinds in whose columns the entity has a value. -/
  signature : ∀ entity, scene.roster.isAlive entity = true →
    ∃ signature, scene.roster.signature entity = .ok signature ∧
      ∀ id, signature.contains id = true ↔
        (∃ component, scene.store.component? id = some component) ∧
        ∃ column value, scene.store.column? id = some column ∧ column.get? entity = some value
  /-- Nothing is left of an entity that is not alive. -/
  dead : ∀ entity, scene.roster.isAlive entity = false →
    (∀ id column, scene.store.column? id = some column → column.get? entity = none) ∧
    scene.givenName? entity = none ∧ ∀ name, scene.find? name ≠ some entity
  /-- An entity without a name begins with nothing. -/
  created : ∀ entity later, create scene = (.ok entity, later) →
    later.Blank entity ∧ later.givenName? entity = none
  /-- An entity with a name begins with nothing else. -/
  createdNamed : ∀ name entity later, createNamed name scene = (.ok entity, later) →
    later.Blank entity ∧ later.givenName? entity = some name
  typed : ∀ id column entity value, scene.store.column? id = some column →
    column.get? entity = some value →
    ∃ component, scene.store.component? id = some component ∧
      value.check component.schema = .ok ()
  found : ∀ name entity, scene.find? name = some entity ↔
    scene.roster.isAlive entity = true ∧ scene.givenName? entity = some name
  distinct : ∀ first second name, scene.givenName? first = some name →
    scene.givenName? second = some name → first = second
  counted : scene.roster.size = scene.roster.entities.length ∧ scene.roster.entities.Nodup ∧
    ∀ entity, entity ∈ scene.roster.entities ↔ scene.roster.isAlive entity = true
  columnsCounted : ∀ id column, scene.store.column? id = some column →
    column.size = column.entities.length ∧ column.entities.Nodup ∧
    ∀ entity, entity ∈ column.entities ↔ (column.get? entity).isSome = true

theorem blank_of_signature? (wellFormed : scene.WellFormed) {entity : Entity}
    (owned : scene.roster.signature? entity = some .empty) : scene.Blank entity := by
  have known := (Roster.signature_ok_iff wellFormed.roster).mpr owned
  have valueless (id : ComponentId) : scene.store.get? entity id = none := by
    have absent := wellFormed.owned entity id
    rw [Roster.owns, owned, Option.any_some, Signature.contains_empty] at absent
    exact Option.not_isSome_iff_eq_none.mp (Bool.eq_false_iff.mp absent)
  refine ⟨known, valueless, ?_⟩
  have empty : scene.store.valuesOf entity = [] := by
    rw [Store.valuesOf, List.filterMap_eq_nil_iff]
    intro id _
    rw [valueless id]
    rfl
  rw [components, Roster.checkAlive, known, empty]
  rfl

namespace WellFormed

theorem created_blank (wellFormed : scene.WellFormed) {entity : Entity}
    (created : Scene.create scene = (.ok entity, later)) :
    later.Blank entity ∧ later.givenName? entity = none := by
  have formed := create_keeps scene wellFormed
  rw [created] at formed
  obtain ⟨roster, creates, rfl⟩ := create_ok wellFormed.roster created
  have dead : scene.roster.isAlive entity = false := by rw [Roster.isAlive, creates.dead]; rfl
  have owned : roster.signature? entity = some .empty := by
    rw [creates.changes.signature?, if_pos rfl]
  exact ⟨blank_of_signature? formed owned, wellFormed.unnamed dead⟩

theorem createdNamed_blank (wellFormed : scene.WellFormed) {name : String} {entity : Entity}
    (created : createNamed name scene = (.ok entity, later)) :
    later.Blank entity ∧ later.givenName? entity = some name := by
  have formed := createNamed_keeps name scene wellFormed
  rw [created] at formed
  obtain ⟨-, roster, creates, rfl⟩ := createNamed_ok wellFormed.roster created
  have owned : roster.signature? entity = some .empty := by
    rw [creates.changes.signature?, if_pos rfl]
  exact ⟨blank_of_signature? formed owned, List.lookup_cons_self⟩

end WellFormed

theorem consistent (wellFormed : scene.WellFormed) : scene.Consistent where
  signature entity alive := by
    obtain ⟨signature, owned⟩ := Option.isSome_iff_exists.mp alive
    refine ⟨signature, (Roster.signature_ok_iff wellFormed.roster).mpr owned, ?_⟩
    intro id
    have agree := wellFormed.owned entity id
    rw [Roster.owns, owned, Option.any_some] at agree
    rw [← agree, Store.contains, Option.isSome_iff_exists]
    constructor
    · rintro ⟨value, present⟩
      obtain ⟨column, opened, stored⟩ := Option.bind_eq_some_iff.mp present
      exact ⟨Store.component?_of_get? present, column, value, opened, stored⟩
    · rintro ⟨-, column, value, opened, stored⟩
      exact ⟨value, Option.bind_eq_some_iff.mpr ⟨column, opened, stored⟩⟩
  dead entity dead := by
    refine ⟨?_, wellFormed.unnamed dead, ?_⟩
    · intro id column opened
      have absent := wellFormed.valueless dead id
      rw [Store.get?, opened] at absent
      exact absent
    · intro name found
      rw [wellFormed.named, wellFormed.unnamed dead] at found
      cases found
  created _ _ := wellFormed.created_blank
  createdNamed _ _ _ := wellFormed.createdNamed_blank
  typed id column entity value opened stored := by
    have present : scene.store.get? entity id = some value :=
      Option.bind_eq_some_iff.mpr ⟨column, opened, stored⟩
    obtain ⟨component, known⟩ := Store.component?_of_get? present
    have fits := wellFormed.store.typed id component entity value known present
    exact ⟨component, known, (Value.check_ok_iff value component.schema).mpr fits⟩
  found name entity := by
    rw [wellFormed.named]
    exact ⟨fun known => ⟨wellFormed.alive entity name known, known⟩, And.right⟩
  distinct first second name one other := by
    rw [← wellFormed.named] at one other
    exact Option.some.inj (one.symm.trans other)
  counted := ⟨(Roster.length_entities wellFormed.roster).symm,
    (Roster.entities_ascending scene.roster).imp (fun less same => by simp [same] at less),
    scene.roster.mem_entities⟩
  columnsCounted id column opened :=
    ⟨(Column.length_entities (wellFormed.store.counted id column opened)).symm,
      column.entities_ascending.imp (fun less same => by simp [same] at less), column.mem_entities⟩

/-- Whatever a host asks of a new scene, and whatever of it is refused, the signatures, the columns and
the names stay in step. -/
theorem after_consistent (name : String) (commands : List Command) :
    ((empty name .standard).after commands).Consistent :=
  consistent (after_wellFormed name .standard commands)

end Scene

end Stagecraft
