import Stagecraft.Proofs.Snapshots

/-!
Population: entities that are created one after the other. Into a scene where just the numbers below some
number are alive, they come under the next numbers; and where their components are taken from one
repertoire, which as a whole fits into a signature, each gets the values that it is meant to have.
-/

namespace Stagecraft

def Component.heading (component : Component) : String × Schema := (component.name, component.schema)

structure Repertoire where
  headings : List (String × Schema)
  few : headings.length ≤ maxKinds
  distinct : (headings.map Prod.fst).Nodup

theorem Repertoire.schema_eq (repertoire : Repertoire) {name : String} {schema found : Schema}
    (listed : (name, schema) ∈ repertoire.headings) (other : (name, found) ∈ repertoire.headings) :
    schema = found :=
  Option.some.inj (((Keyed.lookup_eq_some_iff repertoire.distinct).mpr listed).symm.trans
    ((Keyed.lookup_eq_some_iff repertoire.distinct).mpr other))

namespace Store

variable {store next : Store} {entity : Entity} {id : ComponentId} {component : Component}

theorem Grows.valueOf (grows : store.Grows next) (entity : Entity) (name : String) :
    next.valueOf entity name = store.valueOf entity name := by
  unfold Store.valueOf
  cases known : store.componentId? name with
  | some id =>
    rw [grows.componentId? name id known]
    exact grows.get? entity id
  | none =>
    rw [Option.bind_none, Option.bind_eq_none_iff]
    intro id later
    rw [grows.get?, Option.eq_none_iff_forall_ne_some]
    intro value present
    obtain ⟨component, registered⟩ := component?_of_get? present
    obtain ⟨namesake, same, named⟩ := exists_component?_of_componentId? later
    rw [grows.component? id component registered] at same
    cases same
    rw [componentId?_eq_none_iff] at known
    exact known (List.mem_map.mpr ⟨component, mem_components registered, named⟩)

theorem valueOf_add (distinct : (store.components.map Component.name).Nodup)
    (known : store.component? id = some component) (entity other : Entity) (value : Value)
    (name : String) :
    ((store.openColumn id).write entity id (some value)).valueOf other name =
      if entity = other ∧ component.name = name then some value else store.valueOf other name := by
  have grows := openColumn_grows store id
  have opened : (store.openColumn id).isOpen id = true := by
    rw [isOpen, column?_openColumn, if_pos rfl, known]
    rfl
  rw [valueOf_write (grows.componentId? _ id (componentId?_name distinct known)) opened,
    grows.valueOf]

theorem components_register {component : Component}
    (registered : store.register component = .ok (id, next)) :
    next.components = store.components ∨ next.components = store.components ++ [component] := by
  rcases register_cases registered with ⟨-, rfl⟩ | ⟨-, -, rfl⟩
  · exact .inl rfl
  · exact .inr (by simp [components])

end Store

namespace Scene

def repertoire (scene : Scene) (formed : scene.WellFormed)
    (distinct : (scene.store.components.map Component.name).Nodup) : Repertoire where
  headings := scene.store.components.map Component.heading
  few := by
    rw [List.length_map, Store.length_components]
    exact formed.store.few
  distinct := by rwa [List.map_map]

variable {repertoire : Repertoire} {scene later : Scene}

structure Stocked (repertoire : Repertoire) (scene : Scene) : Prop where
  formed : scene.WellFormed
  distinct : (scene.store.components.map Component.name).Nodup
  known : ∀ component ∈ scene.store.components, component.heading ∈ repertoire.headings

structure Gives (entity : Entity) (values : String → Option Value) (before after : Scene) : Prop where
  frame : after = { before with roster := after.roster, store := after.store }
  capacity : after.roster.capacity = before.roster.capacity
  isAlive : ∀ other, after.roster.isAlive other = before.roster.isAlive other
  valueOf : ∀ other name, after.store.valueOf other name =
    if entity = other then (values name).or (before.store.valueOf other name)
    else before.store.valueOf other name

namespace Gives

variable {entity : Entity}

theorem refl (entity : Entity) (scene : Scene) : scene.Gives entity (fun _ => none) scene where
  frame := rfl
  capacity := rfl
  isAlive _ := rfl
  valueOf other name := by simp

theorem trans {first second third : Scene} {one other : String → Option Value}
    (earlier : first.Gives entity one second) (further : second.Gives entity other third) :
    first.Gives entity (fun name => (other name).or (one name)) third where
  frame := by
    rw [further.frame, earlier.frame]
  capacity := further.capacity.trans earlier.capacity
  isAlive member := (further.isAlive member).trans (earlier.isAlive member)
  valueOf member name := by
    rw [further.valueOf, earlier.valueOf]
    split
    · rw [Option.or_assoc]
    · rfl

theorem find? {values : String → Option Value} (gives : scene.Gives entity values later)
    (name : String) : later.find? name = scene.find? name := by
  rw [gives.frame]
  rfl

theorem givenName? {values : String → Option Value} (gives : scene.Gives entity values later)
    (other : Entity) : later.givenName? other = scene.givenName? other := by
  rw [gives.frame]
  rfl

end Gives

theorem Stocked.register (stocked : scene.Stocked repertoire) {component : Component}
    (listed : component.heading ∈ repertoire.headings) :
    ∃ id store found, scene.store.register component = .ok (id, store) ∧
      store.component? id = some found ∧ found.heading = component.heading ∧
      ({ scene with store := store } : Scene).Stocked repertoire := by
  have room (unknown : scene.store.componentId? component.name = none) :
      ¬maxKinds ≤ scene.store.kinds.size := by
    have distinct : (component.name :: scene.store.components.map Component.name).Nodup :=
      List.nodup_cons.mpr ⟨(Store.componentId?_eq_none_iff _ _).mp unknown, stocked.distinct⟩
    have inside : component.name :: scene.store.components.map Component.name ⊆
        repertoire.headings.map Prod.fst := by
      refine List.cons_subset.mpr ⟨List.mem_map.mpr ⟨_, listed, rfl⟩, fun name member => ?_⟩
      obtain ⟨known, inside, rfl⟩ := List.mem_map.mp member
      exact List.mem_map.mpr ⟨_, stocked.known known inside, rfl⟩
    have bound := (List.subperm_of_subset distinct inside).length_le
    rw [List.length_cons, List.length_map, Store.length_components, List.length_map] at bound
    have few := repertoire.few
    omega
  obtain ⟨id, store, registered⟩ : ∃ id store,
      scene.store.register component = .ok (id, store) := by
    unfold Store.register
    cases known : scene.store.componentId? component.name with
    | some id => exact ⟨_, _, rfl⟩
    | none => exact ⟨_, _, by rw [if_neg (room known)]⟩
  have kinds : ∀ known ∈ store.components, known.heading ∈ repertoire.headings := by
    intro known inside
    rcases Store.components_register registered with same | same
    · exact stocked.known known (same ▸ inside)
    · rw [same] at inside
      rcases List.mem_append.mp inside with before | last
      · exact stocked.known known before
      · rw [List.mem_singleton.mp last]
        exact listed
  obtain ⟨found, known, named⟩ :=
    Store.exists_component?_of_componentId? (Store.componentId?_registered registered)
  refine ⟨id, store, found, registered, known, ?_,
    stocked.formed.grow (Store.register_grows registered), ?_, kinds⟩
  · have heading := kinds found (Store.mem_components known)
    rw [Component.heading, named] at heading
    exact Prod.ext named (repertoire.schema_eq heading listed)
  · exact (Store.register_registers registered (List.mem_singleton_self _)).distinct stocked.distinct

/-- An entity that is alive accepts a value of the schema of a registered component. -/
theorem add_accepted (wellFormed : scene.roster.WellFormed) {entity : Entity} {id : ComponentId}
    {component : Component} {value : Value} (alive : scene.roster.isAlive entity = true)
    (known : scene.store.component? id = some component) (fits : value.schema = component.schema) :
    ∃ (signature : Signature) (roster : Roster),
      scene.roster.Changes entity (some (signature.insert id)) roster ∧
      add entity id value scene = (.ok (), { scene with
        roster := roster
        store := (scene.store.openColumn id).write entity id (some value) }) := by
  obtain ⟨signature, owned⟩ := Option.isSome_iff_exists.mp alive
  have signed := (Roster.signature_ok_iff wellFormed).mpr owned
  obtain ⟨roster, changes, replaced⟩ := setSignature_ok
    { scene with store := (scene.store.openColumn id).write entity id (some value) }
    (signature.insert id) wellFormed signed
  refine ⟨signature, roster, changes, ?_⟩
  rw [add_apply, signed, Store.add_apply, known]
  dsimp only
  rw [(component.accept_ok_iff value).mpr fits]
  exact replaced

theorem Stocked.insert (stocked : scene.Stocked repertoire) {entity : Entity} {component : Component}
    {value : Value} (alive : scene.roster.isAlive entity = true)
    (listed : component.heading ∈ repertoire.headings) (fits : value.schema = component.schema) :
    ∃ id later, Scene.insert entity component value scene = (.ok id, later) ∧
      later.Stocked repertoire ∧
      scene.Gives entity (fun name => if component.name = name then some value else none) later := by
  obtain ⟨id, store, found, registered, known, heading, middle⟩ := stocked.register listed
  obtain ⟨named, schema⟩ := Prod.mk.inj heading
  obtain ⟨signature, roster, changes, added⟩ :=
    add_accepted middle.formed.roster alive known (fits.trans schema.symm)
  have ran : Scene.insert entity component value scene = (.ok id, { scene with
      roster := roster
      store := (store.openColumn id).write entity id (some value) }) := by
    rw [insert_apply, register_apply, registered]
    dsimp only
    rw [added]
  have kinds : ((store.openColumn id).write entity id (some value)).components =
      store.components := Store.components_congr (fun kind => by
    rw [Store.component?_write, Store.component?_openColumn])
  refine ⟨id, _, ran, ⟨?_, ?_, ?_⟩, ⟨rfl, changes.capacity, ?_, ?_⟩⟩
  · have formed := insert_keeps entity component value scene stocked.formed
    rw [ran] at formed
    exact formed
  · rw [kinds]
    exact middle.distinct
  · rw [kinds]
    exact middle.known
  · intro other
    rw [Roster.isAlive_changes changes]
    split
    · next same =>
      subst same
      exact alive.symm
    · rfl
  · intro other name
    rw [Store.valueOf_add middle.distinct known, named,
      (Store.register_grows registered).valueOf other name]
    by_cases here : entity = other
    · by_cases same : component.name = name <;> simp [here, same]
    · simp [here]

def intended (values : List (Component × Value)) (name : String) : Option Value :=
  (values.map (fun entry => (entry.1.name, entry.2))).lookup name

structure Suitable (repertoire : Repertoire) (values : List (Component × Value)) : Prop where
  known : ∀ entry ∈ values, entry.1.heading ∈ repertoire.headings
  fits : ∀ entry ∈ values, entry.2.schema = entry.1.schema
  distinct : (values.map (fun entry => entry.1.name)).Nodup

theorem Stocked.insertAll {entity : Entity} {values : List (Component × Value)}
    (suitable : Suitable repertoire values) {scene : Scene} (stocked : scene.Stocked repertoire)
    (alive : scene.roster.isAlive entity = true) :
    ∃ later, Scene.insertAll entity values scene = (.ok (), later) ∧ later.Stocked repertoire ∧
      scene.Gives entity (intended values) later := by
  induction values generalizing scene with
  | nil => exact ⟨scene, rfl, stocked, .refl entity scene⟩
  | cons first rest ih =>
    obtain ⟨component, value⟩ := first
    obtain ⟨known, knownRest⟩ := List.forall_mem_cons.mp suitable.known
    obtain ⟨fits, fitsRest⟩ := List.forall_mem_cons.mp suitable.fits
    obtain ⟨absent, distinct⟩ := List.nodup_cons.mp suitable.distinct
    obtain ⟨id, middle, inserted, stockedMiddle, gives⟩ :=
      stocked.insert alive known fits
    obtain ⟨later, others, stockedLater, givesRest⟩ := ih ⟨knownRest, fitsRest, distinct⟩
      stockedMiddle ((gives.isAlive entity).trans alive)
    refine ⟨later, ?_, stockedLater, ?_⟩
    · rw [Scene.insertAll, Operation.bind_apply, inserted]
      exact others
    · have all : intended ((component, value) :: rest) = fun name =>
          (intended rest name).or (if component.name = name then some value else none) := by
        funext name
        unfold intended
        rw [List.map_cons, List.lookup_cons]
        by_cases same : name = component.name
        · subst same
          have behind : (rest.map (fun entry => (entry.1.name, entry.2))).lookup
              component.name = none := by
            rw [← Option.not_isSome_iff_eq_none, Keyed.lookup_isSome_iff, List.map_map]
            exact absent
          simp [behind]
        · have different : (name == component.name) = false := beq_eq_false_iff_ne.mpr same
          simp [different, Ne.symm same]
      rw [all]
      exact gives.trans givesRest

/-! ### Creation in order -/

def Dense (count : Nat) (scene : Scene) : Prop :=
  ∀ entity, scene.roster.isAlive entity = decide (entity.id < count)

theorem Dense.entities {count : Nat} (dense : scene.Dense count) :
    scene.roster.entities = (List.range count).map Entity.mk := by
  apply eq_of_ascending (Roster.entities_ascending _)
  · rw [List.pairwise_map]
    exact List.pairwise_lt_range
  · rintro ⟨number⟩
    rw [Roster.mem_entities, dense]
    simp

theorem Dense.create {count : Nat} (dense : scene.Dense count) (wellFormed : scene.WellFormed)
    (room : count < scene.roster.capacity) :
    ∃ roster, scene.roster.create = .ok (⟨count⟩, roster) ∧
      scene.roster.Creates ⟨count⟩ roster := by
  cases created : scene.roster.create with
  | error fault =>
    have alive := (Roster.create_error wellFormed.roster created).2 count room
    rw [dense] at alive
    simp at alive
  | ok result =>
    obtain ⟨⟨number⟩, roster⟩ := result
    have creates := Roster.create_ok wellFormed.roster created
    have dead := dense ⟨number⟩
    rw [Roster.isAlive, creates.dead] at dead
    have same : number = count := by
      apply Nat.le_antisymm
      · by_contra more
        have alive := creates.least count (Nat.lt_of_not_le more)
        rw [dense] at alive
        simp at alive
      · simpa using dead
    subst same
    exact ⟨roster, rfl, creates⟩

structure Admits (entity : Entity) (name : Option String) (before after : Scene) : Prop where
  store : after.store = before.store
  systems : after.systems = before.systems
  limits : after.limits = before.limits
  capacity : after.roster.capacity = before.roster.capacity
  isAlive : ∀ other, after.roster.isAlive other = (decide (entity = other) || before.roster.isAlive other)
  givenName? : ∀ other,
    after.givenName? other = if entity = other then name else before.givenName? other
  find? : ∀ given, after.find? given = if name = some given then some entity else before.find? given

theorem Dense.createAs {count : Nat} (dense : scene.Dense count) (wellFormed : scene.WellFormed)
    (room : count < scene.roster.capacity) {name : Option String}
    (free : ∀ given, name = some given → scene.find? given = none) :
    ∃ later, Scene.createAs name scene = (.ok ⟨count⟩, later) ∧ scene.Admits ⟨count⟩ name later := by
  obtain ⟨roster, created, creates⟩ := dense.create wellFormed room
  have isAlive (other : Entity) : roster.isAlive other =
      (decide ((⟨count⟩ : Entity) = other) || scene.roster.isAlive other) := by
    rw [Roster.isAlive_changes creates.changes]
    split
    · next same => simp [same]
    · next different => simp [different]
  have dead : scene.roster.isAlive ⟨count⟩ = false := by
    rw [Roster.isAlive, creates.dead]
    rfl
  cases name with
  | none =>
    refine ⟨{ scene with roster := roster }, by rw [Scene.createAs, create_apply, created], rfl, rfl,
      rfl, creates.changes.capacity, isAlive, ?_, fun given => rfl⟩
    intro other
    split
    · next same => exact same ▸ wellFormed.unnamed dead
    · rfl
  | some given =>
    have absent : ¬(scene.find? given).isSome = true := by
      rw [free given rfl]
      exact Bool.false_ne_true
    refine ⟨{ scene with
      roster := roster
      byName := (given, ⟨count⟩) :: scene.byName
      names := (⟨count⟩, given) :: scene.names }, ?_, rfl, rfl, rfl, creates.changes.capacity,
      isAlive, ?_, ?_⟩
    · rw [Scene.createAs, createNamed_apply, if_neg absent, create_apply, created]
    · intro other
      unfold Scene.givenName?
      rw [List.lookup_cons]
      by_cases same : other = ⟨count⟩
      · simp [same]
      · have different : (other == ⟨count⟩) = false := beq_eq_false_iff_ne.mpr same
        simp [different, Ne.symm same]
    · intro name
      unfold Scene.find?
      rw [List.lookup_cons]
      by_cases same : name = given
      · simp [same]
      · have different : (name == given) = false := beq_eq_false_iff_ne.mpr same
        simp [different, Ne.symm same]

theorem Admits.dense {count : Nat} {name : Option String} (dense : scene.Dense count)
    (admits : scene.Admits ⟨count⟩ name later) : later.Dense (count + 1) := by
  rintro ⟨number⟩
  rw [admits.isAlive, dense, Bool.eq_iff_iff]
  simp only [Entity.mk.injEq, Bool.or_eq_true, decide_eq_true_eq]
  omega

structure Populates (first : Nat) (blueprints : List Blueprint) (before after : Scene) : Prop where
  systems : after.systems = before.systems
  limits : after.limits = before.limits
  capacity : after.roster.capacity = before.roster.capacity
  dense : after.Dense (first + blueprints.length)
  givenName? : ∀ place blueprint, blueprints[place]? = some blueprint →
    after.givenName? ⟨first + place⟩ = blueprint.name
  valueOf : ∀ place blueprint name, blueprints[place]? = some blueprint →
    after.store.valueOf ⟨first + place⟩ name = intended blueprint.values name
  earlierName? : ∀ entity, entity.id < first → after.givenName? entity = before.givenName? entity
  earlier : ∀ entity name, entity.id < first →
    after.store.valueOf entity name = before.store.valueOf entity name

theorem Populates.cons {first : Nat} {blueprint : Blueprint} {rest : List Blueprint}
    {before admitted filled after : Scene} (wellFormed : before.WellFormed)
    (dense : before.Dense first) (admits : before.Admits ⟨first⟩ blueprint.name admitted)
    (gives : admitted.Gives ⟨first⟩ (intended blueprint.values) filled)
    (populates : filled.Populates (first + 1) rest after) :
    before.Populates first (blueprint :: rest) after where
  systems := by
    rw [populates.systems, gives.frame]
    exact admits.systems
  limits := by
    rw [populates.limits, gives.frame]
    exact admits.limits
  capacity := by rw [populates.capacity, gives.capacity, admits.capacity]
  dense := by
    have all := populates.dense
    rwa [Nat.add_right_comm, Nat.add_assoc] at all
  givenName? place found member := by
    cases place with
    | zero =>
      cases member
      rw [Nat.add_zero, populates.earlierName? ⟨first⟩ (Nat.lt_succ_self first), gives.givenName?,
        admits.givenName?, if_pos rfl]
    | succ place =>
      have later := populates.givenName? place found member
      rwa [Nat.add_assoc, Nat.add_comm 1] at later
  valueOf place found name member := by
    cases place with
    | zero =>
      cases member
      have dead : before.roster.isAlive ⟨first⟩ = false := by
        rw [dense]
        simp
      have absent : before.store.valueOf ⟨first⟩ name = none := by
        rw [Store.valueOf, Option.bind_eq_none_iff]
        exact fun id _ => wellFormed.valueless dead id
      rw [Nat.add_zero, populates.earlier ⟨first⟩ name (Nat.lt_succ_self first), gives.valueOf,
        if_pos rfl, admits.store, absent, Option.or_none]
    | succ place =>
      have later := populates.valueOf place found name member
      rwa [Nat.add_assoc, Nat.add_comm 1] at later
  earlierName? entity less := by
    have apart : (⟨first⟩ : Entity) ≠ entity := fun same => Nat.ne_of_lt less (same ▸ rfl)
    rw [populates.earlierName? entity (Nat.lt_succ_of_lt less), gives.givenName?,
      admits.givenName?, if_neg apart]
  earlier entity name less := by
    have apart : (⟨first⟩ : Entity) ≠ entity := fun same => Nat.ne_of_lt less (same ▸ rfl)
    rw [populates.earlier entity name (Nat.lt_succ_of_lt less), gives.valueOf, if_neg apart,
      admits.store]

theorem distinct_names_cons {blueprint : Blueprint} {rest : List Blueprint}
    (distinct : ((blueprint :: rest).filterMap Blueprint.name).Nodup) :
    (rest.filterMap Blueprint.name).Nodup ∧ ∀ given ∈ rest.filterMap Blueprint.name,
      blueprint.name ≠ some given ∧ given ∈ (blueprint :: rest).filterMap Blueprint.name := by
  cases named : blueprint.name with
  | none =>
    rw [List.filterMap_cons_none named] at distinct ⊢
    exact ⟨distinct, fun given member => ⟨nofun, member⟩⟩
  | some name =>
    rw [List.filterMap_cons_some named] at distinct ⊢
    obtain ⟨absent, distinct⟩ := List.nodup_cons.mp distinct
    refine ⟨distinct, fun given member => ⟨?_, List.mem_cons_of_mem name member⟩⟩
    rintro ⟨⟩
    exact absent member

/-- If there is room for all entities and their names are distinct and free, then all of them are
created. -/
theorem createAll_populates {blueprints : List Blueprint}
    (suitable : ∀ blueprint ∈ blueprints, Suitable repertoire blueprint.values)
    (distinct : (blueprints.filterMap Blueprint.name).Nodup) {scene : Scene} {first : Nat}
    (stocked : scene.Stocked repertoire) (dense : scene.Dense first)
    (room : first + blueprints.length ≤ scene.roster.capacity)
    (free : ∀ given ∈ blueprints.filterMap Blueprint.name, scene.find? given = none) :
    ∃ later, createAll blueprints scene =
        (none, (List.range' first blueprints.length).map Entity.mk, later) ∧
      later.Stocked repertoire ∧ scene.Populates first blueprints later := by
  induction blueprints generalizing scene first with
  | nil =>
    exact ⟨scene, rfl, stocked, rfl, rfl, rfl, dense, nofun, nofun, fun _ _ => rfl,
      fun _ _ _ => rfl⟩
  | cons blueprint rest ih =>
    obtain ⟨here, others⟩ := List.forall_mem_cons.mp suitable
    rw [List.length_cons] at room
    have freeHere (given : String) (same : blueprint.name = some given) :
        scene.find? given = none := by
      apply free
      rw [List.filterMap_cons_some same]
      exact List.mem_cons_self
    obtain ⟨admitted, created, admits⟩ :=
      dense.createAs stocked.formed (by omega) freeHere
    have formed := createAs_keeps blueprint.name scene stocked.formed
    rw [created] at formed
    have stockedNext : admitted.Stocked repertoire :=
      ⟨formed, admits.store ▸ stocked.distinct, admits.store ▸ stocked.known⟩
    have alive : admitted.roster.isAlive ⟨first⟩ = true := by simp [admits.isAlive]
    obtain ⟨filled, ran, stockedFilled, gives⟩ := Stocked.insertAll here stockedNext alive
    have denseNext : filled.Dense (first + 1) := fun entity =>
      (gives.isAlive entity).trans (admits.dense dense entity)
    have roomNext : first + 1 + rest.length ≤ filled.roster.capacity := by
      rw [gives.capacity, admits.capacity]
      omega
    obtain ⟨distinctRest, apart⟩ := distinct_names_cons distinct
    have freeRest : ∀ given ∈ rest.filterMap Blueprint.name, filled.find? given = none := by
      intro given member
      obtain ⟨different, inside⟩ := apart given member
      rw [gives.find?, admits.find?, if_neg different]
      exact free given inside
    obtain ⟨later, all, stockedLater, populates⟩ :=
      ih others distinctRest stockedFilled denseNext roomNext freeRest
    refine ⟨later, ?_, stockedLater, .cons stocked.formed dense admits gives populates⟩
    rw [createAll, created]
    dsimp only
    rw [ran]
    dsimp only
    rw [all]
    rfl

end Scene

end Stagecraft
