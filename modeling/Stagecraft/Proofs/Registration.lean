import Stagecraft.Proofs.Refusal

/-!
Registration: which components a scene knows. Every command registers at most components that it names,
each under the next number, and opens at most their columns. What is refused later does not take that
back: of a refused command no value stays, but the kinds and the columns of its components may.
-/

namespace Stagecraft

namespace Store

def components (store : Store) : List Component := store.kinds.toList.map Kind.component

def isOpen (store : Store) (id : ComponentId) : Bool := (store.column? id).isSome

theorem isOpen_of_contains {store : Store} {entity : Entity} {id : ComponentId}
    (present : store.contains entity id = true) : store.isOpen id = true := by
  obtain ⟨value, held⟩ := Option.isSome_iff_exists.mp present
  obtain ⟨column, opened, -⟩ := Option.bind_eq_some_iff.mp held
  rw [isOpen, opened]
  rfl

theorem get?_write_open {store : Store} {id : ComponentId} (opened : store.isOpen id = true)
    (entity other : Entity) (content : Option Value) (kind : ComponentId) :
    (store.write entity id content).get? other kind =
      if entity = other ∧ id = kind then content else store.get? other kind := by
  rw [get?_write]
  split
  · next same =>
    obtain ⟨column, found⟩ := Option.isSome_iff_exists.mp opened
    rw [← same.2, found, Option.bind_some]
  · rfl

theorem length_components (store : Store) : store.components.length = store.kinds.size := by
  simp [components]

theorem component?_eq (store : Store) (id : ComponentId) :
    store.component? id = store.components[id.index]? := by
  simp [component?, components]

theorem mem_components {store : Store} {id : ComponentId} {component : Component}
    (known : store.component? id = some component) : component ∈ store.components := by
  rw [component?_eq] at known
  exact List.mem_of_getElem? known

theorem componentId?_eq (store : Store) (name : String) : store.componentId? name =
    (store.components.findIdx? (fun component => component.name == name)).map ComponentId.mk := by
  rw [components, List.findIdx?_map, componentId?, ← List.findIdx?_toArray]
  rfl

theorem componentId?_eq_none_iff (store : Store) (name : String) :
    store.componentId? name = none ↔ name ∉ store.components.map Component.name := by
  rw [componentId?_eq, Option.map_eq_none_iff, List.findIdx?_eq_none_iff]
  simp

theorem exists_component?_of_componentId? {store : Store} {name : String} {id : ComponentId}
    (known : store.componentId? name = some id) :
    ∃ component, store.component? id = some component ∧ component.name = name := by
  rw [componentId?_eq] at known
  obtain ⟨index, found, rfl⟩ := Option.map_eq_some_iff.mp known
  obtain ⟨inside, named, -⟩ := List.findIdx?_eq_some_iff_getElem.mp found
  rw [component?_eq, List.getElem?_eq_getElem inside]
  exact ⟨_, rfl, beq_iff_eq.mp named⟩

/-- The second store knows what the first does, and further components that were asked for. -/
structure Registers (names : List String) (before after : Store) : Prop where
  /-- Further components have the next numbers. None of their names was known. -/
  added : ∃ added, after.components = before.components ++ added ∧
    (added.map Component.name).Nodup ∧
    ∀ component ∈ added, component.name ∈ names ∧ before.componentId? component.name = none
  kept : ∀ id, before.isOpen id = true → after.isOpen id = true
  opened : ∀ id, after.isOpen id = true → before.isOpen id = true ∨
    ∃ component, after.component? id = some component ∧ component.name ∈ names

namespace Registers

variable {names : List String} {before after : Store}

theorem refl (names : List String) (store : Store) : store.Registers names store where
  added := ⟨[], (List.append_nil _).symm, List.nodup_nil, nofun⟩
  kept _ := id
  opened _ := .inl

theorem component? (registers : before.Registers names after) {id : ComponentId}
    {component : Component} (known : before.component? id = some component) :
    after.component? id = some component := by
  obtain ⟨added, after, -, -⟩ := registers.added
  rw [component?_eq] at known ⊢
  obtain ⟨inside, -⟩ := List.getElem?_eq_some_iff.mp known
  rw [after, List.getElem?_append_left inside, known]

theorem componentId? (registers : before.Registers names after) {name : String} {id : ComponentId}
    (known : before.componentId? name = some id) : after.componentId? name = some id := by
  obtain ⟨added, after, -, -⟩ := registers.added
  rw [componentId?_eq] at known ⊢
  obtain ⟨index, found, rfl⟩ := Option.map_eq_some_iff.mp known
  rw [after, List.findIdx?_append, found]
  rfl

theorem unknown (registers : before.Registers names after) {name : String}
    (unknown : after.componentId? name = none) : before.componentId? name = none := by
  rw [Option.eq_none_iff_forall_ne_some]
  intro id known
  rw [registers.componentId? known] at unknown
  cases unknown

theorem trans {first second third : Store} (one : first.Registers names second)
    (other : second.Registers names third) : first.Registers names third where
  added := by
    obtain ⟨earlier, middle, distinct, asked⟩ := one.added
    obtain ⟨further, last, distinctLater, askedLater⟩ := other.added
    refine ⟨earlier ++ further, by rw [last, middle, List.append_assoc], ?_, ?_⟩
    · rw [List.map_append, List.nodup_append]
      refine ⟨distinct, distinctLater, ?_⟩
      rintro _ inside _ found rfl
      obtain ⟨component, member, same⟩ := List.mem_map.mp found
      have unknown := (componentId?_eq_none_iff _ _).mp (askedLater component member).2
      rw [same, middle, List.map_append] at unknown
      exact unknown (List.mem_append_right _ inside)
    · intro component member
      rcases List.mem_append.mp member with before | later
      · exact asked component before
      · obtain ⟨inside, unknown⟩ := askedLater component later
        exact ⟨inside, one.unknown unknown⟩
  kept id before := other.kept id (one.kept id before)
  opened id after := by
    rcases other.opened id after with middle | asked
    · rcases one.opened id middle with before | ⟨component, known, inside⟩
      · exact .inl before
      · exact .inr ⟨component, other.component? known, inside⟩
    · exact .inr asked

theorem distinct (registers : before.Registers names after)
    (distinct : (before.components.map Component.name).Nodup) :
    (after.components.map Component.name).Nodup := by
  obtain ⟨added, after, further, asked⟩ := registers.added
  rw [after, List.map_append, List.nodup_append]
  refine ⟨distinct, further, ?_⟩
  rintro _ inside _ found rfl
  obtain ⟨component, member, same⟩ := List.mem_map.mp found
  have unknown := (componentId?_eq_none_iff _ _).mp (asked component member).2
  rw [same] at unknown
  exact unknown inside

end Registers

/-! ### The operations of a store -/

variable {names : List String} {store next : Store} {component : Component} {id : ComponentId}

theorem register_registers (registered : store.register component = .ok (id, next))
    (asked : component.name ∈ names) : store.Registers names next := by
  unfold register at registered
  split at registered
  · cases registered
    exact .refl names _
  · next unknown =>
    split at registered
    · cases registered
    · cases registered
      refine ⟨⟨[component], by simp [components], List.nodup_singleton _, ?_⟩, ?_, ?_⟩
      · intro added member
        rw [List.mem_singleton.mp member]
        exact ⟨asked, unknown⟩
      · intro other before
        rw [isOpen, column?_push]
        exact before
      · intro other after
        rw [isOpen, column?_push] at after
        exact .inl after

theorem components_congr (same : ∀ id, next.component? id = store.component? id) :
    next.components = store.components := by
  apply List.ext_getElem?
  intro index
  have here := same ⟨index⟩
  rw [component?_eq, component?_eq] at here
  exact here

/-- Without further components, only columns of components that were asked for are opened. -/
theorem registers_of_same (components : ∀ id, next.component? id = store.component? id)
    (kept : ∀ id, store.isOpen id = true → next.isOpen id = true)
    (opened : ∀ id, next.isOpen id = true → store.isOpen id = true ∨
      ∃ component, store.component? id = some component ∧ component.name ∈ names) :
    store.Registers names next where
  added := ⟨[], by rw [List.append_nil, components_congr components], List.nodup_nil, nofun⟩
  kept := kept
  opened id after := by
    rw [components]
    exact opened id after

theorem write_registers (store : Store) (entity : Entity) (id : ComponentId)
    (content : Option Value) : store.Registers names (store.write entity id content) := by
  have same (other : ComponentId) :
      (store.write entity id content).isOpen other = store.isOpen other := by
    rw [isOpen, column?_write, Option.isSome_map]
    rfl
  exact registers_of_same (fun other => component?_write store entity id other content)
    (fun other before => (same other).trans before)
    (fun other after => .inl ((same other).symm.trans after))

theorem drop_registers (store : Store) (entity : Entity) :
    store.Registers names (store.drop entity) := by
  have same (id : ComponentId) : (store.drop entity).isOpen id = store.isOpen id := by
    rw [isOpen, column?_drop, Option.isSome_map]
    rfl
  exact registers_of_same (component?_drop store entity) (fun id before => (same id).trans before)
    (fun id after => .inl ((same id).symm.trans after))

theorem openColumn_registers (known : store.component? id = some component)
    (asked : component.name ∈ names) : store.Registers names (store.openColumn id) := by
  refine registers_of_same (component?_openColumn store id) ?_ ?_
  · intro other before
    rw [isOpen, column?_openColumn]
    split
    · next same =>
      subst same
      rw [known]
      rfl
    · exact before
  · intro other after
    rw [isOpen, column?_openColumn] at after
    split at after
    · next same =>
      subst same
      exact .inr ⟨component, known, asked⟩
    · exact .inl after

/-- Whether the value is accepted or refused, the column of its component is opened. -/
theorem add_registers (entity : Entity) (value : Value)
    (asked : ∀ component, store.component? id = some component → component.name ∈ names) :
    store.Registers names (add entity id value store).2 := by
  rw [add_apply]
  split
  · exact .refl names store
  · next component known =>
    have opened := openColumn_registers known (asked component known)
    split
    · exact opened
    · exact opened.trans (write_registers _ entity id (some value))

theorem set_registers (store : Store) (entity : Entity) (id : ComponentId) (value : Value) :
    store.Registers names (store.set entity id value).2 := by
  unfold set
  split
  · exact .refl names store
  · split
    · split
      · exact write_registers store entity id (some value)
      · exact .refl names store
    · exact .refl names store

end Store

/-! ### Behaviors -/

variable {names : List String}

theorem Situation.answer_registers (situation : Situation) (request : Request) :
    situation.view.store.Registers names (situation.answer request).2.view.store := by
  cases request with
  | write entity id value =>
    obtain ⟨⟨store, roster, components⟩, output⟩ := situation
    change store.Registers names (View.set ⟨store, roster, components⟩ entity id value).2.store
    by_cases inside : id ∈ components
    · rw [View.set, if_pos inside]
      exact Store.set_registers store entity id value
    · rw [View.set, if_neg inside]
      exact .refl names store
  | _ => exact .refl names _

theorem Behavior.run_registers {ε α : Type} (behavior : Behavior ε α) (situation : Situation) :
    situation.view.store.Registers names (behavior.run situation).2.view.store := by
  induction behavior generalizing situation with
  | done result => exact .refl names _
  | fail reason => exact .refl names _
  | ask request next ih => exact (situation.answer_registers request).trans (ih _ _)

namespace Blueprint

def entry (owner : String) (components : Registry Component) :
    String × Json → Except Fault (Component × Value)
  | (name, json) =>
    match components.find? name with
    | none => throw (.unregisteredComponent name owner)
    | some component =>
      match Value.decodeAs component.schema json with
      | .error reason => throw (.componentType name reason)
      | .ok value => return (component, value)

theorem ofRecord_eq (owner : String) (components : Registry Component) (record : EntityRecord) :
    Blueprint.ofRecord owner components record = (do
      let values ← record.components.mapM (entry owner components)
      return ⟨record.name, values⟩) := rfl

theorem entry_ok_iff {owner : String} {components : Registry Component} {name : String} {json : Json}
    {component : Component} {value : Value} :
    entry owner components (name, json) = .ok (component, value) ↔
      components.find? name = some component ∧ Value.decodeAs component.schema json = .ok value := by
  rw [entry]
  constructor
  · intro read
    split at read
    · cases read
    · next found =>
      split at read
      · cases read
      · next decoded =>
        cases read
        exact ⟨found, decoded⟩
  · rintro ⟨found, decoded⟩
    simp only [found, decoded]
    rfl

theorem ofRecord_names {owner : String} {components : Registry Component} {record : EntityRecord}
    {blueprint : Blueprint} (decoded : Blueprint.ofRecord owner components record = .ok blueprint) :
    blueprint.values.map (fun entry => entry.1.name) = record.components.map Prod.fst := by
  rw [ofRecord_eq] at decoded
  obtain ⟨values, read, same⟩ := bind_ok decoded
  cases same
  clear decoded
  dsimp only
  generalize record.components = documents at read
  rw [mapM_ok_iff] at read
  induction read with
  | nil => rfl
  | @cons document first _ _ here _ ih =>
    obtain ⟨name, json⟩ := document
    have named : first.1.name = name := Registry.find?_name (entry_ok_iff.mp here).1
    rw [List.map_cons, List.map_cons, ih, named]

end Blueprint

namespace Scene

def Registered (base : Store) (names : List String) (scene : Scene) : Prop :=
  base.Registers names scene.store

variable {base : Store}

theorem Registered.then {scene : Scene} {store : Store} (before : scene.Registered base names)
    (registers : scene.store.Registers names store) : base.Registers names store :=
  before.trans registers

theorem create_registers : create.Keeps (Registered base names) := by
  intro scene before
  rw [create_apply]
  split <;> exact before

theorem createNamed_registers (name : String) :
    (createNamed name).Keeps (Registered base names) := by
  intro scene before
  have created := create_registers scene before
  rw [createNamed_apply]
  split
  · exact before
  · split
    · next ran =>
      rw [ran] at created
      exact created
    · next ran =>
      rw [ran] at created
      exact created

theorem destroy_registers (entity : Entity) : (destroy entity).Keeps (Registered base names) := by
  intro scene before
  rw [destroy_apply]
  split
  · unfold Registered
    rw [unname_store]
    exact before.then (Store.drop_registers scene.store entity)
  · exact before

theorem register_registers {component : Component} (asked : component.name ∈ names) :
    (register component).Keeps (Registered base names) := by
  intro scene before
  rw [register_apply]
  split
  · next registered => exact before.then (Store.register_registers registered asked)
  · exact before

theorem setSignature_registers (entity : Entity) (signature : Signature) :
    (setSignature entity signature).Keeps (Registered base names) := by
  intro scene before
  rw [setSignature_apply]
  split <;> exact before

theorem add_registers (entity : Entity) (value : Value) {id : ComponentId} {scene : Scene}
    (before : scene.Registered base names)
    (asked : ∀ component, scene.store.component? id = some component → component.name ∈ names) :
    (add entity id value scene).2.Registered base names := by
  rw [add_apply]
  split
  · exact before
  · have added := before.then (Store.add_registers entity value asked)
    split
    · next ran =>
      rw [ran] at added
      exact added
    · next ran =>
      rw [ran] at added
      exact setSignature_registers entity _ _ added

theorem remove_registers (entity : Entity) (id : ComponentId) :
    (remove entity id).Keeps (Registered base names) := by
  intro scene before
  rw [remove_apply]
  split
  · exact before
  · split
    · exact before
    · next signature _ _ previous store removed =>
      obtain ⟨-, -, rest⟩ := bind_ok removed
      cases rest
      have written := before.then (Store.write_registers scene.store entity id none)
      have signed := setSignature_registers entity (signature.erase id)
        { scene with store := scene.store.write entity id none } written
      split
      · next ran =>
        rw [ran] at signed
        exact signed
      · next ran =>
        rw [ran] at signed
        exact signed

theorem insert_registers (entity : Entity) {component : Component} (value : Value)
    (asked : component.name ∈ names) :
    (insert entity component value).Keeps (Registered base names) := by
  intro scene before
  have registered := register_registers asked scene before
  rw [insert_apply]
  split
  · next ran =>
    rw [ran] at registered
    exact registered
  · next id later ran =>
    rw [ran] at registered
    have named (found : Component) (known : later.store.component? id = some found) :
        found.name ∈ names := by
      obtain ⟨store, succeeded, rfl⟩ := register_ok ran
      obtain ⟨other, same, named⟩ :=
        Store.exists_component?_of_componentId? (Store.componentId?_registered succeeded)
      rw [show store.component? id = some found from known] at same
      cases same
      exact named ▸ asked
    have added := add_registers entity value registered named
    split
    · next final =>
      rw [final] at added
      exact added
    · next final =>
      rw [final] at added
      exact added

theorem insertAll_registers (entity : Entity) {values : List (Component × Value)}
    (asked : ∀ entry ∈ values, entry.1.name ∈ names) :
    (insertAll entity values).Keeps (Registered base names) := by
  induction values with
  | nil => exact .pure ()
  | cons first rest ih =>
    exact .bind (insert_registers entity first.2 (asked first List.mem_cons_self))
      (fun _ => ih (fun entry member => asked entry (List.mem_cons_of_mem first member)))

theorem registerFor_registers (system : String) (catalog : Catalog) {component : String}
    (asked : component ∈ names) :
    (registerFor system catalog component).Keeps (Registered base names) := by
  unfold registerFor
  split
  · exact .throw _
  · next found known =>
    have named : found.name = component := Registry.find?_name known
    exact register_registers (named ▸ asked)

theorem enroll_registers {name : String} {catalog : Catalog}
    (asked : ∀ system, catalog.systems.find? name = some system →
      ∀ component ∈ system.allComponents, component ∈ names) :
    (enroll name catalog).Keeps (Registered base names) := by
  intro scene before
  rw [enroll_apply]
  split
  · exact before
  · next system found =>
    have all : (system.allComponents.mapM (registerFor name catalog)).Keeps
        (Registered base names) := by
      apply Operation.Keeps.mapM
      intro component member
      exact registerFor_registers name catalog (asked system found component member)
    split
    · exact before
    · have registered := all scene before
      split
      · next ran =>
        rw [ran] at registered
        exact registered
      · next ran =>
        rw [ran] at registered
        exact registered

theorem createAs_registers : (name : Option String) → (createAs name).Keeps (Registered base names)
  | some name => createNamed_registers name
  | none => create_registers

theorem createAll_registers {blueprints : List Blueprint} {scene : Scene}
    (asked : ∀ blueprint ∈ blueprints, ∀ entry ∈ blueprint.values, entry.1.name ∈ names)
    (before : scene.Registered base names) :
    (createAll blueprints scene).2.2.Registered base names := by
  induction blueprints generalizing scene with
  | nil => exact before
  | cons blueprint rest ih =>
    have created := createAs_registers blueprint.name scene before
    unfold createAll
    split
    · next ran =>
      rw [ran] at created
      exact created
    · next entity middle ran =>
      rw [ran] at created
      have filled := insertAll_registers entity (asked blueprint List.mem_cons_self) middle created
      split
      · next ran =>
        rw [ran] at filled
        exact filled
      · next ran =>
        rw [ran] at filled
        exact ih (fun other member => asked other (List.mem_cons_of_mem blueprint member)) filled

theorem destroyAll_registers (created : List Entity) {scene : Scene}
    (before : scene.Registered base names) : (destroyAll created scene).Registered base names := by
  induction created generalizing scene with
  | nil => exact before
  | cons entity rest ih => exact ih (destroy_registers entity scene before)

theorem load_registers {snapshot : Snapshot} (components : Registry Component)
    (asked : ∀ record ∈ snapshot.entities, ∀ entry ∈ record.components, entry.1 ∈ names) :
    (load snapshot components).Keeps (Registered base names) := by
  intro scene before
  unfold load
  split
  · exact before
  · next blueprints decoded =>
    have inside (blueprint : Blueprint) (member : blueprint ∈ blueprints)
        (entry : Component × Value) (found : entry ∈ blueprint.values) : entry.1.name ∈ names := by
      obtain ⟨record, known, read⟩ := (mem_mapM_iff decoded).mp member
      have named : entry.1.name ∈ blueprint.values.map (fun entry => entry.1.name) :=
        List.mem_map.mpr ⟨entry, found, rfl⟩
      rw [Blueprint.ofRecord_names read] at named
      obtain ⟨document, listed, same⟩ := List.mem_map.mp named
      exact same ▸ asked record known document listed
    have created := createAll_registers inside before
    split
    · next ran =>
      rw [ran] at created
      exact created
    · next ran =>
      rw [ran] at created
      exact destroyAll_registers _ created

theorem invoke_registers (scene : Scene) (enrolled : Enrolled) (event : Event) (store : Store)
    (output : Array Output) :
    store.Registers names (scene.invoke enrolled event store output).2.1 := by
  unfold invoke
  split
  · exact .refl names store
  · next roles bound =>
    have ran : store.Registers names ((enrolled.system.body ⟨event, roles⟩).run
        ⟨⟨store, scene.roster, enrolled.components⟩, output⟩).2.view.store :=
      Behavior.run_registers _ ⟨⟨store, scene.roster, enrolled.components⟩, output⟩
    split
    · next outcome =>
      rw [outcome] at ran
      exact ran
    · next outcome =>
      rw [outcome] at ran
      exact ran

theorem Meets.registers {scene : Scene} {store : Store} (met : scene.Meets store) :
    scene.store.Registers names store := by
  induction met with
  | start => exact .refl names _
  | invoked _ _ event output ih => exact ih.trans (scene.invoke_registers _ event _ output)

theorem dispatch_registers (scene : Scene) (events : Registry Contract) (event : Event) :
    scene.store.Registers names (scene.dispatch events event).scene.store := by
  unfold dispatch
  split
  · exact .refl names _
  · exact (drain_meets events _ _ .start).registers

end Scene

/-! ### Commands -/

def Command.asks : Command → Scene → List String
  | register component, _ => [component.name]
  | add _ id _, scene => (scene.store.component? id).toList.map Component.name
  | insert _ component _, _ => [component.name]
  | enroll name catalog, _ => (catalog.systems.find? name).toList.flatMap System.allComponents
  | load snapshot _, _ => snapshot.entities.flatMap (fun record => record.components.map Prod.fst)
  | _, _ => []

namespace Scene

/-- Refused or not, a command registers no components but those that it names. -/
theorem perform_registers (command : Command) (scene : Scene) :
    scene.store.Registers (command.asks scene) (command.perform scene).2.store := by
  have before : scene.Registered scene.store (command.asks scene) := .refl _ _
  cases command with
  | configure limits => exact before
  | create => exact create_registers.refusal? before
  | createNamed name => exact (createNamed_registers name).refusal? before
  | destroy entity => exact (destroy_registers entity).refusal? before
  | register component => exact (register_registers (List.mem_singleton_self _)).refusal? before
  | add entity id value =>
    rw [Command.perform, Operation.refusal?_snd]
    apply add_registers entity value before
    intro component known
    simp [Command.asks, known]
  | insert entity component value =>
    exact (insert_registers entity value (List.mem_singleton_self _)).refusal? before
  | remove entity id => exact (remove_registers entity id).refusal? before
  | enroll name catalog =>
    apply Operation.Keeps.refusal? (enroll_registers _) before
    intro system found component member
    simpa [Command.asks, found] using member
  | load snapshot components =>
    apply Operation.Keeps.refusal? (load_registers components _) before
    intro record known entry member
    exact List.mem_flatMap.mpr ⟨record, known, List.mem_map_of_mem member⟩
  | dispatch events event =>
    rw [Command.perform, Outcome.refusal?_snd]
    exact scene.dispatch_registers events event

end Scene

def Store.Uses (store : Store) (name : String) : Prop :=
  ∃ id, store.componentId? name = some id ∧ store.isOpen id = true

structure Store.SameKinds (before after : Store) : Prop where
  ids : after.ids = before.ids
  componentId? : ∀ name, after.componentId? name = before.componentId? name
  isOpen : ∀ id, after.isOpen id = before.isOpen id

theorem Store.componentId?_name {store : Store}
    (distinct : (store.components.map Component.name).Nodup) {id : ComponentId}
    {component : Component} (known : store.component? id = some component) :
    store.componentId? component.name = some id := by
  rw [component?_eq] at known
  obtain ⟨inside, same⟩ := List.getElem?_eq_some_iff.mp known
  rw [componentId?_eq, Option.map_eq_some_iff]
  refine ⟨id.index, ?_, rfl⟩
  rw [List.findIdx?_eq_some_iff_getElem]
  refine ⟨inside, by rw [same]; exact beq_self_eq_true _, ?_⟩
  intro index less found
  have outside : index < (store.components.map Component.name).length := by
    rw [List.length_map]
    omega
  have named : (store.components.map Component.name)[index]? =
      (store.components.map Component.name)[id.index]? := by
    rw [List.getElem?_map, List.getElem?_map, List.getElem?_eq_getElem inside, same,
      List.getElem?_eq_getElem (Nat.lt_trans less inside), Option.map_some, Option.map_some,
      beq_iff_eq.mp found]
  exact Nat.ne_of_lt less ((List.getElem?_inj outside distinct).mp named)

theorem Store.Registers.sameKinds {names : List String} {before after : Store}
    (registers : before.Registers names after)
    (distinct : (before.components.map Component.name).Nodup)
    (used : ∀ name ∈ names, before.Uses name) : before.SameKinds after := by
  obtain ⟨added, same, -, asked⟩ := registers.added
  have none : added = [] := by
    rw [List.eq_nil_iff_forall_not_mem]
    intro component member
    obtain ⟨inside, unknown⟩ := asked component member
    obtain ⟨id, known, -⟩ := used component.name inside
    rw [known] at unknown
    cases unknown
  rw [none, List.append_nil] at same
  refine ⟨?_, ?_, ?_⟩
  · rw [Store.ids, Store.ids, ← length_components, ← length_components, same]
  · intro name
    rw [componentId?_eq, componentId?_eq, same]
  · intro id
    rw [Bool.eq_iff_iff]
    refine ⟨fun opened => ?_, registers.kept id⟩
    rcases registers.opened id opened with open_ | ⟨component, known, inside⟩
    · exact open_
    · obtain ⟨kind, named, opened⟩ := used component.name inside
      rw [component?_eq, same, ← component?_eq] at known
      rw [componentId?_name distinct known] at named
      cases named
      exact opened

namespace Scene

theorem after_distinct (name : String) (limits : Limits) (commands : List Command) :
    (((empty name limits).after commands).store.components.map Component.name).Nodup := by
  let holds (scene : Scene) : Prop := (scene.store.components.map Component.name).Nodup
  have start : holds (empty name limits) := List.nodup_nil
  exact after_induction start
    (fun scene command before => (scene.perform_registers command).distinct before) commands

/-- Whatever a host asked of a new scene before, a command that is refused then leaves behind at most
kinds and open columns of components that it names, and no value in them. If all of those are in use
already, the kinds are as they were. -/
theorem refused_registers (name : String) (commands : List Command) (command : Command) (fault : Fault)
    (refused : (command.perform ((empty name .standard).after commands)).1 = some fault) :
    let before := (empty name .standard).after commands
    let after := (command.perform before).2
    before.store.Registers (command.asks before) after.store ∧
      (∀ entity id, after.store.get? entity id = before.store.get? entity id) ∧
      ((∀ component ∈ command.asks before, before.store.Uses component) →
        before.store.SameKinds after.store) := by
  intro before after
  have registers := before.perform_registers command
  have agrees := refused_agreesOutside command (after_wellFormed name .standard commands) refused
  exact ⟨registers, fun entity => agrees.get? entity List.not_mem_nil,
    registers.sameKinds (after_distinct name .standard commands)⟩

def lamp : Component := .of "Lamp" (.basic .boolean)

/-- No entity is there to have a lamp, but lamps are known from then on. -/
theorem insert_dead_registers :
    let before := empty "stage" .standard
    let insert := Command.insert ⟨0⟩ lamp (.boolean true)
    let after := (insert.perform before).2
    (insert.perform before).1 = some (.entityNotAlive ⟨0⟩) ∧
      before.store.Registers ["Lamp"] after.store ∧
      (∀ entity id, after.store.get? entity id = before.store.get? entity id) ∧
      ((∀ component ∈ ["Lamp"], before.store.Uses component) →
        before.store.SameKinds after.store) :=
  have refused : ((Command.insert ⟨0⟩ lamp (.boolean true)).perform (empty "stage" .standard)).1 =
      some (.entityNotAlive ⟨0⟩) := by decide +kernel
  ⟨refused, refused_registers "stage" [] _ _ refused⟩

def switch (number : Nat) : Component := .of ("Switch " ++ toString number) (.basic .boolean)

/-- A value for an entity that is not there, a value of another schema, a system with two new components
where one more would fit, and a snapshot with a name twice: all four are refused, and not one of them
leaves the kinds as they were. -/
theorem refusals_register :
    let bare := (empty "stage" .standard).after [.create]
    let lit := (empty "stage" .standard).after [.create, .register lamp]
    let crowded := (empty "stage" .standard).after
      ((List.range 31).map (fun number => .register (switch number)))
    let insert := Command.insert ⟨1⟩ lamp (.boolean true)
    let add := Command.add ⟨0⟩ ⟨0⟩ (.text "on")
    let dim : System :=
      ⟨"Dim", [⟨"room", [(switch 31).name, (switch 32).name]⟩], none, fun _ => .done []⟩
    let enroll := Command.enroll "Dim" ⟨⟨[switch 31, switch 32]⟩, .empty, ⟨[dim]⟩⟩
    let load := Command.load
      ⟨"rooms", [⟨some "hall", [("Lamp", .boolean true)]⟩, ⟨some "hall", []⟩]⟩ ⟨[lamp]⟩
    ((insert.perform bare).1 = some (.entityNotAlive ⟨1⟩) ∧
      ¬bare.store.SameKinds (insert.perform bare).2.store) ∧
    ((add.perform lit).1 = some (.componentType "Lamp"
        (.mismatch ⟨.basic .boolean, .basic .text⟩)) ∧
      ¬lit.store.SameKinds (add.perform lit).2.store) ∧
    ((enroll.perform crowded).1 = some (.tooManyComponents 32) ∧
      ¬crowded.store.SameKinds (enroll.perform crowded).2.store) ∧
    ((load.perform bare).1 = some (.alreadyRegistered .entity "hall") ∧
      ¬bare.store.SameKinds (load.perform bare).2.store) := by
  refine ⟨⟨?_, fun same => ?_⟩, ⟨?_, fun same => ?_⟩, ⟨?_, fun same => ?_⟩, ⟨?_, fun same => ?_⟩⟩
  · decide +kernel
  · exact absurd same.ids (by decide +kernel)
  · decide +kernel
  · exact absurd (same.isOpen ⟨0⟩) (by decide +kernel)
  · decide +kernel
  · exact absurd same.ids (by decide +kernel)
  · decide +kernel
  · exact absurd same.ids (by decide +kernel)

end Scene

end Stagecraft
