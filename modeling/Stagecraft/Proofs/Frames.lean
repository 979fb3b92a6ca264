import Stagecraft.Proofs.Registration

/-!
Frames: what a command leaves alone. All commands but two touch nothing besides the values, the signatures
and the names of some entities. One of the two sets the limits. The other brings in a system, behind all
others and under a name of its own, with the kinds of its components in their order.
-/

namespace Stagecraft.Scene

variable {scene later : Scene}

/-- A snapshot that is loaded touches only the entities that it brings to life. -/
theorem agreesOutside_load {snapshot : Snapshot} {components : Registry Component} {created : List Entity}
    (wellFormed : scene.WellFormed)
    (loaded : load snapshot components scene = (.ok created, later)) :
    scene.AgreesOutside created later := by
  unfold load at loaded
  split at loaded
  · cases loaded
  · next blueprints _ =>
    split at loaded
    · next ran =>
      cases loaded
      exact (createAll_agreesOutside blueprints wellFormed ran).1
    · cases loaded

theorem agreesOutside_changes {entity : Entity} {signature : Option Signature} {roster : Roster}
    (changes : scene.roster.Changes entity signature roster) {store : Store}
    (get? : ∀ other id, entity ≠ other → store.get? other id = scene.store.get? other id)
    (component? : ∀ id, store.component? id = scene.store.component? id) :
    scene.AgreesOutside [entity] { scene with roster := roster, store := store } := by
  refine ⟨changes.capacity, ?_, ?_, ?_, fun _ _ => rfl, rfl, rfl⟩
  · intro other outside
    rw [changes.signature?, if_neg (Ne.symm (List.ne_of_not_mem_cons outside))]
  · exact fun other outside id => get? other id (Ne.symm (List.ne_of_not_mem_cons outside))
  · exact fun id _ known => (component? id).trans known

/-- A dispatch touches only entities that are alive. -/
theorem agreesOutside_dispatch (events : Registry Contract) (event : Event)
    (wellFormed : scene.WellFormed) :
    scene.AgreesOutside scene.roster.entities (scene.dispatch events event).scene := by
  have after := dispatch_wellFormed events event wellFormed
  obtain ⟨store, same, rewrites, -⟩ := dispatch_rewrites events event wellFormed.store
  rw [same] at after ⊢
  refine ⟨rfl, fun _ _ => rfl, ?_, fun id _ known => (rewrites.component? id).trans known,
    fun _ _ => rfl, rfl, rfl⟩
  intro entity outside id
  rw [Roster.mem_entities] at outside
  have dead := Bool.eq_false_iff.mpr outside
  rw [wellFormed.valueless dead, after.valueless dead]

/-- Every command is one of the two, or has a frame. -/
theorem perform_agreesOutside (command : Command) (wellFormed : scene.WellFormed) :
    (∃ touched, scene.AgreesOutside touched (command.perform scene).2) ∨
      (∃ limits, command = .configure limits) ∨ ∃ name catalog, command = .enroll name catalog := by
  cases answer : (command.perform scene).1 with
  | some fault => exact .inl ⟨[], refused_agreesOutside command wellFormed answer⟩
  | none =>
    cases command with
    | configure limits => exact .inr (.inl ⟨limits, rfl⟩)
    | enroll name catalog => exact .inr (.inr ⟨name, catalog, rfl⟩)
    | create =>
      obtain ⟨entity, ran⟩ := Operation.exists_of_not_refusal? answer
      exact .inl ⟨[entity], agreesOutside_create wellFormed ran⟩
    | createNamed name =>
      obtain ⟨entity, ran⟩ := Operation.exists_of_not_refusal? answer
      exact .inl ⟨[entity], agreesOutside_createNamed wellFormed ran⟩
    | destroy entity =>
      rw [Command.perform, Operation.refusal?_snd]
      exact .inl ⟨[entity], (destroy_agreesOutside entity wellFormed).1⟩
    | register component =>
      obtain ⟨id, ran⟩ := Operation.exists_of_not_refusal? answer
      obtain ⟨store, registered, after⟩ := register_ok ran
      rw [Command.perform, after]
      exact .inl ⟨[], agreesOutside_grow [] (Store.register_grows registered)⟩
    | add entity id value =>
      obtain ⟨_, ran⟩ := Operation.exists_of_not_refusal? answer
      obtain ⟨_, _, roster, -, -, -, changes, after⟩ := add_ok wellFormed.roster ran
      rw [Command.perform, after]
      refine .inl ⟨[entity], agreesOutside_changes changes ?_ ?_⟩
      · intro other kind apart
        rw [Store.get?_write, if_neg (fun same => apart same.1), Store.get?_openColumn]
      · intro kind
        rw [Store.component?_write, Store.component?_openColumn]
    | insert entity component value =>
      rw [Command.perform, Operation.refusal?_snd]
      exact .inl ⟨[entity], agreesOutside_insert entity component value wellFormed⟩
    | remove entity id =>
      obtain ⟨previous, ran⟩ := Operation.exists_of_not_refusal? answer
      obtain ⟨_, roster, -, changes, after⟩ := remove_ok wellFormed.roster ran
      rw [Command.perform, after]
      refine .inl ⟨[entity], agreesOutside_changes changes ?_ ?_⟩
      · intro other kind apart
        rw [Store.get?_write, if_neg (fun same => apart same.1)]
      · exact fun kind => Store.component?_write _ _ _ _ _
    | load snapshot components =>
      obtain ⟨created, ran⟩ := Operation.exists_of_not_refusal? answer
      exact .inl ⟨created, agreesOutside_load wellFormed ran⟩
    | dispatch events event =>
      rw [Command.perform, Outcome.refusal?_snd]
      exact .inl ⟨_, agreesOutside_dispatch events event wellFormed⟩

theorem perform_capacity (command : Command) (wellFormed : scene.WellFormed) :
    (command.perform scene).2.roster.capacity = scene.roster.capacity := by
  rcases perform_agreesOutside command wellFormed with
    ⟨touched, agrees⟩ | ⟨limits, rfl⟩ | ⟨name, catalog, rfl⟩
  · exact agrees.capacity
  · rfl
  · cases answer : ((Command.enroll name catalog).perform scene).1 with
    | some fault => exact (refused_agreesOutside _ wellFormed answer).capacity
    | none =>
      obtain ⟨_, ran⟩ := Operation.exists_of_not_refusal? answer
      obtain ⟨_, _, _, -, -, -, -, after⟩ := enroll_ok ran
      exact congrArg (fun scene => scene.roster.capacity) after

theorem after_capacity (commands : List Command) {scene : Scene} (wellFormed : scene.WellFormed) :
    (scene.after commands).roster.capacity = scene.roster.capacity := by
  induction commands generalizing scene with
  | nil => rfl
  | cons command rest ih =>
    exact (ih (perform_wellFormed command wellFormed)).trans (perform_capacity command wellFormed)

/-! ### Systems -/

theorem hasSystem_eq_false_iff {name : String} : scene.hasSystem name = false ↔
    name ∉ scene.systems.map (fun enrolled => enrolled.system.name) := by
  simp [hasSystem]

theorem perform_systems (command : Command) (wellFormed : scene.WellFormed) :
    (command.perform scene).2.systems = scene.systems ∨
      ∃ system ids, (command.perform scene).2.systems = scene.systems ++ [⟨system, ids⟩] ∧
        scene.hasSystem system.name = false ∧
        (command.perform scene).2.store.Stand system.allComponents ids := by
  rcases perform_agreesOutside command wellFormed with
    ⟨touched, agrees⟩ | ⟨limits, rfl⟩ | ⟨name, catalog, rfl⟩
  · exact .inl agrees.systems
  · exact .inl rfl
  · cases answer : ((Command.enroll name catalog).perform scene).1 with
    | some fault => exact .inl (refused_agreesOutside _ wellFormed answer).systems
    | none =>
      obtain ⟨_, ran⟩ := Operation.exists_of_not_refusal? answer
      obtain ⟨system, ids, store, found, fresh, -, stand, after⟩ := enroll_ok ran
      rw [← Registry.find?_name found] at fresh
      rw [Command.perform, after]
      exact .inr ⟨system, ids, rfl, fresh, stand⟩

structure Enlisted (scene : Scene) : Prop where
  distinct : (scene.systems.map (fun enrolled => enrolled.system.name)).Nodup
  stand : ∀ enrolled ∈ scene.systems,
    scene.store.Stand enrolled.system.allComponents enrolled.components

theorem perform_enlisted (command : Command) (wellFormed : scene.WellFormed)
    (enlisted : scene.Enlisted) : (command.perform scene).2.Enlisted := by
  have kept : ∀ enrolled ∈ scene.systems,
      (command.perform scene).2.store.Stand enrolled.system.allComponents enrolled.components :=
    fun enrolled member => (enlisted.stand enrolled member).mono
      (fun name id => (scene.perform_registers command).componentId?)
  rcases perform_systems command wellFormed with same | ⟨system, ids, same, fresh, stand⟩
  · exact ⟨same ▸ enlisted.distinct, same ▸ kept⟩
  · refine ⟨?_, ?_⟩
    · rw [same, List.map_append, List.nodup_append]
      refine ⟨enlisted.distinct, List.nodup_singleton _, ?_⟩
      rintro name before _ last rfl
      rw [List.map_singleton, List.mem_singleton] at last
      exact hasSystem_eq_false_iff.mp fresh (last ▸ before)
    · rw [same]
      intro enrolled member
      rcases List.mem_append.mp member with before | last
      · exact kept enrolled before
      · rw [List.mem_singleton.mp last]
        exact stand

theorem after_enlisted (name : String) (limits : Limits) (commands : List Command) :
    ((empty name limits).after commands).Enlisted := by
  let holds (scene : Scene) : Prop := scene.WellFormed ∧ scene.Enlisted
  have start : holds (empty name limits) := ⟨empty_wellFormed name limits, List.nodup_nil, nofun⟩
  exact (after_induction start (fun scene command before =>
    ⟨perform_wellFormed command before.1, perform_enlisted command before.1 before.2⟩) commands).2

end Stagecraft.Scene
