import Stagecraft.Proofs.Consistency

/-!
Rollback: a snapshot that cannot be loaded leaves a scene in which nobody has noticed. Creation touches
only the entities that it brings to life, and none of those was alive before; once they are ended, there
is nothing left in which the scene could differ. Their numbers, which were fresh, may now be free.
-/

namespace Stagecraft.Scene

/-- The second scene differs from the first in what some entities have, and in further components. -/
structure AgreesOutside (touched : List Entity) (before after : Scene) : Prop where
  capacity : after.roster.capacity = before.roster.capacity
  signature? : ∀ entity ∉ touched, after.roster.signature? entity = before.roster.signature? entity
  get? : ∀ entity ∉ touched, ∀ id, after.store.get? entity id = before.store.get? entity id
  component? : ∀ id component, before.store.component? id = some component →
    after.store.component? id = some component
  givenName? : ∀ entity ∉ touched, after.givenName? entity = before.givenName? entity
  systems : after.systems = before.systems
  limits : after.limits = before.limits

namespace AgreesOutside

theorem refl (touched : List Entity) (scene : Scene) : scene.AgreesOutside touched scene :=
  ⟨rfl, fun _ _ => rfl, fun _ _ _ => rfl, fun _ _ => id, fun _ _ => rfl, rfl, rfl⟩

theorem trans {touched : List Entity} {first second third : Scene}
    (one : first.AgreesOutside touched second) (other : second.AgreesOutside touched third) :
    first.AgreesOutside touched third where
  capacity := other.capacity.trans one.capacity
  signature? entity outside := (other.signature? entity outside).trans (one.signature? entity outside)
  get? entity outside id := (other.get? entity outside id).trans (one.get? entity outside id)
  component? id component known := other.component? id component (one.component? id component known)
  givenName? entity outside := (other.givenName? entity outside).trans (one.givenName? entity outside)
  systems := other.systems.trans one.systems
  limits := other.limits.trans one.limits

theorem mono {touched more : List Entity} {before after : Scene}
    (agrees : before.AgreesOutside touched after) (subset : touched ⊆ more) :
    before.AgreesOutside more after where
  capacity := agrees.capacity
  signature? entity outside := agrees.signature? entity (fun inside => outside (subset inside))
  get? entity outside := agrees.get? entity (fun inside => outside (subset inside))
  component? := agrees.component?
  givenName? entity outside := agrees.givenName? entity (fun inside => outside (subset inside))
  systems := agrees.systems
  limits := agrees.limits

theorem isAlive {touched : List Entity} {before after : Scene}
    (agrees : before.AgreesOutside touched after) {entity : Entity} (outside : entity ∉ touched) :
    after.roster.isAlive entity = before.roster.isAlive entity :=
  congrArg Option.isSome (agrees.signature? entity outside)

end AgreesOutside

variable {scene later : Scene}

theorem agreesOutside_grow (touched : List Entity) {store : Store} (grows : scene.store.Grows store) :
    scene.AgreesOutside touched { scene with store := store } :=
  ⟨rfl, fun _ _ => rfl, fun entity _ => grows.get? entity, grows.component?, fun _ _ => rfl, rfl, rfl⟩

theorem agreesOutside_create {entity : Entity} (wellFormed : scene.WellFormed)
    (created : create scene = (.ok entity, later)) : scene.AgreesOutside [entity] later := by
  obtain ⟨roster, creates, rfl⟩ := create_ok wellFormed.roster created
  refine ⟨creates.changes.capacity, ?_, fun _ _ _ => rfl, fun _ _ => id, fun _ _ => rfl, rfl, rfl⟩
  intro other outside
  rw [creates.changes.signature?, if_neg (Ne.symm (List.ne_of_not_mem_cons outside))]

theorem agreesOutside_createNamed {name : String} {entity : Entity} (wellFormed : scene.WellFormed)
    (created : createNamed name scene = (.ok entity, later)) :
    scene.AgreesOutside [entity] later := by
  obtain ⟨-, roster, creates, rfl⟩ := createNamed_ok wellFormed.roster created
  refine ⟨creates.changes.capacity, ?_, fun _ _ _ => rfl, fun _ _ => id, ?_, rfl, rfl⟩
  · intro other outside
    rw [creates.changes.signature?, if_neg (Ne.symm (List.ne_of_not_mem_cons outside))]
  · intro other outside
    have different : (other == entity) = false :=
      beq_eq_false_iff_ne.mpr (List.ne_of_not_mem_cons outside)
    simp only [Scene.givenName?, List.lookup_cons, different]

/-- Whether a value is accepted or refused, only the entity that it was meant for is touched. -/
theorem agreesOutside_insert (entity : Entity) (component : Component) (value : Value)
    (wellFormed : scene.WellFormed) :
    scene.AgreesOutside [entity] (insert entity component value scene).2 := by
  rcases ran : insert entity component value scene with ⟨fault | id, final⟩
  · obtain ⟨store, grows, rfl⟩ := insert_refused wellFormed.roster ran
    exact agreesOutside_grow [entity] grows
  · obtain ⟨middle, registered, added⟩ := insert_ok ran
    obtain ⟨opened, succeeded, rfl⟩ := register_ok registered
    have formed : ({ scene with store := opened } : Scene).roster.WellFormed := wellFormed.roster
    obtain ⟨signature, found, roster, -, -, -, changes, rfl⟩ := add_ok formed added
    apply (agreesOutside_grow [entity] (Store.register_grows succeeded)).trans
    refine ⟨changes.capacity, ?_, ?_, ?_, fun _ _ => rfl, rfl, rfl⟩
    · intro other outside
      rw [changes.signature?, if_neg (Ne.symm (List.ne_of_not_mem_cons outside))]
    · intro other outside kind
      rw [Store.get?_write, if_neg (fun same => List.ne_of_not_mem_cons outside same.1.symm),
        Store.get?_openColumn]
    · intro kind kept known
      rw [Store.component?_write, Store.component?_openColumn]
      exact known

theorem agreesOutside_insertAll (entity : Entity) (values : List (Component × Value))
    {scene : Scene} (wellFormed : scene.WellFormed) :
    scene.AgreesOutside [entity] (insertAll entity values scene).2 := by
  induction values generalizing scene with
  | nil => exact .refl [entity] scene
  | cons first rest ih =>
    obtain ⟨component, value⟩ := first
    have inserted := agreesOutside_insert entity component value wellFormed
    have formed := insert_keeps entity component value scene wellFormed
    unfold insertAll
    rw [Operation.bind_apply]
    split
    · next ran =>
      rw [ran] at inserted formed
      exact inserted.trans (ih formed)
    · next ran =>
      rw [ran] at inserted
      exact inserted

theorem createAs_dead {name : Option String} {entity : Entity} (wellFormed : scene.WellFormed)
    (created : createAs name scene = (.ok entity, later)) : scene.roster.isAlive entity = false := by
  cases name with
  | none =>
    obtain ⟨roster, creates, rfl⟩ := create_ok wellFormed.roster created
    rw [Roster.isAlive, creates.dead]
    rfl
  | some name =>
    obtain ⟨-, roster, creates, rfl⟩ := createNamed_ok wellFormed.roster created
    rw [Roster.isAlive, creates.dead]
    rfl

theorem agreesOutside_createAs {name : Option String} {entity : Entity}
    (wellFormed : scene.WellFormed) (created : createAs name scene = (.ok entity, later)) :
    scene.AgreesOutside [entity] later := by
  cases name with
  | none => exact agreesOutside_create wellFormed created
  | some name => exact agreesOutside_createNamed wellFormed created

theorem createAs_refused {name : Option String} {fault : Fault}
    (refused : createAs name scene = (.error fault, later)) : later = scene := by
  cases name with
  | none => exact create_refused refused
  | some name => exact createNamed_refused refused

/-- Wherever creation for a snapshot stops, it touched only entities that come back to be ended, and
none of them was alive before. -/
theorem createAll_agreesOutside (blueprints : List Blueprint) {scene later : Scene}
    {failed : Option Fault} {created : List Entity} (wellFormed : scene.WellFormed)
    (ran : createAll blueprints scene = (failed, created, later)) :
    scene.AgreesOutside created later ∧ ∀ entity ∈ created, scene.roster.isAlive entity = false := by
  induction blueprints generalizing scene failed created with
  | nil =>
    cases ran
    exact ⟨.refl [] _, fun _ member => nomatch member⟩
  | cons blueprint rest ih =>
    have creation := createAs_keeps blueprint.name scene wellFormed
    unfold createAll at ran
    split at ran
    · next refused =>
      cases ran
      rw [createAs_refused refused]
      exact ⟨.refl [] _, fun _ member => nomatch member⟩
    · next entity middle succeeded =>
      rw [succeeded] at creation
      -- What the first blueprint touches was dead before, and is what the others leave alone.
      have dead := createAs_dead wellFormed succeeded
      have first := agreesOutside_createAs wellFormed succeeded
      have second := agreesOutside_insertAll entity blueprint.values creation
      split at ran
      · next filled =>
        rw [filled] at second
        cases ran
        refine ⟨first.trans second, ?_⟩
        intro other member
        rw [List.mem_singleton.mp member]
        exact dead
      · next final filled =>
        rw [filled] at second
        have formed : final.WellFormed := by
          have insertion := insertAll_keeps entity blueprint.values middle creation
          rw [filled] at insertion
          exact insertion
        rcases others : createAll rest final with ⟨failed, created, last⟩
        rw [others] at ran
        cases ran
        obtain ⟨third, deadOthers⟩ := ih formed others
        have one := (first.trans second).mono (List.cons_subset_cons entity created.nil_subset)
        have other := third.mono (List.subset_cons_self entity created)
        refine ⟨one.trans other, ?_⟩
        intro member inside
        by_cases same : member = entity
        · rw [same]
          exact dead
        · rcases List.mem_cons.mp inside with equal | behind
          · exact absurd equal same
          · rw [← (first.trans second).isAlive (List.mem_singleton.not.mpr same)]
            exact deadOthers member behind

theorem destroy_agreesOutside (entity : Entity) (wellFormed : scene.WellFormed) :
    scene.AgreesOutside [entity] (destroy entity scene).2 ∧
      (destroy entity scene).2.roster.isAlive entity = false := by
  rcases ran : destroy entity scene with ⟨fault | result, final⟩
  · rw [destroy_refused ran]
    refine ⟨.refl [entity] scene, Bool.eq_false_iff.mpr ?_⟩
    intro alive
    rw [destroy_apply] at ran
    split at ran
    · cases ran
    · next stopped =>
      have refused := Roster.map_destroy scene.roster entity
      rw [stopped, (Roster.checkAlive_ok_iff wellFormed.roster).mpr alive] at refused
      cases refused
  · obtain ⟨-, roster, changes, rfl⟩ := destroy_ok wellFormed.roster ran
    refine ⟨⟨?_, ?_, ?_, ?_, ?_, unname_systems _ entity, unname_limits _ entity⟩, ?_⟩
    · rw [unname_roster]
      exact changes.capacity
    · intro other outside
      rw [unname_roster, changes.signature?, if_neg (Ne.symm (List.ne_of_not_mem_cons outside))]
    · intro other outside id
      rw [unname_store, Store.get?_drop, if_neg (Ne.symm (List.ne_of_not_mem_cons outside))]
    · intro id component known
      rw [unname_store, Store.component?_drop]
      exact known
    · intro other outside
      rw [givenName?_unname, if_neg (List.ne_of_not_mem_cons outside)]
      rfl
    · rw [unname_roster, Roster.isAlive_changes changes, if_pos rfl]
      rfl

theorem destroyAll_agreesOutside (created : List Entity) {scene : Scene}
    (wellFormed : scene.WellFormed) :
    scene.AgreesOutside created (destroyAll created scene) ∧
      ∀ entity ∈ created, (destroyAll created scene).roster.isAlive entity = false := by
  induction created generalizing scene with
  | nil => exact ⟨.refl [] scene, fun _ member => nomatch member⟩
  | cons entity rest ih =>
    obtain ⟨first, dead⟩ := destroy_agreesOutside entity wellFormed
    obtain ⟨second, deadOthers⟩ := ih (destroy_keeps entity scene wellFormed)
    have one := first.mono (List.cons_subset_cons entity rest.nil_subset)
    have other := second.mono (List.subset_cons_self entity rest)
    refine ⟨one.trans other, ?_⟩
    intro member inside
    -- An entity that is listed twice is dead when its second turn comes.
    by_cases behind : member ∈ rest
    · exact deadOthers member behind
    · have same := (List.mem_cons.mp inside).resolve_right behind
      subst same
      exact (second.isAlive behind).trans dead

/-- Outside a list of entities that are alive neither before nor after, scenes that are in step differ
in nothing at all. -/
theorem AgreesOutside.of_dead {touched : List Entity} {before after : Scene}
    (agrees : before.AgreesOutside touched after) (formed : before.WellFormed)
    (formedAfter : after.WellFormed)
    (dead : ∀ entity ∈ touched, before.roster.isAlive entity = false)
    (deadAfter : ∀ entity ∈ touched, after.roster.isAlive entity = false) :
    before.AgreesOutside [] after where
  capacity := agrees.capacity
  signature? entity _ := by
    by_cases inside : entity ∈ touched
    · rw [Option.not_isSome_iff_eq_none.mp (Bool.eq_false_iff.mp (dead entity inside)),
        Option.not_isSome_iff_eq_none.mp (Bool.eq_false_iff.mp (deadAfter entity inside))]
    · exact agrees.signature? entity inside
  get? entity _ id := by
    by_cases inside : entity ∈ touched
    · rw [formed.valueless (dead entity inside), formedAfter.valueless (deadAfter entity inside)]
    · exact agrees.get? entity inside id
  component? := agrees.component?
  givenName? entity _ := by
    by_cases inside : entity ∈ touched
    · rw [formed.unnamed (dead entity inside), formedAfter.unnamed (deadAfter entity inside)]
    · exact agrees.givenName? entity inside
  systems := agrees.systems
  limits := agrees.limits

/-- A snapshot that is refused, wherever its loading stops, leaves no trace but further components. -/
theorem load_refused {snapshot : Snapshot} {components : Registry Component} {fault : Fault}
    (wellFormed : scene.WellFormed)
    (refused : load snapshot components scene = (.error fault, later)) :
    scene.AgreesOutside [] later := by
  unfold load at refused
  split at refused
  · cases refused
    exact .refl [] _
  · next blueprints _ =>
    have formed := createAll_wellFormed blueprints wellFormed
    split at refused
    · cases refused
    · next created middle ran =>
      rw [ran] at formed
      cases refused
      obtain ⟨first, dead⟩ := createAll_agreesOutside blueprints wellFormed ran
      obtain ⟨second, deadAfter⟩ := destroyAll_agreesOutside created formed
      exact (first.trans second).of_dead wellFormed (destroyAll_wellFormed created formed) dead
        deadAfter

end Stagecraft.Scene
