import Stagecraft.Proofs.Rollback

/-!
Refusal: a refused command leaves the world as it was. What it may leave behind are further components,
open columns, and numbers that were fresh and are now free. A host cannot tell: whatever it creates and
ends from there on, it is handed out the same entities.
-/

namespace Stagecraft

inductive Allocation where
  | create
  | createNamed (name : String)
  | destroy (entity : Entity)

def Allocation.perform : Allocation → Operation Scene (Option Entity)
  | create => some <$> Scene.create
  | createNamed name => some <$> Scene.createNamed name
  | destroy entity => (fun _ => none) <$> Scene.destroy entity

namespace Scene

def answers : List Allocation → Scene → List (Except Fault (Option Entity))
  | [], _ => []
  | allocation :: rest, scene =>
    (allocation.perform scene).1 :: answers rest (allocation.perform scene).2

private theorem cases_of_map {ε α β : Type} {first second : Except ε α} {observe : α → β}
    (same : first.map observe = second.map observe) :
    (∃ fault, first = .error fault ∧ second = .error fault) ∨
    ∃ one other, first = .ok one ∧ second = .ok other ∧ observe one = observe other := by
  rcases first with fault | one
  · rcases second with reason | other
    · cases same
      exact .inl ⟨fault, rfl, rfl⟩
    · cases same
  · rcases second with reason | other
    · cases same
    · exact .inr ⟨one, other, rfl, rfl, Except.ok.inj same⟩

structure Alike (first second : Scene) : Prop where
  formed : first.WellFormed
  formedOther : second.WellFormed
  roster : first.roster.Agrees second.roster
  find? : ∀ name, first.find? name = second.find? name

namespace Alike

variable {first second : Scene}

theorem givenName? (alike : first.Alike second) (entity : Entity) :
    first.givenName? entity = second.givenName? entity := by
  apply Option.ext
  intro name
  rw [← alike.formed.named, ← alike.formedOther.named, alike.find?]

theorem create (alike : first.Alike second) :
    (Scene.create first).1 = (Scene.create second).1 ∧
      (Scene.create first).2.Alike (Scene.create second).2 := by
  have same := alike.roster.create alike.formed.roster alike.formedOther.roster
  have formed := create_keeps first alike.formed
  have formedOther := create_keeps second alike.formedOther
  rw [create_apply] at formed ⊢
  rw [create_apply] at formedOther ⊢
  rcases cases_of_map same with ⟨fault, one, other⟩ | ⟨⟨entity, roster⟩, ⟨_, _⟩, one, other, rfl⟩
  · rw [one, other]
    exact ⟨rfl, alike⟩
  · rw [one] at formed ⊢
    rw [other] at formedOther ⊢
    have changes := (Roster.create_ok alike.formed.roster one).changes
    have changesOther := (Roster.create_ok alike.formedOther.roster other).changes
    exact ⟨rfl, formed, formedOther, alike.roster.changes changes changesOther, alike.find?⟩

theorem createNamed (alike : first.Alike second) (name : String) :
    (Scene.createNamed name first).1 = (Scene.createNamed name second).1 ∧
      (Scene.createNamed name first).2.Alike (Scene.createNamed name second).2 := by
  obtain ⟨same, later⟩ := alike.create
  have formed := createNamed_keeps name first alike.formed
  have formedOther := createNamed_keeps name second alike.formedOther
  rw [createNamed_apply] at formed ⊢
  rw [createNamed_apply] at formedOther ⊢
  rw [← alike.find? name] at formedOther ⊢
  split
  · exact ⟨rfl, alike⟩
  · next fresh =>
    rw [if_neg fresh] at formed formedOther
    rcases one : Scene.create first with ⟨result, left⟩
    rcases other : Scene.create second with ⟨_, right⟩
    rw [one] at same later formed
    rw [other] at same later formedOther
    cases same
    cases result with
    | error fault => exact ⟨rfl, later⟩
    | ok entity =>
      refine ⟨rfl, formed, formedOther, later.roster, ?_⟩
      intro given
      have unchanged := later.find? given
      unfold Scene.find? at unchanged ⊢
      rw [List.lookup_cons, List.lookup_cons, unchanged]

theorem destroy (alike : first.Alike second) (entity : Entity) :
    (Scene.destroy entity first).1 = (Scene.destroy entity second).1 ∧
      (Scene.destroy entity first).2.Alike (Scene.destroy entity second).2 := by
  have same := alike.roster.checkAlive entity
  rw [← Roster.map_destroy, ← Roster.map_destroy] at same
  have formed := destroy_keeps entity first alike.formed
  have formedOther := destroy_keeps entity second alike.formedOther
  rw [destroy_apply] at formed ⊢
  rw [destroy_apply] at formedOther ⊢
  rcases cases_of_map same with ⟨fault, one, other⟩ | ⟨roster, rosterOther, one, other, -⟩
  · rw [one, other]
    exact ⟨rfl, alike⟩
  · rw [one] at formed ⊢
    rw [other] at formedOther ⊢
    have changes := (Roster.destroy_ok alike.formed.roster one).2
    have changesOther := (Roster.destroy_ok alike.formedOther.roster other).2
    refine ⟨rfl, formed, formedOther, ?_, ?_⟩
    · rw [unname_roster, unname_roster]
      exact alike.roster.changes changes changesOther
    · intro name
      have named := alike.givenName? entity
      have known := alike.find? name
      rw [find?_unname, find?_unname]
      change (if first.givenName? entity = some name then none else first.find? name) =
        if second.givenName? entity = some name then none else second.find? name
      rw [named, known]

/-- Alike scenes answer an allocation alike, and are alike afterwards. -/
theorem perform (alike : first.Alike second) (allocation : Allocation) :
    (allocation.perform first).1 = (allocation.perform second).1 ∧
      (allocation.perform first).2.Alike (allocation.perform second).2 := by
  cases allocation with
  | create =>
    obtain ⟨same, later⟩ := alike.create
    rw [Allocation.perform, Operation.map_apply, Operation.map_apply, same]
    exact ⟨rfl, later⟩
  | createNamed name =>
    obtain ⟨same, later⟩ := alike.createNamed name
    rw [Allocation.perform, Operation.map_apply, Operation.map_apply, same]
    exact ⟨rfl, later⟩
  | destroy entity =>
    obtain ⟨same, later⟩ := alike.destroy entity
    rw [Allocation.perform, Operation.map_apply, Operation.map_apply, same]
    exact ⟨rfl, later⟩

/-- Alike scenes cannot be told apart by creating and ending entities. -/
theorem answers (alike : first.Alike second) (allocations : List Allocation) :
    Scene.answers allocations first = Scene.answers allocations second := by
  induction allocations generalizing first second with
  | nil => rfl
  | cons allocation rest ih =>
    obtain ⟨same, later⟩ := alike.perform allocation
    rw [Scene.answers, Scene.answers, same, ih later]

end Alike

/-- Nothing that a host may ask of a scene tells the second from the first. -/
structure SameWorld (before after : Scene) : Prop where
  alive : ∀ entity, after.roster.isAlive entity = before.roster.isAlive entity
  entities : after.roster.entities = before.roster.entities
  size : after.roster.size = before.roster.size
  find? : ∀ name, after.find? name = before.find? name
  givenName? : ∀ entity, after.givenName? entity = before.givenName? entity
  signature : ∀ entity, after.roster.signature entity = before.roster.signature entity
  component : ∀ entity id, after.component entity id = before.component entity id
  components : ∀ entity, after.components entity = before.components entity
  systems : after.systems = before.systems
  limits : after.limits = before.limits
  /-- Entities are handed out as they would have been. -/
  answers : ∀ allocations, Scene.answers allocations after = Scene.answers allocations before

variable {before after : Scene}

theorem AgreesOutside.sameWorld (agrees : before.AgreesOutside [] after)
    (formed : before.WellFormed) (formedAfter : after.WellFormed) : before.SameWorld after := by
  have roster : after.roster.Agrees before.roster :=
    ⟨agrees.capacity, fun entity => agrees.signature? entity List.not_mem_nil⟩
  have get? (entity : Entity) (id : ComponentId) :
      after.store.get? entity id = before.store.get? entity id :=
    agrees.get? entity List.not_mem_nil id
  have givenName? (entity : Entity) : after.givenName? entity = before.givenName? entity :=
    agrees.givenName? entity List.not_mem_nil
  have find? (name : String) : after.find? name = before.find? name := by
    apply Option.ext
    intro entity
    rw [formed.named, formedAfter.named, givenName?]
  have entities : after.roster.entities = before.roster.entities := by
    apply eq_of_ascending (Roster.entities_ascending _) (Roster.entities_ascending _)
    intro entity
    rw [Roster.mem_entities, Roster.mem_entities, roster.isAlive]
  refine {
    alive := roster.isAlive
    entities := entities
    size := ?_
    find? := find?
    givenName? := givenName?
    signature := roster.signature
    component := ?_
    components := ?_
    systems := agrees.systems
    limits := agrees.limits
    answers := Alike.answers ⟨formedAfter, formed, roster, find?⟩ }
  · rw [← Roster.length_entities formedAfter.roster, ← Roster.length_entities formed.roster, entities]
  · intro entity id
    rw [component, component, roster.checkAlive, get?]
  · intro entity
    rw [components, components, roster.checkAlive, Store.valuesOf_congr (get? entity)]
    congr 1
    funext _
    apply mapM_congr
    rintro ⟨id, value⟩ member
    obtain ⟨component, known⟩ := Store.component?_of_get? (Store.get?_of_mem_valuesOf member)
    have kept := agrees.component? id component known
    dsimp only
    unfold Store.component
    rw [known, kept]

/-- Once events are being delivered, a dispatch may be cut short, but the sent event was accepted. -/
theorem drain_not_rejected (scene : Scene) (events : Registry Contract) (allowance : Nat)
    (queue : Queue Pending) (progress : Progress) (fault : Fault) :
    (scene.drain events allowance queue progress).1 ≠ .error (.rejected fault) := by
  induction allowance generalizing queue progress with
  | zero =>
    unfold drain
    split <;> simp
  | succ allowance ih =>
    unfold drain
    split
    · simp
    · split
      next progress followUps _ =>
      split
      · exact ih _ progress
      · split
        · exact ih _ progress
        · simp

theorem dispatch_refused {scene : Scene} {events : Registry Contract} {event : Event} {fault : Fault}
    (refused : (scene.dispatch events event).refusal?.1 = some fault) :
    (scene.dispatch events event).scene = scene := by
  unfold dispatch at refused ⊢
  split
  · rfl
  · next accepted =>
    rw [accepted] at refused
    have delivered := drain_not_rejected scene events scene.limits.events (.singleton ⟨event, 0⟩)
      ⟨scene.store, #[], .empty⟩
    unfold Outcome.refusal? at refused
    split at refused
    · next rejected =>
      exact absurd rejected (delivered _)
    · cases refused

theorem refused_agreesOutside (command : Command) {fault : Fault} (wellFormed : before.WellFormed)
    (refused : (command.perform before).1 = some fault) :
    before.AgreesOutside [] (command.perform before).2 := by
  cases command with
  | configure limits => cases refused
  | create =>
    rw [Command.perform] at refused ⊢
    rw [create_refused (Operation.eq_of_refusal? refused)]
    exact .refl [] before
  | createNamed name =>
    rw [Command.perform] at refused ⊢
    rw [createNamed_refused (Operation.eq_of_refusal? refused)]
    exact .refl [] before
  | destroy entity =>
    rw [Command.perform] at refused ⊢
    rw [destroy_refused (Operation.eq_of_refusal? refused)]
    exact .refl [] before
  | register component =>
    rw [Command.perform] at refused ⊢
    rw [register_refused (Operation.eq_of_refusal? refused)]
    exact .refl [] before
  | add entity id value =>
    rw [Command.perform] at refused ⊢
    obtain ⟨store, grows, after⟩ :=
      add_refused wellFormed.roster (Operation.eq_of_refusal? refused)
    rw [after]
    exact agreesOutside_grow [] grows
  | insert entity component value =>
    rw [Command.perform] at refused ⊢
    obtain ⟨store, grows, after⟩ :=
      insert_refused wellFormed.roster (Operation.eq_of_refusal? refused)
    rw [after]
    exact agreesOutside_grow [] grows
  | remove entity id =>
    rw [Command.perform] at refused ⊢
    rw [remove_refused wellFormed.roster (Operation.eq_of_refusal? refused)]
    exact .refl [] before
  | enroll name catalog =>
    rw [Command.perform] at refused ⊢
    obtain ⟨store, grows, after⟩ := enroll_refused (Operation.eq_of_refusal? refused)
    rw [after]
    exact agreesOutside_grow [] grows
  | load snapshot components =>
    exact load_refused wellFormed (Operation.eq_of_refusal? refused)
  | dispatch events event =>
    rw [Command.perform, Outcome.refusal?_snd, dispatch_refused refused]
    exact .refl [] before

/-- Whatever a host asked of a new scene before, a command that is refused then leaves the world as
it was. -/
theorem refused_sameWorld (name : String) (commands : List Command) (command : Command) (fault : Fault)
    (refused : (command.perform ((empty name .standard).after commands)).1 = some fault) :
    ((empty name .standard).after commands).SameWorld
      (command.perform ((empty name .standard).after commands)).2 := by
  have formed := after_wellFormed name .standard commands
  exact (refused_agreesOutside command formed refused).sameWorld formed
    (perform_wellFormed command formed)

/-- The first entity of the snapshot was alive before the second was refused its name. -/
theorem taken_name_sameWorld :
    let scene := (empty "stage" .standard).after [.createNamed "guard"]
    let load := Command.load ⟨"crowd", [⟨some "hero", []⟩, ⟨some "guard", []⟩]⟩ .empty
    (load.perform scene).1 = some (.alreadyRegistered .entity "guard") ∧
      scene.SameWorld (load.perform scene).2 :=
  ⟨rfl, refused_sameWorld "stage" [.createNamed "guard"] _ _ rfl⟩

end Scene

end Stagecraft
