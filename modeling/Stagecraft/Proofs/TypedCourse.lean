import Stagecraft.Proofs.Course
import Stagecraft.Proofs.Typing

/-!
Typed courses: where all systems of a scene keep values typed, so does every turn. From a typed store and an
event with a typed payload, a cascade goes from one typed store to the next, and nothing else ever waits for
its turn or is handed to a system than events with typed payloads.
-/

namespace Stagecraft

/-- Given an event with a typed payload, a system has typed values in the store all along, and the payloads of
the events that follow are typed. -/
def System.KeepsTyped (system : System) : Prop :=
  ∀ bound : BoundEvent, bound.event.payload.Typed →
    (system.body bound).KeepsTyped (fun found => ∀ emitted ∈ found, emitted.payload.Typed)

/-- The values in the store are typed, and so are the payloads of all events: of those that wait, and of those
that had their turn. -/
structure Course.Typed (course : Course) : Prop where
  stored : course.store.Typed
  waiting : ∀ pending ∈ course.waiting, pending.event.payload.Typed
  taken : ∀ round ∈ course.rounds, round.turn.event.payload.Typed

namespace Scene

variable (scene : Scene) (events : Registry Contract)

/-- In the course of a sent event, an event that has its turn comes to a system, with what the systems before
it left in the store and for the host. -/
structure Hands (sent : Event) (enrolled : Enrolled) (event : Event) (store : Store)
    (output : Array Output) : Prop where
  exists_turn : ∃ count depth rest earlier later handings,
    (scene.course events sent count).waiting = ⟨event, depth⟩ :: rest ∧
    scene.checkEvent events (scene.course events sent count).store event = .ok () ∧
    scene.recipients event = earlier ++ (event, enrolled) :: later ∧
    scene.handAll earlier (scene.course events sent count).store (scene.course events sent count).output =
      (handings, store, output)

variable {scene} {event : Event} {store : Store}

theorem Hands.enrolled {sent : Event} {enrolled : Enrolled} {output : Array Output}
    (hands : scene.Hands events sent enrolled event store output) : enrolled ∈ scene.systems := by
  obtain ⟨_, _, _, _, _, _, -, -, split, -⟩ := hands.exists_turn
  apply scene.recipients_enrolled event (event, enrolled)
  rw [split]
  exact List.mem_append_right _ List.mem_cons_self

theorem invoke_typed {enrolled : Enrolled} (keeps : enrolled.system.KeepsTyped)
    (carried : event.payload.Typed) (typed : store.Typed) (output : Array Output) :
    (scene.invoke enrolled event store output).2.1.Typed ∧
      ∀ found, (scene.invoke enrolled event store output).1 = .ok found →
        ∀ emitted ∈ found, emitted.payload.Typed := by
  unfold invoke
  split
  · exact ⟨typed, nofun⟩
  · next refs _ =>
    have body := keeps ⟨event, refs⟩ carried
    have left : (((enrolled.system.body ⟨event, refs⟩).run
        ⟨⟨store, scene.roster, enrolled.components⟩, output⟩).2.view.store).Typed := body.leaves typed
    split
    · next ran =>
      rw [ran] at left
      refine ⟨left, ?_⟩
      rintro _ ⟨⟩
      exact body.ends typed (congrArg Prod.fst ran)
    · next ran =>
      rw [ran] at left
      exact ⟨left, nofun⟩

theorem handAll_typed {pairs : List (Event × Enrolled)}
    (keep : ∀ pair ∈ pairs, pair.2.system.KeepsTyped ∧ pair.1.payload.Typed) (typed : store.Typed)
    (output : Array Output) :
    (scene.handAll pairs store output).2.1.Typed ∧
      ∀ handing ∈ (scene.handAll pairs store output).1, ∀ emitted ∈ handing.followUps,
        emitted.payload.Typed := by
  induction pairs generalizing store output with
  | nil => exact ⟨typed, nofun⟩
  | cons pair rest ih =>
    obtain ⟨event, enrolled⟩ := pair
    obtain ⟨⟨keeps, carried⟩, others⟩ := List.forall_mem_cons.mp keep
    obtain ⟨left, found⟩ := scene.invoke_typed keeps carried typed output
    obtain ⟨last, handings⟩ := ih others left (scene.invoke enrolled event store output).2.2
    refine ⟨last, List.forall_mem_cons.mpr ⟨?_, handings⟩⟩
    unfold Handing.followUps
    dsimp only
    split
    · next ended => exact found _ ended
    · exact nofun

variable (keep : ∀ enrolled ∈ scene.systems, enrolled.system.KeepsTyped)
include keep

theorem recipients_keep (carried : event.payload.Typed) :
    ∀ pair ∈ scene.recipients event, pair.2.system.KeepsTyped ∧ pair.1.payload.Typed := by
  intro pair member
  have enrolled := scene.recipients_enrolled event pair member
  obtain ⟨_, -, rfl⟩ := List.mem_map.mp member
  exact ⟨keep _ enrolled, carried⟩

theorem takeTurn_typed (carried : event.payload.Typed) (typed : store.Typed) (output : Array Output) :
    (scene.takeTurn events event store output).2.1.Typed ∧
      ∀ emitted ∈ (scene.takeTurn events event store output).1.followUps, emitted.payload.Typed := by
  unfold takeTurn
  split
  · exact ⟨typed, nofun⟩
  · obtain ⟨last, handings⟩ := scene.handAll_typed (recipients_keep keep carried) typed output
    refine ⟨last, fun emitted member => ?_⟩
    obtain ⟨handing, inside, followUp⟩ := List.mem_flatMap.mp member
    exact handings handing inside emitted followUp

/-- A cascade is typed from one turn to the next. -/
theorem course_typed (stored : scene.store.Typed) (carried : event.payload.Typed) (count : Nat) :
    (scene.course events event count).Typed := by
  refine scene.course_induction events event count ⟨stored, ?_, nofun⟩ ?_
  · exact List.forall_mem_singleton.mpr carried
  · rintro next depth rest store output rounds turn later left turned ⟨stored, waiting, taken⟩
    obtain ⟨first, others⟩ := List.forall_mem_cons.mp waiting
    obtain ⟨last, found⟩ := takeTurn_typed events keep first stored output
    -- A round records the event that waited first, so its payload is typed as those of all that waited are.
    have its := scene.takeTurn_event events next store output
    rw [turned] at last found its
    refine ⟨last, List.forall_mem_append.mpr ⟨others, ?_⟩, List.forall_mem_append.mpr ⟨taken, ?_⟩⟩
    · exact List.forall_mem_map.mpr found
    · exact List.forall_mem_singleton.mpr (its ▸ first)

theorem Hands.typed {sent : Event} {enrolled : Enrolled} {output : Array Output}
    (hands : scene.Hands events sent enrolled event store output) (stored : scene.store.Typed)
    (carried : sent.payload.Typed) : store.Typed ∧ event.payload.Typed := by
  obtain ⟨count, depth, rest, earlier, later, handings, first, -, split, handed⟩ := hands.exists_turn
  have typed := course_typed events keep stored carried count
  have waiting := typed.waiting _ (first ▸ List.mem_cons_self)
  have before := recipients_keep keep waiting
  rw [split, List.forall_mem_append] at before
  have left := (scene.handAll_typed before.1 typed.stored (scene.course events sent count).output).1
  rw [handed] at left
  exact ⟨left, waiting⟩

theorem dispatch_stored (stored : scene.store.Typed) (carried : event.payload.Typed)
    (accepted : scene.checkEvent events scene.store event = .ok ()) :
    (scene.dispatch events event).scene.store.Typed := by
  obtain ⟨count, follows⟩ := dispatch_follows accepted
  rw [follows.scene]
  exact (course_typed events keep stored carried count).stored

end Scene

end Stagecraft
