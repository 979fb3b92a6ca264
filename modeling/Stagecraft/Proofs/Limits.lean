import Mathlib.Algebra.Order.BigOperators.Group.List
import Mathlib.Algebra.Order.Group.Nat
import Stagecraft.Proofs.Course

/-!
Limits: what the limits of a scene guarantee, and what they leave alone. They bound how many events are
delivered, how many systems run, and how deep the delivered events are. Wider limits let a dispatch go on
where it was cut, and do nothing else.
-/

namespace Stagecraft

theorem Turn.length_dispatched_le (turn : Turn) : turn.dispatched.length ≤ 1 := by
  cases turn with
  | passed => exact Nat.zero_le _
  | delivered => exact Nat.le_refl _

namespace Scene

variable {scene : Scene} {events : Registry Contract}

/-! ### Bounds -/

theorem length_recipients_le (scene : Scene) (event : Event) :
    (scene.recipients event).length ≤ scene.systems.length := by
  rw [recipients, List.length_map]
  exact List.length_filter_le _ _

theorem length_handings_le (event : Event) (count : Nat) :
    (scene.course events event count).handings.length ≤
      (scene.course events event count).report.dispatched.size * scene.systems.length := by
  have handed := congrArg List.length (scene.course_handed events event count)
  rw [List.length_map, List.length_flatMap] at handed
  rw [handed, ← Array.length_toList, ← List.length_map (fun event => (scene.recipients event).length)]
  apply List.sum_le_card_nsmul
  rw [List.forall_mem_map]
  exact fun event _ => scene.length_recipients_le event

/-- As long as a course goes on, one more event may be delivered, and none waits too deep. -/
theorem course_within {limits : Limits} {event : Event} {count : Nat}
    (going : ∀ k < count, (scene.course events event k).halt? limits = none) :
    (scene.course events event count).report.dispatched.size ≤ limits.events ∧
      ∀ round ∈ (scene.course events event count).rounds, round.depth ≤ limits.cascadeDepth := by
  induction count with
  | zero => exact ⟨Nat.zero_le _, nofun⟩
  | succ count ih =>
    obtain ⟨-, before⟩ := ih (fun k earlier => going k (Nat.lt_succ_of_lt earlier))
    obtain ⟨waits, shallow, few⟩ := Course.halt?_eq_none_iff.mp (going count (Nat.lt_succ_self count))
    rw [course_succ]
    rcases here : scene.course events event count with
      ⟨_ | ⟨⟨next, depth⟩, rest⟩, store, output, rounds⟩ <;> rw [here] at waits shallow few before
    · exact absurd rfl waits
    · rcases turned : scene.takeTurn events next store output with ⟨turn, later, left⟩
      rw [scene.advance_cons events _ _ _ turned]
      refine ⟨?_, List.forall_mem_append.mpr
        ⟨before, List.forall_mem_singleton.mpr (List.forall_mem_cons.mp shallow).1⟩⟩
      rw [report_next store output (⟨next, depth⟩ :: rest)]
      have one := turn.length_dispatched_le
      simp only [Report.record, List.flatMap_singleton, Array.size_append, List.size_toArray]
      omega

/-- The last round of a course delivered an event as deep as the limits allow to every system that listens
to it, and an event of the given name is the first that followed. -/
structure Deepest (scene : Scene) (course : Course) (name : String) : Prop where
  exists_last : ∃ earlier event handings first others,
    course.rounds = earlier ++ [⟨scene.limits.cascadeDepth, .delivered event handings⟩] ∧
    course.report.dispatched.back? = some event ∧
    handings.map Handing.enrolled =
      scene.systems.filter (fun enrolled => enrolled.system.listensTo event.name) ∧
    handings.flatMap Handing.followUps = first :: others ∧ first.name = name

theorem takeTurn_delivered {event : Event} {store : Store} {output : Array Output}
    (found : (scene.takeTurn events event store output).1.followUps ≠ []) :
    ∃ handings, (scene.takeTurn events event store output).1 = .delivered event handings ∧
      handings.map Handing.enrolled =
        scene.systems.filter (fun enrolled => enrolled.system.listensTo event.name) := by
  unfold takeTurn at found ⊢
  split at found
  · exact absurd rfl found
  · have pairs := scene.handAll_pairs (scene.recipients event) store output
    refine ⟨_, rfl, ?_⟩
    have systems := congrArg (List.map Prod.snd) pairs
    rw [recipients, List.map_map, List.map_map] at systems
    exact systems.trans (List.map_id _)

/-- An event that waits too deep has just followed from one at the greatest depth. -/
theorem course_deepest {event : Event} {count : Nat}
    (going : ∀ k < count, (scene.course events event k).halt? scene.limits = none)
    {pending : Pending} (deep : (scene.course events event count).waiting.find?
      (fun pending => scene.limits.cascadeDepth < pending.depth) = some pending) :
    scene.Deepest (scene.course events event count) pending.event.name := by
  cases count with
  | zero =>
    have inside : pending ∈ [⟨event, 0⟩] := List.mem_of_find?_eq_some deep
    have below : scene.limits.cascadeDepth < pending.depth := by simpa using List.find?_some deep
    rw [List.mem_singleton.mp inside] at below
    exact absurd below (Nat.not_lt_zero _)
  | succ count =>
    obtain ⟨waits, shallow, -⟩ := Course.halt?_eq_none_iff.mp (going count (Nat.lt_succ_self count))
    rw [course_succ] at deep ⊢
    rcases here : scene.course events event count with
      ⟨_ | ⟨⟨next, depth⟩, rest⟩, store, output, rounds⟩ <;> rw [here] at waits shallow deep
    · exact absurd rfl waits
    · obtain ⟨within, others⟩ := List.forall_mem_cons.mp shallow
      rcases turned : scene.takeTurn events next store output with ⟨turn, later, left⟩
      rw [scene.advance_cons events _ _ _ turned] at deep ⊢
      have none : rest.find? (fun pending => scene.limits.cascadeDepth < pending.depth) = none := by
        simpa using others
      rw [List.find?_append, none, Option.none_or] at deep
      have below : scene.limits.cascadeDepth < pending.depth := by simpa using List.find?_some deep
      obtain ⟨_, member, rfl⟩ := List.mem_map.mp (List.mem_of_find?_eq_some deep)
      have greatest : depth = scene.limits.cascadeDepth := Nat.le_antisymm within (Nat.le_of_lt_succ below)
      obtain ⟨first, more, found⟩ := List.exists_cons_of_ne_nil (List.ne_nil_of_mem member)
      rw [found, List.map_cons, List.find?_cons_of_pos (by simpa using below)] at deep
      have follows : (scene.takeTurn events next store output).1.followUps ≠ [] := by
        rw [turned, found]
        exact List.cons_ne_nil first more
      obtain ⟨handings, delivered, handed⟩ := takeTurn_delivered follows
      rw [turned] at delivered
      subst delivered greatest
      refine ⟨rounds, next, handings, first, more, rfl, ?_, handed, found, ?_⟩
      · simp [Course.report, Course.turns, Report.record, Report.empty, Turn.dispatched]
      · exact congrArg (fun pending => pending.event.name) (Option.some.inj deep)

/-- What the limits of a scene guarantee of a dispatch that comes to its end, or is cut, after a course. -/
structure Bounded (scene : Scene) (event : Event) (course : Course)
    (result : Except DispatchFault Report) : Prop where
  recorded : Report.ofResult? result = some course.report
  delivered : course.report.dispatched.size ≤ scene.limits.events
  invoked : course.handings.length ≤ scene.limits.events * scene.systems.length
  depth : ∀ round ∈ course.rounds, round.depth ≤ scene.limits.cascadeDepth ∧
    Descends event course.rounds round.depth round.turn.event
  overflow : ∀ max report, result = .error (.overflow max report) →
    max = scene.limits.events ∧ report.dispatched.size = max
  tooDeep : ∀ name max report, result = .error (.tooDeep name max report) →
    max = scene.limits.cascadeDepth ∧ report = course.report ∧ scene.Deepest course name

/-- Whatever the systems do, and however many events follow, a dispatch comes to an end: it goes through
the course of its event turn by turn, up to the first point where nothing waits or a limit is met. What it
did up to there is within the limits, and a cut comes exactly where a limit is exhausted. -/
theorem dispatch_bounded (scene : Scene) (events : Registry Contract) (event : Event) :
    match scene.checkEvent events scene.store event with
    | .error fault => scene.dispatch events event = ⟨.error (.rejected fault), scene, #[]⟩
    | .ok () => ∃ count, scene.Follows events event (scene.dispatch events event) count ∧
        scene.Bounded event (scene.course events event count) (scene.dispatch events event).result := by
  split
  · next fault refused => rw [dispatch, refused]
  · next accepted =>
    obtain ⟨count, follows⟩ := dispatch_follows accepted
    obtain ⟨few, shallow⟩ := course_within follows.going
    obtain ⟨-, descends⟩ := scene.course_descends events event count
    refine ⟨count, follows, Course.halt?_record follows.halt, few, ?_, ?_, ?_, ?_⟩
    · exact (length_handings_le event count).trans (Nat.mul_le_mul_right _ few)
    · exact fun round member => ⟨shallow round member, descends round member⟩
    · intro max report cut
      obtain ⟨rfl, rfl, enough⟩ := Course.halt?_overflow (cut ▸ follows.halt)
      exact ⟨rfl, Nat.le_antisymm few enough⟩
    · intro name max report cut
      obtain ⟨rfl, rfl, pending, deep, rfl⟩ := Course.halt?_tooDeep (cut ▸ follows.halt)
      exact ⟨rfl, rfl, course_deepest follows.going deep⟩

/-! ### Wider limits -/

section

variable (scene : Scene) (events : Registry Contract) (limits : Limits)

theorem handAll_limits (pairs : List (Event × Enrolled)) (store : Store) (output : Array Output) :
    Scene.handAll { scene with limits := limits } pairs store output =
      scene.handAll pairs store output := by
  induction pairs generalizing store output with
  | nil => rfl
  | cons pair rest ih =>
    obtain ⟨event, enrolled⟩ := pair
    simp only [handAll, ih]
    rfl

theorem takeTurn_limits (event : Event) (store : Store) (output : Array Output) :
    Scene.takeTurn { scene with limits := limits } events event store output =
      scene.takeTurn events event store output := by
  unfold takeTurn
  rw [handAll_limits]
  rfl

/-- A course does not know of limits. -/
theorem course_limits (event : Event) (count : Nat) :
    Scene.course { scene with limits := limits } events event count =
      scene.course events event count := by
  have advances : Scene.advance { scene with limits := limits } events = scene.advance events := by
    funext course
    rcases course with ⟨_ | ⟨⟨next, depth⟩, rest⟩, store, output, rounds⟩
    · rfl
    · rw [advance, advance, takeTurn_limits]
  rw [course, course, advances]

end

end Scene

structure Report.Begins (one other : Report) : Prop where
  dispatched : one.dispatched.toList <+: other.dispatched.toList
  failures : one.failures.toList <+: other.failures.toList
  invocations : one.invocations ≤ other.invocations

theorem Course.report_begins {one other : Course} (rounds : one.rounds <+: other.rounds) :
    one.report.Begins other.report := by
  obtain ⟨more, same⟩ := rounds
  have recorded : other.report = one.report.record (more.map Round.turn) := by
    rw [report, turns, ← same, List.map_append, Report.record_append]
    rfl
  rw [recorded]
  refine ⟨?_, ?_, Nat.le_add_right _ _⟩
  · rw [Report.record, Array.toList_append]
    exact List.prefix_append _ _
  · rw [Report.record, Array.toList_append]
    exact List.prefix_append _ _

/-- How a dispatch goes that another one goes along with, as far as it goes: one that comes to its end is the
same in both, and the record of one that is cut comes first on the record of the other. -/
structure Outcome.Precedes (one other : Outcome) : Prop where
  completed : ∀ report, one.result = .ok report → other.result = .ok report ∧
    other.scene.store = one.scene.store ∧ other.output = one.output
  rejected : ∀ fault, one.result = .error (.rejected fault) → other.result = .error (.rejected fault)
  cut : ∀ fault report, one.result = .error fault → fault.report? = some report →
    ∃ whole, Report.ofResult? other.result = some whole ∧ report.Begins whole

namespace Scene

section

variable {scene : Scene} {events : Registry Contract} {event : Event} {limits : Limits}
  {one other : Outcome} {count later : Nat}

/-- Under other limits, a dispatch follows the same course. -/
theorem Follows.of_limits (follows : Follows { scene with limits := limits } events event other later) :
    (∀ k < later, (scene.course events event k).halt? limits = none) ∧
      (scene.course events event later).halt? limits = some other.result ∧
      other.scene.store = (scene.course events event later).store ∧
      other.output = (scene.course events event later).output := by
  obtain ⟨going, halt, output, left⟩ := follows
  simp only [course_limits] at going halt output left
  exact ⟨going, halt, congrArg Scene.store left, output⟩

/-- Where a dispatch goes on, so does one under wider limits. -/
theorem Follows.le_of_wider (deeper : scene.limits.cascadeDepth ≤ limits.cascadeDepth)
    (more : scene.limits.events ≤ limits.events) (follows : scene.Follows events event one count)
    (wider : Follows { scene with limits := limits } events event other later) : count ≤ later := by
  obtain ⟨-, halt, -⟩ := wider.of_limits
  by_contra early
  rw [Course.halt?_eq_none_mono deeper more (follows.going later (Nat.lt_of_not_le early))] at halt
  cases halt

theorem Follows.le_of_nil (empty : (scene.course events event count).waiting = [])
    (follows : Follows { scene with limits := limits } events event other later) : later ≤ count := by
  obtain ⟨going, -⟩ := follows.of_limits
  by_contra behind
  have halted := going count (Nat.lt_of_not_le behind)
  rw [Course.halt?_of_nil empty] at halted
  cases halted

theorem Follows.precedes (deeper : scene.limits.cascadeDepth ≤ limits.cascadeDepth)
    (more : scene.limits.events ≤ limits.events) (follows : scene.Follows events event one count)
    (wider : Follows { scene with limits := limits } events event other later) : one.Precedes other := by
  have order : count ≤ later := follows.le_of_wider deeper more wider
  have recorded := Course.halt?_record follows.halt
  obtain ⟨-, halt, store, output⟩ := wider.of_limits
  refine ⟨?_, ?_, ?_⟩
  · intro report completed
    obtain ⟨empty, rfl⟩ := Course.halt?_ok (completed ▸ follows.halt)
    obtain rfl : later = count := Nat.le_antisymm (wider.le_of_nil empty) order
    rw [Course.halt?_of_nil empty] at halt
    refine ⟨(Option.some.inj halt).symm, ?_, output.trans follows.output.symm⟩
    rw [store, follows.scene]
  · intro fault rejected
    rw [rejected] at recorded
    cases recorded
  · intro fault report cut partly
    rw [cut, show Report.ofResult? (.error fault) = fault.report? from rfl, partly] at recorded
    cases recorded
    exact ⟨_, Course.halt?_record halt, Course.report_begins (scene.course_rounds_mono events event order)⟩

end

/-- Wider limits never change what a dispatch does: they only let it go on where it was cut. -/
theorem dispatch_widened (scene : Scene) (events : Registry Contract) (event : Event) (limits : Limits)
    (deeper : scene.limits.cascadeDepth ≤ limits.cascadeDepth)
    (more : scene.limits.events ≤ limits.events) :
    (scene.dispatch events event).Precedes
      (Scene.dispatch { scene with limits := limits } events event) := by
  -- Whether an event meets its contract does not depend on limits.
  cases checked : scene.checkEvent events scene.store event with
  | error fault =>
    have checkedWider : Scene.checkEvent { scene with limits := limits } events scene.store event =
        .error fault := checked
    rw [dispatch, dispatch, checked, checkedWider]
    refine ⟨?_, fun _ refused => refused, ?_⟩
    · rintro report ⟨⟩
    · rintro _ report ⟨⟩ ⟨⟩
  | ok =>
    have checkedWider : Scene.checkEvent { scene with limits := limits } events scene.store event =
        .ok () := checked
    obtain ⟨count, follows⟩ := dispatch_follows checked
    obtain ⟨later, wider⟩ := dispatch_follows checkedWider
    exact follows.precedes deeper more wider

theorem hearth_widened :
    let events : Registry Contract :=
      ⟨[⟨"spark", [], .basic .boolean⟩, ⟨"smoke", [], .basic .boolean⟩]⟩
    let spark : Event := ⟨"spark", [], .boolean true⟩
    let smoke : Event := ⟨"smoke", [], .boolean true⟩
    let damped : Scene := { hearth with limits := ⟨0, 1⟩ }
    (damped.dispatch events spark).result = .error (.tooDeep "smoke" 0 ⟨#[spark], 1, #[]⟩) ∧
      (hearth.dispatch events spark).result = .ok ⟨#[spark, smoke], 1, #[]⟩ ∧
      damped.limits.cascadeDepth ≤ hearth.limits.cascadeDepth ∧
      damped.limits.events ≤ hearth.limits.events ∧
      (damped.dispatch events spark).Precedes (hearth.dispatch events spark) :=
  ⟨rfl, rfl, by decide, by decide,
    dispatch_widened { hearth with limits := ⟨0, 1⟩ } _ _ hearth.limits (by decide) (by decide)⟩

end Scene

end Stagecraft
