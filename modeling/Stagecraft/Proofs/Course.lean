import Mathlib.Logic.Function.Iterate
import Stagecraft.Proofs.Cascade
import Stagecraft.Proofs.Confinement

/-!
Courses: a cascade told without limits. One event after the other has its turn, and what follows from it
waits behind all others, however deep and however many. A dispatch is the course of its event up to the
first point where nothing waits any more or a limit of the scene forbids to go on.
-/

namespace Stagecraft

structure Round where
  depth : Nat
  turn : Turn

/-- How far a cascade got: what waits, what the systems left behind, and the turns that were taken. -/
structure Course where
  waiting : List Pending
  store : Store
  output : Array Output
  rounds : List Round

def Turn.event : Turn → Event
  | passed event _ => event
  | delivered event _ => event

namespace Course

def turns (course : Course) : List Turn := course.rounds.map Round.turn

def handings (course : Course) : List Handing := course.turns.flatMap Turn.handings

def report (course : Course) : Report := Report.empty.record course.turns

theorem dispatched_report (course : Course) :
    course.report.dispatched.toList = course.turns.flatMap Turn.dispatched := by
  simp [report, Report.record, Report.empty]

theorem failures_report (course : Course) :
    course.report.failures.toList = course.turns.flatMap Turn.failures := by
  simp [report, Report.record, Report.empty]

def progress (course : Course) : Progress := ⟨course.store, course.output, course.report⟩

/-- What a cascade ends with here, if it ends. An event that waits too deep ends it at once; apart from
that it ends where nothing waits, or where something waits and no more may be delivered. -/
def halt? (limits : Limits) (course : Course) : Option (Except DispatchFault Report) :=
  match course.waiting.find? (fun pending => limits.cascadeDepth < pending.depth) with
  | some pending => some (.error (.tooDeep pending.event.name limits.cascadeDepth course.report))
  | none =>
    if course.waiting.isEmpty then some (.ok course.report)
    else if limits.events ≤ course.report.dispatched.size then
      some (.error (.overflow limits.events course.report))
    else none

end Course

namespace Scene

variable (scene : Scene) (events : Registry Contract)

def advance : Course → Course
  | ⟨[], store, output, rounds⟩ => ⟨[], store, output, rounds⟩
  | ⟨⟨event, depth⟩ :: rest, store, output, rounds⟩ =>
    match scene.takeTurn events event store output with
    | (turn, store, output) =>
      ⟨rest ++ turn.followUps.map (⟨·, depth + 1⟩), store, output, rounds ++ [⟨depth, turn⟩]⟩

def course (event : Event) (count : Nat) : Course :=
  (scene.advance events)^[count] ⟨[⟨event, 0⟩], scene.store, #[], []⟩

end Scene

/-! ### Where a course ends -/

namespace Course

variable {limits : Limits} {course : Course}

theorem halt?_eq_none_iff : course.halt? limits = none ↔ course.waiting ≠ [] ∧
    (∀ pending ∈ course.waiting, pending.depth ≤ limits.cascadeDepth) ∧
    course.report.dispatched.size < limits.events := by
  unfold halt?
  split
  · next pending found =>
    have deep : limits.cascadeDepth < pending.depth := by simpa using List.find?_some found
    refine iff_of_false (by simp) (fun ⟨_, shallow, _⟩ => ?_)
    exact absurd (shallow pending (List.mem_of_find?_eq_some found)) (Nat.not_le_of_lt deep)
  · next none =>
    have shallow : ∀ pending ∈ course.waiting, pending.depth ≤ limits.cascadeDepth := by
      simpa using none
    rw [and_iff_right shallow]
    split
    · next empty => simp [List.isEmpty_iff.mp empty]
    · next more =>
      rw [List.isEmpty_iff] at more
      split
      · next enough => simp [Nat.not_lt_of_le enough]
      · next few => simp [more, Nat.lt_of_not_le few]

/-- Where a course goes on, it goes on under wider limits. -/
theorem halt?_eq_none_mono {wider : Limits} (deeper : limits.cascadeDepth ≤ wider.cascadeDepth)
    (more : limits.events ≤ wider.events) (going : course.halt? limits = none) :
    course.halt? wider = none := by
  rw [halt?_eq_none_iff] at going ⊢
  obtain ⟨waiting, shallow, few⟩ := going
  exact ⟨waiting, fun pending member => (shallow pending member).trans deeper, few.trans_le more⟩

theorem halt?_ok {report : Report} (ended : course.halt? limits = some (.ok report)) :
    course.waiting = [] ∧ report = course.report := by
  unfold halt? at ended
  split at ended
  · cases ended
  · split at ended
    · next empty =>
      cases ended
      exact ⟨List.isEmpty_iff.mp empty, rfl⟩
    · split at ended <;> cases ended

theorem halt?_overflow {max : Nat} {report : Report}
    (ended : course.halt? limits = some (.error (.overflow max report))) :
    max = limits.events ∧ report = course.report ∧ limits.events ≤ course.report.dispatched.size := by
  unfold halt? at ended
  split at ended
  · cases ended
  · split at ended
    · cases ended
    · split at ended
      · next enough =>
        cases ended
        exact ⟨rfl, rfl, enough⟩
      · cases ended

theorem halt?_tooDeep {name : String} {max : Nat} {report : Report}
    (ended : course.halt? limits = some (.error (.tooDeep name max report))) :
    max = limits.cascadeDepth ∧ report = course.report ∧ ∃ pending, course.waiting.find?
      (fun pending => limits.cascadeDepth < pending.depth) = some pending ∧ pending.event.name = name := by
  unfold halt? at ended
  split at ended
  · next pending deep =>
    cases ended
    exact ⟨rfl, rfl, pending, deep, rfl⟩
  · split at ended
    · cases ended
    · split at ended <;> cases ended

theorem halt?_of_nil (empty : course.waiting = []) : course.halt? limits = some (.ok course.report) := by
  unfold halt?
  rw [empty]
  rfl

theorem halt?_record {result : Except DispatchFault Report}
    (ended : course.halt? limits = some result) : Report.ofResult? result = some course.report := by
  unfold halt? at ended
  split at ended
  · cases ended
    rfl
  · split at ended
    · cases ended
      rfl
    · split at ended
      · cases ended
        rfl
      · cases ended

end Course

/-! ### A dispatch follows a course -/

namespace Scene

variable (scene : Scene) (events : Registry Contract)

theorem advance_cons (depth : Nat) (rest : List Pending) (rounds : List Round) {event : Event}
    {store later : Store} {output left : Array Output} {turn : Turn}
    (turned : scene.takeTurn events event store output = (turn, later, left)) :
    scene.advance events ⟨⟨event, depth⟩ :: rest, store, output, rounds⟩ =
      ⟨rest ++ turn.followUps.map (⟨·, depth + 1⟩), later, left, rounds ++ [⟨depth, turn⟩]⟩ := by
  rw [advance, turned]

theorem course_succ (event : Event) (count : Nat) :
    scene.course events event (count + 1) = scene.advance events (scene.course events event count) :=
  Function.iterate_succ_apply' _ _ _

structure HaltsAfter (limits : Limits) (course : Course) (count : Nat)
    (result : Except DispatchFault Report) : Prop where
  going : ∀ k < count, ((scene.advance events)^[k] course).halt? limits = none
  halt : ((scene.advance events)^[count] course).halt? limits = some result

variable {scene events}

theorem HaltsAfter.zero {limits : Limits} {course : Course} {result : Except DispatchFault Report}
    (halt : course.halt? limits = some result) : scene.HaltsAfter events limits course 0 result :=
  ⟨nofun, halt⟩

theorem HaltsAfter.step {limits : Limits} {course : Course} {count : Nat}
    {result : Except DispatchFault Report} (going : course.halt? limits = none)
    (later : scene.HaltsAfter events limits (scene.advance events course) count result) :
    scene.HaltsAfter events limits course (count + 1) result := by
  refine ⟨?_, later.halt⟩
  intro k before
  cases k with
  | zero => exact going
  | succ k => exact later.going k (Nat.lt_of_succ_lt_succ before)

variable (scene events)

def Drains (allowance : Nat) (course : Course) : Prop :=
  ∃ count,
    scene.HaltsAfter events scene.limits course count
      (scene.drain events allowance (waiting course.waiting) course.progress).1 ∧
    (scene.drain events allowance (waiting course.waiting) course.progress).2 =
      ((scene.advance events)^[count] course).progress

/-- What waits may be delivered as far as its depth goes, and the allowance is what is left of the number of
events. -/
structure Permits (allowance : Nat) (course : Course) : Prop where
  shallow : ∀ pending ∈ course.waiting, pending.depth ≤ scene.limits.cascadeDepth
  allowed : course.report.dispatched.size + allowance = scene.limits.events

variable {scene events}

theorem Drains.step {allowance remaining : Nat} {course : Course}
    (going : course.halt? scene.limits = none)
    (same : scene.drain events allowance (waiting course.waiting) course.progress =
      scene.drain events remaining (waiting (scene.advance events course).waiting)
        (scene.advance events course).progress)
    (later : scene.Drains events remaining (scene.advance events course)) :
    scene.Drains events allowance course := by
  obtain ⟨count, halts, last⟩ := later
  rw [← same] at halts last
  exact ⟨count + 1, halts.step going, last⟩

theorem drains_nil {allowance : Nat} {course : Course} (empty : course.waiting = []) :
    scene.Drains events allowance course := by
  unfold Drains
  rw [empty, drain_nil]
  exact ⟨0, .zero (Course.halt?_of_nil empty), rfl⟩

theorem drains_zero {course : Course} (permits : scene.Permits 0 course) : scene.Drains events 0 course := by
  cases waits : course.waiting with
  | nil => exact drains_nil waits
  | cons pending rest =>
    have none : course.waiting.find? (fun pending => scene.limits.cascadeDepth < pending.depth) = none := by
      simpa using permits.shallow
    have halted : course.halt? scene.limits =
        some (.error (.overflow scene.limits.events course.report)) := by
      unfold Course.halt?
      rw [none, waits]
      simp [← permits.allowed]
    unfold Drains
    rw [waits]
    exact ⟨0, .zero halted, rfl⟩

section

variable {allowance depth : Nat} {event : Event} {rest : List Pending} {store later : Store}
  {output left : Array Output} {rounds : List Round} {turn : Turn}

theorem report_next (store : Store) (output : Array Output) (before after : List Pending) (round : Round) :
    Course.report ⟨after, later, left, rounds ++ [round]⟩ =
      (Course.report ⟨before, store, output, rounds⟩).record [round.turn] := by
  rw [Course.report, Course.turns, List.map_append, Report.record_append]
  rfl

theorem Permits.going {pending : Pending}
    (permits : scene.Permits (allowance + 1) ⟨pending :: rest, store, output, rounds⟩) :
    (Course.mk (pending :: rest) store output rounds).halt? scene.limits = none := by
  have allowed := permits.allowed
  exact Course.halt?_eq_none_iff.mpr ⟨List.cons_ne_nil _ _, permits.shallow, by omega⟩

/-- An event that is rejected uses up nothing of the allowance. -/
theorem drains_passed {fault : Fault}
    (permits : scene.Permits (allowance + 1) ⟨⟨event, depth + 1⟩ :: rest, store, output, rounds⟩)
    (refused : scene.checkEvent events store event = .error fault)
    (others : ∀ rounds, scene.Permits (allowance + 1) ⟨rest, store, output, rounds⟩ →
      scene.Drains events (allowance + 1) ⟨rest, store, output, rounds⟩) :
    scene.Drains events (allowance + 1) ⟨⟨event, depth + 1⟩ :: rest, store, output, rounds⟩ := by
  have turned : scene.takeTurn events event store output = (.passed event fault, store, output) := by
    rw [takeTurn, refused]
  have next := scene.advance_cons events (depth + 1) rest rounds turned
  rw [show (Turn.passed event fault).followUps = [] from rfl, List.map_nil, List.append_nil] at next
  have recorded : Course.report ⟨rest, store, output, rounds ++ [⟨depth + 1, .passed event fault⟩]⟩ =
      (Course.report ⟨rest, store, output, rounds⟩).fail (.refused fault) := by
    rw [report_next store output rest, Report.record_passed]
  apply Drains.step permits.going
  · rw [next, Course.progress, Course.progress, recorded]
    exact drain_rejected scene events refused
  · rw [next]
    refine others _ ⟨(List.forall_mem_cons.mp permits.shallow).2, ?_⟩
    rw [recorded]
    exact permits.allowed

theorem takeTurn_dispatched (output : Array Output)
    (accepted : scene.checkEvent events store event = .ok ()) :
    (scene.takeTurn events event store output).1.dispatched = [event] := by
  rw [takeTurn, accepted]
  rfl

/-- What follows from an event at the greatest depth waits too deep. -/
theorem halt?_deepest {limits : Limits}
    (shallow : ∀ pending ∈ rest, pending.depth ≤ limits.cascadeDepth) (first : Event)
    (others : List Event) :
    (Course.mk (rest ++ (first :: others).map (⟨·, limits.cascadeDepth + 1⟩)) store output rounds).halt?
      limits = some (.error (.tooDeep first.name limits.cascadeDepth
        (Course.report ⟨rest, store, output, rounds⟩))) := by
  have none : rest.find? (fun pending => limits.cascadeDepth < pending.depth) = none := by
    simpa using shallow
  unfold Course.halt?
  rw [List.find?_append, none, List.map_cons, Option.none_or, List.find?_cons_of_pos (by simp)]
  rfl

/-- An event that is delivered is one of those that may be, and what follows from it may end the course. -/
theorem drains_delivered
    (permits : scene.Permits (allowance + 1) ⟨⟨event, depth⟩ :: rest, store, output, rounds⟩)
    (accepted : scene.checkEvent events store event = .ok ())
    (others : ∀ (found : List Event) later left rounds,
      scene.Permits allowance ⟨rest ++ found.map (⟨·, depth + 1⟩), later, left, rounds⟩ →
      scene.Drains events allowance ⟨rest ++ found.map (⟨·, depth + 1⟩), later, left, rounds⟩) :
    scene.Drains events (allowance + 1) ⟨⟨event, depth⟩ :: rest, store, output, rounds⟩ := by
  obtain ⟨here, shallow⟩ := List.forall_mem_cons.mp permits.shallow
  have drained : scene.drain events (allowance + 1) (waiting (⟨event, depth⟩ :: rest))
      ⟨store, output, Course.report ⟨⟨event, depth⟩ :: rest, store, output, rounds⟩⟩ = _ :=
    drain_accepted scene events accepted
  have one := takeTurn_dispatched output accepted
  rcases turned : scene.takeTurn events event store output with ⟨turn, later, left⟩
  rw [turned] at drained one
  have next := scene.advance_cons events depth rest rounds turned
  have spent (waiting : List Pending) :
      (Course.report ⟨waiting, later, left, rounds ++ [⟨depth, turn⟩]⟩).dispatched.size + allowance =
        scene.limits.events := by
    rw [report_next store output (⟨event, depth⟩ :: rest), ← permits.allowed]
    simp only [Report.record, List.flatMap_singleton, one]
    rw [Array.size_append, Nat.add_assoc, Nat.add_comm _ allowance]
    rfl
  dsimp only at drained
  split at drained
  · next above =>
    apply Drains.step permits.going
    · rw [next, Course.progress, Course.progress, report_next]
      exact drained
    · rw [next]
      refine others _ _ _ _ ⟨?_, spent _⟩
      rw [List.forall_mem_append, List.forall_mem_map]
      exact ⟨shallow, fun _ _ => above⟩
  · next deepest =>
    obtain rfl : depth = scene.limits.cascadeDepth := Nat.le_antisymm here (Nat.le_of_not_lt deepest)
    split at drained
    · next nothing =>
      rw [nothing] at next
      apply Drains.step permits.going
      · rw [next, Course.progress, Course.progress, report_next, List.map_nil, List.append_nil]
        exact drained
      · rw [next]
        refine others [] _ _ _ ⟨?_, spent _⟩
        rwa [List.map_nil, List.append_nil]
    · next first more found =>
      rw [found] at next
      unfold Drains Course.progress
      dsimp only
      rw [drained]
      refine ⟨1, HaltsAfter.step permits.going (.zero ?_), ?_⟩
      · rw [next, halt?_deepest shallow, report_next]
      · rw [Function.iterate_one, next, report_next]

/-- Where all that waits follows from something, draining it is following the course. -/
theorem drains (allowance : Nat) {course : Course} (permits : scene.Permits allowance course)
    (below : ∀ pending ∈ course.waiting, pending.depth ≠ 0) : scene.Drains events allowance course := by
  -- A rejected event costs no allowance, so there is a second induction, on what waits.
  induction allowance generalizing course with
  | zero => exact drains_zero permits
  | succ allowance ih =>
    obtain ⟨waiting, store, output, rounds⟩ := course
    induction waiting generalizing rounds with
    | nil => exact drains_nil rfl
    | cons pending rest tail =>
      obtain ⟨event, depth⟩ := pending
      obtain ⟨first, others⟩ := List.forall_mem_cons.mp below
      obtain ⟨above, rfl⟩ : ∃ above, depth = above + 1 := Nat.exists_eq_succ_of_ne_zero first
      cases checked : scene.checkEvent events store event with
      | error fault => exact drains_passed permits checked (fun rounds permits => tail rounds permits others)
      | ok =>
        apply drains_delivered permits checked
        intro found later left rounds permits
        apply ih permits
        rw [List.forall_mem_append, List.forall_mem_map]
        exact ⟨others, fun _ _ => Nat.succ_ne_zero _⟩

end

/-- A dispatch is the course of its event up to the first end. -/
structure Follows (scene : Scene) (events : Registry Contract) (event : Event) (outcome : Outcome)
    (count : Nat) : Prop where
  going : ∀ k < count, (scene.course events event k).halt? scene.limits = none
  halt : (scene.course events event count).halt? scene.limits = some outcome.result
  output : outcome.output = (scene.course events event count).output
  scene : outcome.scene = { scene with store := (scene.course events event count).store }

/-- A sent event that meets its contract sets off a course, and the dispatch comes to where it ends. -/
theorem dispatch_follows {event : Event} (accepted : scene.checkEvent events scene.store event = .ok ()) :
    ∃ count, scene.Follows events event (scene.dispatch events event) count := by
  have permits : scene.Permits scene.limits.events (scene.course events event 0) := by
    refine ⟨List.forall_mem_singleton.mpr (Nat.zero_le _), ?_⟩
    rw [course, Function.iterate_zero_apply, Course.report]
    simp [Course.turns, Report.record, Report.empty]
  have followed : scene.Drains events scene.limits.events (scene.course events event 0) := by
    cases allowed : scene.limits.events with
    | zero => exact drains_zero (allowed ▸ permits)
    | succ allowance =>
      apply drains_delivered (allowed ▸ permits) accepted
      intro found later left rounds permits
      apply drains allowance permits
      rw [List.nil_append, List.forall_mem_map]
      exact fun _ _ => Nat.succ_ne_zero _
  obtain ⟨count, halts, last⟩ := followed
  have start : (scene.course events event 0).progress = ⟨scene.store, #[], .empty⟩ := by
    rw [course, Function.iterate_zero_apply, Course.progress, Course.report]
    exact congrArg (Progress.mk scene.store #[]) (Report.record_nil .empty)
  rw [start] at halts last
  refine ⟨count, halts.going, ?_, ?_, ?_⟩
  · rw [dispatch, accepted]
    exact halts.halt
  · rw [dispatch, accepted]
    exact congrArg Progress.output last
  · rw [dispatch, accepted]
    exact congrArg (fun progress => { scene with store := progress.store }) last

theorem dispatch_recorded {event : Event} {report : Report}
    (recorded : Report.ofResult? (scene.dispatch events event).result = some report) :
    scene.checkEvent events scene.store event = .ok () ∧ ∃ count,
      scene.Follows events event (scene.dispatch events event) count ∧
        report = (scene.course events event count).report := by
  cases checked : scene.checkEvent events scene.store event with
  | error fault =>
    rw [dispatch, checked] at recorded
    cases recorded
  | ok =>
    obtain ⟨count, follows⟩ := dispatch_follows checked
    have same := Course.halt?_record follows.halt
    exact ⟨rfl, count, follows, Option.some.inj (recorded.symm.trans same)⟩

/-! ### What holds all along a course -/

variable (scene events)

/-- What holds at the beginning of a course, and after each turn, holds all along the course. -/
theorem course_induction {motive : Course → Prop} (event : Event) (count : Nat)
    (start : motive (scene.course events event 0))
    (step : ∀ {event depth rest store output rounds turn later left},
      scene.takeTurn events event store output = (turn, later, left) →
      motive ⟨⟨event, depth⟩ :: rest, store, output, rounds⟩ →
      motive ⟨rest ++ turn.followUps.map (⟨·, depth + 1⟩), later, left, rounds ++ [⟨depth, turn⟩]⟩) :
    motive (scene.course events event count) := by
  induction count with
  | zero => exact start
  | succ count ih =>
    rw [course_succ]
    rcases here : scene.course events event count with
      ⟨_ | ⟨⟨next, depth⟩, rest⟩, store, output, rounds⟩ <;> rw [here] at ih
    · exact ih
    · rcases turned : scene.takeTurn events next store output with ⟨turn, later, left⟩
      rw [scene.advance_cons events _ _ _ turned]
      exact step turned ih

theorem takeTurn_event (event : Event) (store : Store) (output : Array Output) :
    (scene.takeTurn events event store output).1.event = event := by
  unfold takeTurn
  split <;> rfl

/-- The handings of a course, one after the other, are all that changes the store and the output: each
delivered event to each system that listens to it. -/
theorem course_replayed (event : Event) (count : Nat) :
    scene.handAll ((scene.course events event count).report.dispatched.toList.flatMap scene.recipients)
        scene.store #[] =
      ((scene.course events event count).handings, (scene.course events event count).store,
        (scene.course events event count).output) := by
  rw [Course.dispatched_report]
  refine scene.course_induction events (motive := fun course => scene.handAll ((course.turns.flatMap
    Turn.dispatched).flatMap scene.recipients) scene.store #[] =
      (course.handings, course.store, course.output)) event count rfl ?_
  intro event depth rest store output rounds turn later left turned replayed
  have handed := scene.takeTurn_handed events event store output
  rw [turned] at handed
  simp only [Course.handings, Course.turns, List.map_append, List.flatMap_append, List.map_singleton,
    List.flatMap_singleton] at replayed ⊢
  rw [handAll_append, replayed]
  dsimp only
  rw [handed]

theorem course_handed (event : Event) (count : Nat) :
    (scene.course events event count).handings.map (fun handing => (handing.event, handing.enrolled)) =
      (scene.course events event count).report.dispatched.toList.flatMap scene.recipients := by
  rw [← scene.handAll_pairs (List.flatMap _ _) scene.store #[], scene.course_replayed events]

/-- Where an event of a course comes from: it was sent, or it follows from one that had its turn one
generation above. -/
def Descends (sent : Event) (rounds : List Round) (depth : Nat) (event : Event) : Prop :=
  depth = 0 ∧ event = sent ∨
    ∃ parent ∈ rounds, depth = parent.depth + 1 ∧ event ∈ parent.turn.followUps

theorem Descends.mono {sent event : Event} {rounds : List Round} {depth : Nat}
    (descends : Descends sent rounds depth event) (more : List Round) :
    Descends sent (rounds ++ more) depth event :=
  descends.imp_right fun ⟨parent, member, found⟩ => ⟨parent, List.mem_append_left more member, found⟩

/-- Every event of a course descends from the sent one, through as many generations as its depth tells. -/
theorem course_descends (event : Event) (count : Nat) :
    (∀ pending ∈ (scene.course events event count).waiting,
      Descends event (scene.course events event count).rounds pending.depth pending.event) ∧
    ∀ round ∈ (scene.course events event count).rounds,
      Descends event (scene.course events event count).rounds round.depth round.turn.event := by
  refine scene.course_induction events (motive := fun course =>
    (∀ pending ∈ course.waiting, Descends event course.rounds pending.depth pending.event) ∧
      ∀ round ∈ course.rounds, Descends event course.rounds round.depth round.turn.event)
    event count ⟨List.forall_mem_singleton.mpr (.inl ⟨rfl, rfl⟩), nofun⟩ ?_
  rintro next depth rest store output rounds turn later left turned ⟨waiting, taken⟩
  have its := scene.takeTurn_event events next store output
  rw [turned] at its
  obtain ⟨first, others⟩ := List.forall_mem_cons.mp waiting
  refine ⟨List.forall_mem_append.mpr ⟨fun pending member => (others pending member).mono _, ?_⟩,
    List.forall_mem_append.mpr ⟨fun round member => (taken round member).mono _, ?_⟩⟩
  · rw [List.forall_mem_map]
    exact fun found member => .inr ⟨⟨depth, turn⟩, List.mem_append_right _ (List.mem_singleton_self _),
      rfl, member⟩
  · rw [List.forall_mem_singleton, its]
    exact first.mono _

theorem course_rounds_mono (event : Event) {count later : Nat} (before : count ≤ later) :
    (scene.course events event count).rounds <+: (scene.course events event later).rounds := by
  induction before with
  | refl => exact List.prefix_refl _
  | step _ ih =>
    refine ih.trans ?_
    rw [course_succ]
    rcases scene.course events event _ with ⟨_ | ⟨⟨next, depth⟩, rest⟩, store, output, rounds⟩
    · exact List.prefix_refl _
    · rcases turned : scene.takeTurn events next store output with ⟨turn, after, left⟩
      rw [scene.advance_cons events _ _ _ turned]
      exact List.prefix_append _ _

/-! ### The stores of a course -/

theorem handAll_meets {pairs : List (Event × Enrolled)} (enrolled : ∀ pair ∈ pairs, pair.2 ∈ scene.systems)
    {store : Store} (met : scene.Meets store) (output : Array Output) :
    scene.Meets (scene.handAll pairs store output).2.1 ∧
      ∀ handing ∈ (scene.handAll pairs store output).1, ∃ store output, scene.Meets store ∧
        handing.result = (scene.invoke handing.enrolled handing.event store output).1 := by
  induction pairs generalizing store output with
  | nil => exact ⟨met, nofun⟩
  | cons pair rest ih =>
    obtain ⟨event, system⟩ := pair
    obtain ⟨member, others⟩ := List.forall_mem_cons.mp enrolled
    obtain ⟨last, handings⟩ := ih others (met.invoked member event output)
      (scene.invoke system event store output).2.2
    exact ⟨last, List.forall_mem_cons.mpr ⟨⟨store, output, met, rfl⟩, handings⟩⟩

theorem recipients_enrolled (event : Event) : ∀ pair ∈ scene.recipients event, pair.2 ∈ scene.systems := by
  unfold recipients
  rw [List.forall_mem_map]
  exact fun enrolled member => List.mem_of_mem_filter member

structure Taken (scene : Scene) (events : Registry Contract) (turn : Turn) : Prop where
  exists_store : ∃ store output, scene.Meets store ∧
    turn = (scene.takeTurn events turn.event store output).1

theorem takeTurn_meets (event : Event) {store : Store} (met : scene.Meets store) (output : Array Output) :
    scene.Meets (scene.takeTurn events event store output).2.1 := by
  unfold takeTurn
  split
  · exact met
  · exact (scene.handAll_meets (scene.recipients_enrolled event) met output).1

theorem course_taken (event : Event) (count : Nat) :
    scene.Meets (scene.course events event count).store ∧
      ∀ turn ∈ (scene.course events event count).turns, scene.Taken events turn := by
  refine scene.course_induction events (motive := fun course =>
    scene.Meets course.store ∧ ∀ turn ∈ course.turns, scene.Taken events turn)
    event count ⟨.start, nofun⟩ ?_
  rintro next depth rest store output rounds turn later left turned ⟨met, taken⟩
  have left := scene.takeTurn_meets events next met output
  have its := scene.takeTurn_event events next store output
  rw [turned] at left its
  refine ⟨left, ?_⟩
  rw [Course.turns, List.map_append, List.forall_mem_append, List.map_singleton,
    List.forall_mem_singleton]
  refine ⟨taken, ⟨store, output, met, ?_⟩⟩
  rw [its, turned]

end Scene

end Stagecraft
