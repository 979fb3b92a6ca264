import Stagecraft.Proofs.Limits

/-!
Overflow: what it means that no more events may be delivered. A dispatch is cut where their number is
reached and something still waits, and nobody asks before whether that meets its contract. So a wider limit
lets more events be delivered exactly if one of those that wait does meet it; where none does, the cut takes
nothing but their rejections from the record.
-/

namespace Stagecraft

/-- A course is cut for the number of events where something waits, none of it too deep, and no more may be
delivered. -/
theorem Course.halt?_overflow_iff {limits : Limits} {course : Course} {max : Nat} {report : Report} :
    course.halt? limits = some (.error (.overflow max report)) ↔
      max = limits.events ∧ report = course.report ∧ course.waiting ≠ [] ∧
        (∀ pending ∈ course.waiting, pending.depth ≤ limits.cascadeDepth) ∧
        limits.events ≤ course.report.dispatched.size := by
  unfold halt?
  split
  · next pending found =>
    have deep : limits.cascadeDepth < pending.depth := by simpa using List.find?_some found
    refine iff_of_false nofun (fun ⟨_, _, _, shallow, _⟩ => ?_)
    exact absurd (shallow pending (List.mem_of_find?_eq_some found)) (Nat.not_le_of_lt deep)
  · next none =>
    have shallow : ∀ pending ∈ course.waiting, pending.depth ≤ limits.cascadeDepth := by
      simpa using none
    rw [and_iff_right shallow]
    split
    · next empty => exact iff_of_false nofun (fun ⟨_, _, waits, _⟩ => waits (List.isEmpty_iff.mp empty))
    · next more =>
      rw [List.isEmpty_iff] at more
      split
      · next enough => simp [more, enough, eq_comm]
      · next few => exact iff_of_false nofun (fun ⟨_, _, _, enough⟩ => few enough)

namespace Scene

variable (scene : Scene) (events : Registry Contract)

def rejections (store : Store) (waiting : List Pending) : List Round :=
  waiting.filterMap fun pending =>
    match scene.checkEvent events store pending.event with
    | .ok () => none
    | .error fault => some ⟨pending.depth, .passed pending.event fault⟩

variable {scene events}

/-- What does not meet its contract is passed over, one after the other, and leaves the store alone. -/
theorem iterate_advance_rejections {store : Store} {passed : List Pending}
    (refused : ∀ pending ∈ passed, scene.checkEvent events store pending.event ≠ .ok ())
    (rest : List Pending) (output : Array Output) (rounds : List Round) :
    (scene.advance events)^[passed.length] ⟨passed ++ rest, store, output, rounds⟩ =
      ⟨rest, store, output, rounds ++ scene.rejections events store passed⟩ := by
  induction passed generalizing rounds with
  | nil => simp [rejections]
  | cons pending others ih =>
    obtain ⟨event, depth⟩ := pending
    obtain ⟨first, behind⟩ := List.forall_mem_cons.mp refused
    cases checked : scene.checkEvent events store event with
    | ok => exact absurd checked first
    | error fault =>
      have turned : scene.takeTurn events event store output = (.passed event fault, store, output) := by
        rw [takeTurn, checked]
      have next := scene.advance_cons events depth (others ++ rest) rounds turned
      rw [show (Turn.passed event fault).followUps = [] from rfl, List.map_nil, List.append_nil] at next
      rw [List.length_cons, Function.iterate_succ_apply, List.cons_append, next, ih behind]
      simp [rejections, checked]

theorem dispatched_rejections (store : Store) (waiting : List Pending) :
    ((scene.rejections events store waiting).map Round.turn).flatMap Turn.dispatched = [] := by
  rw [List.flatMap_map, List.flatMap_eq_nil_iff]
  intro round member
  obtain ⟨pending, -, found⟩ := List.mem_filterMap.mp member
  split at found
  · cases found
  · cases found
    rfl

theorem size_dispatched_rejections (course : Course) (rest waiting : List Pending) :
    (Course.report ⟨rest, course.store, course.output,
      course.rounds ++ scene.rejections events course.store waiting⟩).dispatched.size =
        course.report.dispatched.size := by
  rw [Course.report, Course.turns, List.map_append, Report.record_append]
  change (Report.record course.report _).dispatched.size = _
  rw [Report.record, dispatched_rejections]
  simp

/-! ### Behind the cut -/

/-- What a cut at the number of events comes to, for a dispatch that ended so after a course, and another
that may deliver more. -/
structure Overflowed (scene : Scene) (events : Registry Contract) (course : Course) (wider : Outcome) :
    Prop where
  waits : course.waiting ≠ []
  delivered : course.report.dispatched.size = scene.limits.events
  delivers_iff : (∃ whole, Report.ofResult? wider.result = some whole ∧
      scene.limits.events < whole.dispatched.size) ↔
    ∃ pending ∈ course.waiting, scene.checkEvent events course.store pending.event = .ok ()
  rejects : (∀ pending ∈ course.waiting, scene.checkEvent events course.store pending.event ≠ .ok ()) →
    wider.result = .ok (course.report.record
      ((scene.rejections events course.store course.waiting).map Round.turn)) ∧
    wider.scene.store = course.store ∧ wider.output = course.output

section

variable {limits : Limits} {event : Event} {wider : Outcome} {count later : Nat}

/-- Where only what is refused stands in front, a course comes to what is behind. -/
theorem course_rejecting {first others : List Pending}
    (waits : (scene.course events event count).waiting = first ++ others)
    (refused : ∀ pending ∈ first,
      scene.checkEvent events (scene.course events event count).store pending.event ≠ .ok ()) :
    scene.course events event (count + first.length) =
      ⟨others, (scene.course events event count).store, (scene.course events event count).output,
        (scene.course events event count).rounds ++
          scene.rejections events (scene.course events event count).store first⟩ := by
  rw [← iterate_advance_rejections refused, ← waits, Nat.add_comm]
  exact Function.iterate_add_apply (scene.advance events) first.length count _

theorem halt?_rejecting {first others : List Pending}
    (waits : (scene.course events event count).waiting = first ++ others)
    (refused : ∀ pending ∈ first,
      scene.checkEvent events (scene.course events event count).store pending.event ≠ .ok ())
    (shallow : ∀ pending ∈ (scene.course events event count).waiting, pending.depth ≤ limits.cascadeDepth)
    (few : (scene.course events event count).report.dispatched.size < limits.events)
    (more : others ≠ []) :
    (scene.course events event (count + first.length)).halt? limits = none := by
  rw [course_rejecting waits refused, Course.halt?_eq_none_iff, size_dispatched_rejections]
  refine ⟨more, fun pending member => shallow pending ?_, few⟩
  rw [waits]
  exact List.mem_append_right first member

/-- The first of those that wait and meet their contracts. -/
theorem exists_first_accepted {store : Store} {waiting : List Pending}
    (meets : ∃ pending ∈ waiting, scene.checkEvent events store pending.event = .ok ()) :
    ∃ first pending rest, waiting = first ++ pending :: rest ∧
      (∀ other ∈ first, scene.checkEvent events store other.event ≠ .ok ()) ∧
      scene.checkEvent events store pending.event = .ok () := by
  induction waiting with
  | nil =>
    obtain ⟨_, member, -⟩ := meets
    cases member
  | cons head tail ih =>
    by_cases here : scene.checkEvent events store head.event = .ok ()
    · exact ⟨[], head, tail, rfl, nofun, here⟩
    · obtain ⟨pending, member, accepted⟩ := meets
      rcases List.mem_cons.mp member with rfl | behind
      · exact absurd accepted here
      · obtain ⟨first, found, rest, rfl, refused, accepted⟩ := ih ⟨pending, behind, accepted⟩
        exact ⟨head :: first, found, rest, rfl, List.forall_mem_cons.mpr ⟨here, refused⟩, accepted⟩

theorem size_dispatched_succ {pending : Pending} {rest : List Pending}
    (waits : (scene.course events event count).waiting = pending :: rest)
    (accepted : scene.checkEvent events (scene.course events event count).store pending.event = .ok ()) :
    (scene.course events event (count + 1)).report.dispatched.size =
      (scene.course events event count).report.dispatched.size + 1 := by
  rw [course_succ]
  generalize scene.course events event count = course at waits accepted ⊢
  obtain ⟨waiting, store, output, rounds⟩ := course
  obtain ⟨next, depth⟩ := pending
  dsimp only at waits accepted
  subst waits
  have one := takeTurn_dispatched output accepted
  rcases turned : scene.takeTurn events next store output with ⟨turn, after, left⟩
  rw [turned] at one
  rw [scene.advance_cons events _ _ _ turned, report_next store output (⟨next, depth⟩ :: rest)]
  simp [Report.record, one]

section

variable (follows : Follows { scene with limits := limits } events event wider later)
  (shallow : ∀ pending ∈ (scene.course events event count).waiting, pending.depth ≤ limits.cascadeDepth)
  (few : (scene.course events event count).report.dispatched.size < limits.events)
  (begun : count ≤ later)
include follows shallow few begun

/-- No course ends while events are passed over and others wait behind them. -/
theorem Follows.outlasts {first others : List Pending}
    (waits : (scene.course events event count).waiting = first ++ others)
    (refused : ∀ pending ∈ first,
      scene.checkEvent events (scene.course events event count).store pending.event ≠ .ok ())
    (more : others ≠ []) : count + first.length < later := by
  obtain ⟨-, halt, -⟩ := follows.of_limits
  -- Ended earlier, it would have ended among those that are passed over, with more of them waiting.
  by_contra early
  obtain ⟨k, rfl⟩ := Nat.exists_eq_add_of_le begun
  have within : k ≤ first.length := by omega
  rw [← List.take_append_drop k first, List.append_assoc] at waits
  have going := halt?_rejecting waits (fun other member => refused other (List.mem_of_mem_take member))
    shallow few (List.append_ne_nil_of_right_ne_nil _ more)
  rw [List.length_take_of_le within, halt] at going
  cases going

/-- One that meets its contract is delivered, once those in front of it were passed over. -/
theorem Follows.delivers_more
    (meets : ∃ pending ∈ (scene.course events event count).waiting,
      scene.checkEvent events (scene.course events event count).store pending.event = .ok ()) :
    ∃ whole, Report.ofResult? wider.result = some whole ∧
      (scene.course events event count).report.dispatched.size < whole.dispatched.size := by
  obtain ⟨-, halt, -⟩ := follows.of_limits
  obtain ⟨first, pending, rest, waits, refused, accepted⟩ := exists_first_accepted meets
  have passed := course_rejecting waits refused
  have beyond : count + first.length + 1 ≤ later :=
    follows.outlasts shallow few begun waits refused (List.cons_ne_nil pending rest)
  have delivered := size_dispatched_succ (congrArg Course.waiting passed) (passed ▸ accepted)
  rw [passed, size_dispatched_rejections] at delivered
  refine ⟨_, Course.halt?_record halt, ?_⟩
  have kept := (Course.report_begins (scene.course_rounds_mono events event beyond)).dispatched.length_le
  simp only [Array.length_toList] at kept
  omega

theorem Follows.rejects
    (refused : ∀ pending ∈ (scene.course events event count).waiting,
      scene.checkEvent events (scene.course events event count).store pending.event ≠ .ok ()) :
    wider.result = .ok ((scene.course events event count).report.record
      ((scene.rejections events (scene.course events event count).store
        (scene.course events event count).waiting).map Round.turn)) ∧
      wider.scene.store = (scene.course events event count).store ∧
      wider.output = (scene.course events event count).output := by
  obtain ⟨-, halt, store, output⟩ := follows.of_limits
  generalize whole : (scene.course events event count).waiting = waiting at refused shallow
  have waits : (scene.course events event count).waiting = waiting ++ [] := by rw [whole, List.append_nil]
  have passed := course_rejecting waits refused
  have empty := congrArg Course.waiting passed
  have last : later = count + waiting.length := by
    refine Nat.le_antisymm (follows.le_of_nil empty) ?_
    rcases waiting.eq_nil_or_concat with rfl | ⟨front, pending, rfl⟩
    · exact begun
    · rw [List.concat_eq_append] at whole refused shallow ⊢
      have before := follows.outlasts (whole ▸ shallow) few begun whole
        (List.forall_mem_append.mp refused).1 (List.cons_ne_nil pending [])
      rw [List.length_append, List.length_singleton]
      omega
  subst last
  rw [Course.halt?_of_nil empty] at halt
  rw [passed] at halt store output
  refine ⟨?_, store, output⟩
  rw [← Option.some.inj halt, Course.report, Course.turns, List.map_append, Report.record_append]
  rfl

end

end

section

variable {limits : Limits} {event : Event} {one other : Outcome} {count later : Nat}
  (follows : scene.Follows events event one count)
  (wider : Follows { scene with limits := limits } events event other later)
  (deep : limits.cascadeDepth = scene.limits.cascadeDepth) (more : scene.limits.events < limits.events)
include follows wider deep more

/-- Where a wider limit lets more events be delivered, the narrower one is met. -/
theorem Follows.overflows {whole : Report} (recorded : Report.ofResult? other.result = some whole)
    (beyond : scene.limits.events < whole.dispatched.size) :
    ∃ report, one.result = .error (.overflow scene.limits.events report) := by
  obtain ⟨going, halt, -⟩ := wider.of_limits
  obtain rfl : (scene.course events event later).report = whole :=
    Option.some.inj ((Course.halt?_record halt).symm.trans recorded)
  have order := follows.le_of_wider deep.ge more.le wider
  have before : count < later := by
    refine lt_of_le_of_ne order fun same => ?_
    subst same
    have within := (course_within follows.going).1
    omega
  obtain ⟨waits, shallow, -⟩ := Course.halt?_eq_none_iff.mp (going count before)
  rw [deep] at shallow
  have enough : scene.limits.events ≤ (scene.course events event count).report.dispatched.size := by
    by_contra few
    have goes := Course.halt?_eq_none_iff.mpr ⟨waits, shallow, Nat.lt_of_not_le few⟩
    rw [follows.halt] at goes
    cases goes
  have cut := Course.halt?_overflow_iff.mpr ⟨rfl, rfl, waits, shallow, enough⟩
  rw [follows.halt] at cut
  exact ⟨_, Option.some.inj cut⟩

theorem Follows.overflowed {max : Nat} {report : Report}
    (cut : one.result = .error (.overflow max report)) :
    max = scene.limits.events ∧ report = (scene.course events event count).report ∧
      scene.Overflowed events (scene.course events event count) other := by
  have order := follows.le_of_wider deep.ge more.le wider
  obtain ⟨rfl, rfl, waits, shallow, enough⟩ := Course.halt?_overflow_iff.mp (cut ▸ follows.halt)
  have delivered := Nat.le_antisymm (course_within follows.going).1 enough
  have few : (scene.course events event count).report.dispatched.size < limits.events := by omega
  rw [← deep] at shallow
  refine ⟨rfl, rfl, waits, delivered, ⟨?_, ?_⟩, wider.rejects shallow few order⟩
  · rintro ⟨whole, recorded, beyond⟩
    by_contra refused
    push Not at refused
    obtain ⟨ended, -⟩ := wider.rejects shallow few order refused
    rw [ended] at recorded
    obtain rfl := Option.some.inj recorded
    rw [Report.record, dispatched_rejections] at beyond
    simp [delivered] at beyond
  · intro meets
    obtain ⟨whole, recorded, beyond⟩ := wider.delivers_more shallow few order meets
    exact ⟨whole, recorded, delivered ▸ beyond⟩

end

/-- A dispatch is cut for the number of its events if more would be delivered under a wider limit. But it may
be cut as well where no more would be: what decides is whether one of the events that wait meets its
contract, and the cut comes before that is looked at. -/
theorem dispatch_overflows (scene : Scene) (events : Registry Contract) (event : Event) (limits : Limits)
    (deep : limits.cascadeDepth = scene.limits.cascadeDepth) (more : scene.limits.events < limits.events) :
    (∀ whole,
      Report.ofResult? (Scene.dispatch { scene with limits := limits } events event).result = some whole →
      scene.limits.events < whole.dispatched.size →
      ∃ report, (scene.dispatch events event).result = .error (.overflow scene.limits.events report)) ∧
    ∀ max report, (scene.dispatch events event).result = .error (.overflow max report) →
      max = scene.limits.events ∧ ∃ count, scene.Follows events event (scene.dispatch events event) count ∧
        report = (scene.course events event count).report ∧
        scene.Overflowed events (scene.course events event count)
          (Scene.dispatch { scene with limits := limits } events event) := by
  cases checked : scene.checkEvent events scene.store event with
  | error fault =>
    have checkedWider : Scene.checkEvent { scene with limits := limits } events scene.store event =
        .error fault := checked
    rw [dispatch, dispatch, checked, checkedWider]
    constructor
    · intro _ recorded
      cases recorded
    · intro _ _ cut
      cases cut
  | ok =>
    have checkedWider : Scene.checkEvent { scene with limits := limits } events scene.store event =
        .ok () := checked
    obtain ⟨count, follows⟩ := dispatch_follows checked
    obtain ⟨later, wider⟩ := dispatch_follows checkedWider
    refine ⟨fun whole => follows.overflows wider deep more, fun max report cut => ?_⟩
    obtain ⟨full, recorded, overflowed⟩ := follows.overflowed wider deep more cut
    exact ⟨full, count, follows, recorded, overflowed⟩

theorem hearth_overflows :
    let events : Registry Contract :=
      ⟨[⟨"spark", [], .basic .boolean⟩, ⟨"smoke", [], .basic .boolean⟩]⟩
    let spark : Event := ⟨"spark", [], .boolean true⟩
    let narrow : Scene := { hearth with limits := ⟨32, 1⟩ }
    let whole : Report := ⟨#[spark, ⟨"smoke", [], .boolean true⟩], 1, #[]⟩
    hearth.limits.cascadeDepth = narrow.limits.cascadeDepth ∧ narrow.limits.events < hearth.limits.events ∧
      Report.ofResult? (hearth.dispatch events spark).result = some whole ∧
      ∃ report, (narrow.dispatch events spark).result = .error (.overflow 1 report) ∧
        ∃ count, report = (narrow.course events spark count).report ∧
          narrow.Overflowed events (narrow.course events spark count) (hearth.dispatch events spark) := by
  obtain ⟨overflows, overflowed⟩ := dispatch_overflows { hearth with limits := ⟨32, 1⟩ }
    ⟨[⟨"spark", [], .basic .boolean⟩, ⟨"smoke", [], .basic .boolean⟩]⟩ ⟨"spark", [], .boolean true⟩
    hearth.limits rfl (by decide)
  obtain ⟨report, cut⟩ := overflows _ rfl (by decide)
  obtain ⟨-, count, -, recorded, overflowed⟩ := overflowed _ _ cut
  exact ⟨rfl, by decide, rfl, report, cut, count, recorded, overflowed⟩

/-- Where nobody knows what smoke is, the spark is all that a limit of one event has to let through, and the
dispatch is cut all the same. -/
theorem unknown_smoke_overflows :
    ¬ ∀ (scene : Scene) (events : Registry Contract) (event : Event) (limits : Limits) max report,
      (scene.dispatch events event).result = .error (.overflow max report) →
      limits.cascadeDepth = scene.limits.cascadeDepth → scene.limits.events < limits.events →
      ∃ whole, Report.ofResult? (Scene.dispatch { scene with limits := limits } events event).result =
        some whole ∧ scene.limits.events < whole.dispatched.size := by
  intro exact
  obtain ⟨whole, recorded, beyond⟩ := exact { hearth with limits := ⟨32, 1⟩ }
    ⟨[⟨"spark", [], .basic .boolean⟩]⟩ ⟨"spark", [], .boolean true⟩ hearth.limits 1
    ⟨#[⟨"spark", [], .boolean true⟩], 1, #[]⟩ rfl rfl (by decide)
  have all : Report.ofResult? (Scene.dispatch { hearth with limits := hearth.limits }
      ⟨[⟨"spark", [], .basic .boolean⟩]⟩ ⟨"spark", [], .boolean true⟩).result =
        some ⟨#[⟨"spark", [], .boolean true⟩], 1, #[.refused (.unregisteredEvent "smoke")]⟩ := rfl
  rw [all] at recorded
  obtain rfl := Option.some.inj recorded
  exact absurd beyond (by decide)

end Scene

end Stagecraft
