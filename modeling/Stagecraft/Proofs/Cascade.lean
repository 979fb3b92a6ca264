import Stagecraft.Proofs.Generations

/-!
Cascades: the queue of a dispatch holds what is left of one generation, and behind it what was found of
the next. A dispatch that ends therefore gives the events of one generation after the other their turns.
-/

namespace Stagecraft

namespace Report

def record (report : Report) (turns : List Turn) : Report where
  dispatched := report.dispatched ++ (turns.flatMap Turn.dispatched).toArray
  invocations := report.invocations + (turns.flatMap Turn.handings).countP Handing.succeeded
  failures := report.failures ++ (turns.flatMap Turn.failures).toArray

theorem record_nil (report : Report) : report.record [] = report := by
  simp [record]

theorem record_append (report : Report) (first second : List Turn) :
    report.record (first ++ second) = (report.record first).record second := by
  simp [record, Nat.add_assoc]

theorem record_passed (report : Report) (event : Event) (fault : Fault) :
    report.record [.passed event fault] = report.fail (.refused fault) := by
  simp [record, fail, Turn.dispatched, Turn.handings, Turn.failures]

end Report

namespace Scene

variable (scene : Scene) (events : Registry Contract)

theorem deliverTo_eq (event : Event) (systems : List Enrolled) (store : Store)
    (output : Array Output) (report : Report) (followUps : List Event) :
    scene.deliverTo event systems ⟨store, output, report⟩ followUps =
      match scene.handAll ((systems.filter (fun enrolled =>
          enrolled.system.listensTo event.name)).map (event, ·)) store output with
      | (handings, store, output) =>
        (⟨store, output, { report with
          invocations := report.invocations + handings.countP Handing.succeeded
          failures := report.failures ++ (handings.flatMap Handing.failures).toArray }⟩,
        followUps ++ handings.flatMap Handing.followUps) := by
  induction systems generalizing store output report followUps with
  | nil => simp [deliverTo, handAll]
  | cons enrolled rest ih =>
    unfold deliverTo
    by_cases listens : enrolled.system.listensTo event.name = true
    · have kept : (enrolled :: rest).filter (fun enrolled => enrolled.system.listensTo event.name) =
          enrolled :: rest.filter (fun enrolled => enrolled.system.listensTo event.name) :=
        List.filter_cons_of_pos listens
      rw [if_pos listens, kept, List.map_cons, handAll]
      rcases scene.invoke enrolled event store output with ⟨failure | found, later, left⟩
      · dsimp only
        rw [ih]
        simp [Report.fail, Handing.succeeded, Handing.failures, Handing.followUps, Except.isOk,
          Except.toBool]
      · dsimp only
        rw [ih]
        simp only [Handing.failures, Handing.followUps, List.flatMap_cons, List.nil_append,
          List.append_assoc, Prod.mk.injEq, Progress.mk.injEq, Report.mk.injEq, true_and, and_true]
        rw [List.countP_cons_of_pos rfl, Nat.add_assoc, Nat.add_comm 1]
    · have dropped : (enrolled :: rest).filter (fun enrolled => enrolled.system.listensTo event.name) =
          rest.filter (fun enrolled => enrolled.system.listensTo event.name) :=
        List.filter_cons_of_neg listens
      rw [if_neg listens, dropped, ih]

theorem deliver_eq {event : Event} {store : Store} (output : Array Output) (report : Report)
    (accepted : scene.checkEvent events store event = .ok ()) :
    scene.deliver event ⟨store, output, report⟩ =
      match scene.takeTurn events event store output with
      | (turn, store, output) => (⟨store, output, report.record [turn]⟩, turn.followUps) := by
  unfold deliver takeTurn
  rw [deliverTo_eq, accepted]
  simp [Report.record, recipients, Turn.dispatched, Turn.handings, Turn.failures, Turn.followUps]

/-! ### The queue as a list -/

/-- Only the order of what waits counts, not how the queue keeps it. -/
theorem drain_congr {allowance : Nat} {queue other : Queue Pending} {progress : Progress}
    (same : queue.toList = other.toList) :
    scene.drain events allowance queue progress = scene.drain events allowance other progress := by
  induction allowance generalizing queue other progress with
  | zero =>
    have empty : queue.isEmpty = other.isEmpty := by
      rw [Bool.eq_iff_iff, Queue.isEmpty_iff, Queue.isEmpty_iff, same]
    unfold drain
    rw [empty]
  | succ allowance ih =>
    obtain ⟨store, output, report⟩ := progress
    have one := queue.next?_toList (scene.reject? events store) report
    have another := other.next?_toList (scene.reject? events store) report
    rw [same, ← another] at one
    unfold drain
    rcases first : queue.next? (scene.reject? events store) report with ⟨left, taken⟩
    rcases second : other.next? (scene.reject? events store) report with ⟨right, takenOther⟩
    rw [first, second] at one
    -- What is passed over and what is taken depends on the order alone.
    obtain ⟨sameReport, sameRest⟩ := Prod.mk.injEq _ _ _ _ ▸ one
    dsimp only at sameReport sameRest
    subst sameReport
    cases taken with
    | none =>
      cases takenOther with
      | none => rfl
      | some pair => simp at sameRest
    | some pair =>
      cases takenOther with
      | none => simp at sameRest
      | some pairOther =>
        obtain ⟨pending, rest⟩ := pair
        obtain ⟨pendingOther, restOther⟩ := pairOther
        obtain ⟨rfl, behind⟩ := List.cons.inj sameRest
        dsimp only
        split
        · apply ih
          rw [Queue.toList_append, Queue.toList_append, behind]
        · split
          · exact ih behind
          · rfl

def waiting (pending : List Pending) : Queue Pending := ⟨pending, []⟩

theorem drain_nil (allowance : Nat) (progress : Progress) :
    scene.drain events allowance (waiting []) progress = (.ok progress.report, progress) := by
  cases allowance <;> rfl

/-- A rejected event is put on record, and the next one is taken up. -/
theorem drain_rejected {allowance : Nat} {event : Event} {depth : Nat} {rest : List Pending}
    {store : Store} {output : Array Output} {report : Report} {fault : Fault}
    (refused : scene.checkEvent events store event = .error fault) :
    scene.drain events (allowance + 1) (waiting (⟨event, depth + 1⟩ :: rest))
        ⟨store, output, report⟩ =
      scene.drain events (allowance + 1) (waiting rest)
        ⟨store, output, report.fail (.refused fault)⟩ := by
  have passed : scene.reject? events store report ⟨event, depth + 1⟩ =
      some (report.fail (.refused fault)) := by
    simp [reject?, refused]
  have next : (waiting (⟨event, depth + 1⟩ :: rest)).next? (scene.reject? events store) report =
      (waiting rest).next? (scene.reject? events store) (report.fail (.refused fault)) := by
    simp only [Queue.next?, waiting, Queue.passList, passed]
  rw [drain, drain, next]

/-- An event that is not rejected has its turn, and what follows from it waits behind all others. -/
theorem drain_accepted {allowance : Nat} {event : Event} {depth : Nat} {rest : List Pending}
    {store : Store} {output : Array Output} {report : Report}
    (accepted : scene.checkEvent events store event = .ok ()) :
    scene.drain events (allowance + 1) (waiting (⟨event, depth⟩ :: rest)) ⟨store, output, report⟩ =
      match scene.takeTurn events event store output with
      | (turn, later, left) =>
        if depth < scene.limits.cascadeDepth then
          scene.drain events allowance (waiting (rest ++ turn.followUps.map (⟨·, depth + 1⟩)))
            ⟨later, left, report.record [turn]⟩
        else match turn.followUps with
          | [] => scene.drain events allowance (waiting rest) ⟨later, left, report.record [turn]⟩
          | first :: _ =>
            (.error (.tooDeep first.name scene.limits.cascadeDepth (report.record [turn])),
              ⟨later, left, report.record [turn]⟩) := by
  have kept : scene.reject? events store report ⟨event, depth⟩ = none := by
    simp [reject?, accepted]
  have next : (waiting (⟨event, depth⟩ :: rest)).next? (scene.reject? events store) report =
      (report, some (⟨event, depth⟩, waiting rest)) := by
    simp only [Queue.next?, waiting, Queue.passList, kept]
  rw [drain, next]
  dsimp only
  rw [deliver_eq scene events output report accepted]
  rcases scene.takeTurn events event store output with ⟨turn, later, left⟩
  dsimp only
  split
  · apply drain_congr
    rw [Queue.toList_append]
    simp [Queue.toList, waiting]
  · rfl

/-! ### One generation after the other -/

/-- What waits in the middle of a generation: what is left of it, and what was found of the next. -/
def pending (depth : Nat) (rest found : List Event) : List Pending :=
  rest.map (⟨·, depth⟩) ++ found.map (⟨·, depth + 1⟩)

def completed (rest found : List Event) (store : Store) (output : Array Output) : Generation :=
  match scene.takeTurns events rest store output with
  | (turns, store, output) => ⟨found ++ turns.flatMap Turn.followUps, store, output⟩

/-- A dispatch that ends from here on gives what is left its turns, and after it all generations that
follow, up to the first one that is empty. -/
def Ends (allowance depth : Nat) (rest found : List Event) : Prop :=
  ∀ store output report result progress,
    scene.drain events allowance (waiting (pending depth rest found)) ⟨store, output, report⟩ =
      (.ok result, progress) →
    ∃ count,
      scene.generations events (scene.completed events rest found store output) count =
        ⟨[], progress.store, progress.output⟩ ∧
      result = report.record ((scene.takeTurns events rest store output).1 ++
        scene.turnsIn events (scene.completed events rest found store output) count)

theorem ends_nil (allowance depth : Nat) : scene.Ends events allowance depth [] [] := by
  intro store output report result progress ended
  rw [show pending depth [] [] = [] from rfl, drain_nil] at ended
  cases ended
  exact ⟨0, rfl, (report.record_nil).symm⟩

theorem ends_zero (depth : Nat) (event : Event) (rest found : List Event) :
    scene.Ends events 0 depth (event :: rest) found := by
  intro store output report result progress ended
  cases ended

/-- Where nothing is left of a generation, the one that was found has its turn. -/
theorem ends_level {allowance depth : Nat} {found : List Event}
    (next : scene.Ends events allowance (depth + 1) found []) :
    scene.Ends events allowance depth [] found := by
  intro store output report result progress ended
  have same : pending depth [] found = pending (depth + 1) found [] := by simp [pending]
  rw [same] at ended
  obtain ⟨count, last, recorded⟩ := next store output report result progress ended
  refine ⟨count + 1, ?_, ?_⟩
  · rw [generations_succ]
    simpa [completed, takeTurns, following] using last
  · rw [turnsIn_succ]
    simpa [completed, takeTurns, following, turnsOf] using recorded

theorem takeTurns_cons {event : Event} {rest : List Event} {store later : Store}
    {output left : Array Output} {turn : Turn}
    (turned : scene.takeTurn events event store output = (turn, later, left)) :
    scene.takeTurns events (event :: rest) store output =
      match scene.takeTurns events rest later left with
      | (turns, store, output) => (turn :: turns, store, output) := by
  rw [takeTurns, turned]

theorem completed_cons {event : Event} {rest found : List Event} {store later : Store}
    {output left : Array Output} {turn : Turn}
    (turned : scene.takeTurn events event store output = (turn, later, left)) :
    scene.completed events (event :: rest) found store output =
      scene.completed events rest (found ++ turn.followUps) later left := by
  unfold completed
  rw [takeTurns_cons scene events turned]
  simp

/-- The first of what is left is rejected or has its turn. -/
theorem ends_cons {allowance depth : Nat} {event : Event} {rest found : List Event}
    (delivered : ∀ more, scene.Ends events allowance (depth + 1) rest more)
    (passed : scene.Ends events (allowance + 1) (depth + 1) rest found) :
    scene.Ends events (allowance + 1) (depth + 1) (event :: rest) found := by
  intro store output report result progress ended
  rcases turned : scene.takeTurn events event store output with ⟨turn, later, left⟩
  rw [completed_cons scene events turned, takeTurns_cons scene events turned]
  -- Whichever way the turn went, the rest ends from what the turn left behind.
  suffices remaining : ∃ count,
      scene.generations events (scene.completed events rest (found ++ turn.followUps) later left)
        count = ⟨[], progress.store, progress.output⟩ ∧
      result = (report.record [turn]).record ((scene.takeTurns events rest later left).1 ++
        scene.turnsIn events (scene.completed events rest (found ++ turn.followUps) later left)
          count) by
    obtain ⟨count, last, recorded⟩ := remaining
    refine ⟨count, last, ?_⟩
    rw [recorded, ← Report.record_append]
    rfl
  have first : pending (depth + 1) (event :: rest) found =
      ⟨event, depth + 1⟩ :: pending (depth + 1) rest found := rfl
  rw [first] at ended
  cases checked : scene.checkEvent events store event with
  | error fault =>
    rw [takeTurn, checked] at turned
    cases turned
    rw [drain_rejected scene events checked] at ended
    rw [Report.record_passed, show found ++ (Turn.passed event fault).followUps = found from
      List.append_nil found]
    exact passed store output _ result progress ended
  | ok =>
    rw [drain_accepted scene events checked, turned] at ended
    dsimp only at ended
    split at ended
    · have behind : pending (depth + 1) rest found ++ turn.followUps.map (⟨·, depth + 1 + 1⟩) =
          pending (depth + 1) rest (found ++ turn.followUps) := by
        simp [pending]
      rw [behind] at ended
      exact delivered _ later left _ result progress ended
    · split at ended
      · next nothing =>
        rw [nothing, List.append_nil]
        exact delivered _ later left _ result progress ended
      · cases ended

theorem ends (allowance depth : Nat) (rest found : List Event) :
    scene.Ends events allowance (depth + 1) rest found := by
  -- A rejected event costs no allowance, so there is a second induction, on what is left.
  induction allowance generalizing depth rest found with
  | zero =>
    cases rest with
    | cons event rest => exact ends_zero scene events _ event rest found
    | nil =>
      apply ends_level
      cases found with
      | cons event rest => exact ends_zero scene events _ event rest []
      | nil => exact ends_nil scene events 0 _
  | succ allowance ih =>
    have alone (depth : Nat) (rest : List Event) :
        scene.Ends events (allowance + 1) (depth + 1) rest [] := by
      induction rest with
      | nil => exact ends_nil scene events _ _
      | cons event rest tail => exact ends_cons scene events (ih depth rest) tail
    induction rest with
    | nil => exact ends_level scene events (alone (depth + 1) found)
    | cons event rest tail => exact ends_cons scene events (ih depth rest) tail

/-- The sent event is not looked at a second time, but it would be accepted. -/
theorem drain_sent {allowance : Nat} {event : Event} {result : Report} {progress : Progress}
    (accepted : scene.checkEvent events scene.store event = .ok ())
    (ended : scene.drain events allowance (.singleton ⟨event, 0⟩) ⟨scene.store, #[], .empty⟩ =
      (.ok result, progress)) :
    ∃ count,
      scene.generations events (scene.sent event) count = ⟨[], progress.store, progress.output⟩ ∧
      result = Report.empty.record (scene.turnsIn events (scene.sent event) count) := by
  cases allowance with
  | zero => cases ended
  | succ allowance =>
    change scene.drain events (allowance + 1) (waiting [⟨event, 0⟩]) _ = _ at ended
    rcases turned : scene.takeTurn events event scene.store #[] with ⟨turn, later, left⟩
    rw [drain_accepted scene events accepted, turned] at ended
    dsimp only at ended
    have remaining : scene.drain events allowance (waiting (pending 1 turn.followUps []))
        ⟨later, left, Report.empty.record [turn]⟩ = (.ok result, progress) := by
      split at ended
      · rw [pending, List.map_nil, List.append_nil]
        exact ended
      · split at ended
        · next nothing =>
          rw [nothing]
          exact ended
        · cases ended
    obtain ⟨count, last, recorded⟩ := ends scene events allowance 0 turn.followUps [] _ _ _ _ _ remaining
    have turns : scene.turnsOf events (scene.sent event) = [turn] := by
      rw [turnsOf, sent, takeTurns_cons scene events turned]
      rfl
    have next : scene.following events (scene.sent event) = ⟨turn.followUps, later, left⟩ := by
      rw [following, sent, takeTurns_cons scene events turned]
      simp [takeTurns]
    have afterNext : scene.completed events turn.followUps [] later left =
        scene.following events ⟨turn.followUps, later, left⟩ := by
      simp [completed, following]
    rw [afterNext] at last recorded
    refine ⟨count + 2, ?_, ?_⟩
    · rw [generations_succ, generations_succ, next]
      exact last
    · rw [turnsIn_succ, turnsIn_succ, turns, next, Report.record_append]
      exact recorded

/-- A dispatch and its report tell what the generations of the sent event tell, up to one from which on all
are empty. -/
structure Unfolds (event : Event) (outcome : Outcome) (report : Report) (count : Nat) : Prop where
  /-- No further generation has events, and none changes the store or the output. -/
  last : ∀ k, count ≤ k → scene.generations events (scene.sent event) k =
    ⟨[], outcome.scene.store, outcome.output⟩
  dispatched : report.dispatched.toList =
    (scene.turnsIn events (scene.sent event) count).flatMap Turn.dispatched
  failures : report.failures.toList =
    (scene.turnsIn events (scene.sent event) count).flatMap Turn.failures
  invocations : report.invocations =
    ((scene.turnsIn events (scene.sent event) count).flatMap Turn.handings).countP Handing.succeeded
  /-- Each dispatched event is handed to each system that listens to it, and to no other. -/
  handed : ((scene.turnsIn events (scene.sent event) count).flatMap Turn.handings).map
    (fun handing => (handing.event, handing.enrolled)) =
      report.dispatched.toList.flatMap scene.recipients
  /-- These handings, one after the other, are all that changes the store and the output. -/
  replayed : scene.handAll (report.dispatched.toList.flatMap scene.recipients) scene.store #[] =
    ((scene.turnsIn events (scene.sent event) count).flatMap Turn.handings, outcome.scene.store,
      outcome.output)
  scene : outcome.scene = { scene with store := outcome.scene.store }

/-- A dispatch that comes to its end gives the generations of the sent event their turns. -/
theorem dispatch_unfolds (scene : Scene) (events : Registry Contract) (event : Event)
    (report : Report) (ended : (scene.dispatch events event).result = .ok report) :
    ∃ count, scene.Unfolds events event (scene.dispatch events event) report count := by
  cases accepted : scene.checkEvent events scene.store event with
  | error fault =>
    rw [dispatch, accepted] at ended
    cases ended
  | ok =>
    rcases drained : scene.drain events scene.limits.events (.singleton ⟨event, 0⟩)
      ⟨scene.store, #[], .empty⟩ with ⟨result, progress⟩
    have outcome : scene.dispatch events event =
        ⟨result, { scene with store := progress.store }, progress.output⟩ := by
      rw [dispatch, accepted, drained]
    rw [outcome] at ended ⊢
    cases ended
    obtain ⟨count, last, recorded⟩ := drain_sent scene events accepted drained
    have handed := scene.turnsIn_handed events (scene.sent event) count
    rw [last] at handed
    have dispatched : report.dispatched.toList =
        (scene.turnsIn events (scene.sent event) count).flatMap Turn.dispatched := by
      rw [recorded]
      simp [Report.record, Report.empty]
    refine ⟨count, ?_, dispatched, ?_, ?_, ?_, ?_, rfl⟩
    · exact fun k later => scene.generations_of_empty events last later
    · rw [recorded]
      simp [Report.record, Report.empty]
    · rw [recorded]
      simp [Report.record, Report.empty]
    · have pairs := scene.handAll_pairs
        (report.dispatched.toList.flatMap scene.recipients) scene.store #[]
      rw [dispatched] at pairs ⊢
      rw [← pairs]
      exact congrArg (fun outcome => outcome.1.map
        (fun handing => (handing.event, handing.enrolled))) handed.symm
    · rw [dispatched]
      exact handed

def hearth : Scene :=
  ⟨"hearth", .standard, .empty 1, .empty, [], [],
    [⟨⟨"kindle", [], some ⟨"spark", [], .basic .boolean⟩,
      fun bound => .done [⟨"smoke", [], bound.event.payload⟩]⟩, []⟩]⟩

theorem hearth_unfolds :
    let events : Registry Contract :=
      ⟨[⟨"spark", [], .basic .boolean⟩, ⟨"smoke", [], .basic .boolean⟩]⟩
    let spark : Event := ⟨"spark", [], .boolean true⟩
    let report : Report := ⟨#[spark, ⟨"smoke", [], .boolean true⟩], 1, #[]⟩
    (hearth.dispatch events spark).result = .ok report ∧
      ∃ count, hearth.Unfolds events spark (hearth.dispatch events spark) report count :=
  ⟨rfl, dispatch_unfolds hearth _ _ _ rfl⟩

end Scene

end Stagecraft
