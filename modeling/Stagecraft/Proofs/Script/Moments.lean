import Stagecraft.Proofs.Script.Accounts

/-!
Moments: what a run has in hand before a statement or behind one, in branches and in every round of a loop.
Locals and emitted events change nowhere else. So what holds at every moment of a run holds at any point of
it, and it need not come to its end for that.
-/

namespace Stagecraft.Script

structure Moment where
  progress : Progress
  situation : Situation

section

variable {α β : Type}

def Run.Leads (run : Run α) (before : Moment) (result : α) (after : Moment) : Prop :=
  (run before.progress).run before.situation = (.ok (result, after.progress), after.situation)

theorem Run.Leads.of_pure {before after : Moment} {value result : α}
    (leads : Run.Leads (pure value) before result after) : result = value ∧ after = before := by
  obtain ⟨progress, situation⟩ := after
  obtain ⟨first, _⟩ := before
  cases leads
  exact ⟨rfl, rfl⟩

theorem Run.Leads.of_bind {run : Run α} {next : α → Run β} {before after : Moment} {result : β}
    (leads : Run.Leads (run >>= next) before result after) :
    ∃ value middle, run.Leads before value middle ∧ (next value).Leads middle result after := by
  change (Behavior.bind (run before.progress) (fun outcome => next outcome.1 outcome.2)).run _ = _ at leads
  rw [Behavior.run_bind] at leads
  split at leads
  · next outcome later ran => exact ⟨outcome.1, ⟨outcome.2, later⟩, ran, leads⟩
  · cases leads

theorem Run.Leads.of_lift {behavior : Behavior Fault α} {before after : Moment} {result : α}
    (leads : Run.Leads (liftM behavior) before result after) :
    behavior.run before.situation = (.ok result, after.situation) ∧ after.progress = before.progress := by
  change (behavior.bind (fun value => .done (value, before.progress))).run _ = _ at leads
  rw [Behavior.run_bind] at leads
  split at leads
  · next ran =>
    obtain ⟨same, situated⟩ := Prod.mk.inj leads
    obtain ⟨rfl, progressed⟩ := Prod.mk.inj (Except.ok.inj same)
    rw [← situated]
    exact ⟨ran, progressed.symm⟩
  · cases leads

theorem Run.Leads.of_attempt {attempt : Except Fault α} {before after : Moment} {result : α}
    (leads : Run.Leads (liftM (Behavior.ofExcept attempt)) before result after) :
    attempt = .ok result ∧ after = before := by
  cases attempt with
  | error fault => cases leads.of_lift.1
  | ok value =>
    obtain ⟨rfl, same⟩ : result = value ∧ after = before := Run.Leads.of_pure leads
    exact ⟨rfl, same⟩

theorem Run.Leads.of_modify {change : Progress → Progress} {before after : Moment}
    (leads : Run.Leads (modify change) before () after) :
    after = ⟨change before.progress, before.situation⟩ := by
  obtain ⟨_, _⟩ := after
  cases leads
  rfl

end

/-! ### Blocks -/

namespace Bindings

variable (bindings : Bindings)

inductive Rounds (condition : Expr) (body : List Stmt) : Moment → Moment → Prop
  | first {before entered : Moment} (holds : (bindings.holds condition).Leads before true entered) :
      Rounds condition body before entered
  | next {before asked done again entered : Moment}
      (holds : (bindings.holds condition).Leads before true asked)
      (round : (bindings.execBlock body).Leads asked () done) (step : bindings.step.Leads done () again)
      (later : Rounds condition body again entered) : Rounds condition body before entered

inductive Enters : Stmt → Moment → List Stmt → Moment → Prop
  | branch {condition : Expr} {yes no : List Stmt} {span : Text.Span} {before begun entered : Moment}
      {holds : Bool} (step : bindings.step.Leads before () begun)
      (chosen : (bindings.holds condition).Leads begun holds entered) :
      Enters (.branch condition yes no span) before (if holds then yes else no) entered
  | loop {condition : Expr} {body : List Stmt} {span : Text.Span} {before begun entered : Moment}
      (step : bindings.step.Leads before () begun) (round : bindings.Rounds condition body begun entered) :
      Enters (.loop condition body span) before body entered

/-- The moments that a block comes through from the one before it, whether it comes to its end or not. -/
inductive Visits : List Stmt → Moment → Moment → Prop
  | here (stmts : List Stmt) (moment : Moment) : Visits stmts moment moment
  | inside {stmt : Stmt} {rest block : List Stmt} {before entered moment : Moment}
      (enters : bindings.Enters stmt before block entered) (visits : Visits block entered moment) :
      Visits (stmt :: rest) before moment
  | behind {stmt : Stmt} {rest : List Stmt} {before after moment : Moment}
      (ended : (bindings.exec stmt).Leads before () after) (visits : Visits rest after moment) :
      Visits (stmt :: rest) before moment

end Bindings

/-! ### Runs -/

/-- The tuples with one member of each list, in the order in which a body runs for them. -/
def tuples : List (List Entity) → List (List Entity)
  | [] => [[]]
  | options :: rest => options.flatMap (fun entity => (tuples rest).map (entity :: ·))

theorem forEachTuple_eq (act : List Entity → Run Unit) (lists : List (List Entity)) (chosen : List Entity) :
    Routine.forEachTuple act lists chosen =
      (tuples lists).forM (fun tuple => act (chosen.reverse ++ tuple)) := by
  induction lists generalizing chosen with
  | nil =>
    rw [Routine.forEachTuple, tuples, List.forM_eq_forM, List.forM_cons, List.append_nil]
    exact (bind_pure (act chosen.reverse)).symm
  | cons options rest ih =>
    -- What was chosen stands in reverse, so the next entity comes in front of it and behind it in the tuple.
    have beginning (entity : Entity) : Routine.forEachTuple act rest (entity :: chosen) =
        ((tuples rest).map (entity :: ·)).forM (fun tuple => act (chosen.reverse ++ tuple)) := by
      rw [ih, List.forM_eq_forM, List.forM_map]
      simp only [List.reverse_cons, List.append_assoc, List.singleton_append]
    rw [Routine.forEachTuple, tuples]
    induction options with
    | nil => rfl
    | cons entity others behind =>
      rw [List.forM_eq_forM] at behind ⊢
      rw [List.forM_eq_forM, List.flatMap_cons, List.forM_append, List.forM_cons, beginning, behind]
      rfl

namespace Routine

variable (routine : Routine) (event : Event)

def given : Keyed Value :=
  match routine.decl.event.payload with
  | some payload => [(payload.name, event.payload)]
  | none => []

/-- The moments of a run: those of the body, for one tuple after the other. -/
inductive Visits (situation : Situation) : Moment → Prop
  | body {lists : List (List Entity)} {found : Situation} {earlier later : List (List Entity)}
      {tuple : List Entity} {last moment : Moment}
      (searched : (routine.candidates routine.decl.params).run situation = (.ok (some lists), found))
      (chosen : tuples lists = earlier ++ tuple :: later)
      (before : Run.Leads (earlier.forM (routine.runOn event)) ⟨⟨[], #[], 0⟩, found⟩ () last)
      (visits : (routine.bindings event tuple).Visits routine.decl.body
        ⟨{ last.progress with locals := routine.given event }, last.situation⟩ moment) :
      Visits situation moment

end Routine

end Stagecraft.Script
