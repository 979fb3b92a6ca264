import Stagecraft.Proofs.Script.Accounts

/-!
Budgets: what a limit on steps guarantees of a run, and what it leaves alone. No loop outlasts the steps, and
a run under a budget is a run under any greater one, cut where its steps are spent.
-/

namespace Stagecraft.Script

/-! ### Loops -/

namespace Bindings

variable (bindings : Bindings)

def again (condition : Expr) (body : List Stmt) : Run Unit := do
  bindings.repeatWhile (bindings.holds condition) (bindings.execBlock body)
    (bindings.routine.limit - (← get).steps + 1)

theorem exec_loop (condition : Expr) (body : List Stmt) (span : Text.Span) :
    bindings.exec (.loop condition body span) = (do
      bindings.step
      bindings.again condition body) := rfl

end Bindings

/-! ### Two budgets -/

def Routine.within (routine : Routine) (budget : Nat) : Routine := { routine with budget := some budget }

def Bindings.within (bindings : Bindings) (budget : Nat) : Bindings :=
  { bindings with routine := bindings.routine.within budget }

def Run.CutOf {α : Type} (spent : Fault) (one other : Run α) : Prop :=
  ∀ progress, (one progress).CutOf spent (other progress)

namespace Run.CutOf

variable {α β : Type} {spent : Fault}

theorem refl (run : Run α) : run.CutOf spent run := fun progress => .refl (run progress)

theorem bind {one other : Run α} {next whole : α → Run β} (first : one.CutOf spent other)
    (second : ∀ result, (next result).CutOf spent (whole result)) :
    Run.CutOf spent (one >>= next) (other >>= whole) :=
  fun progress => (first progress).bind (fun outcome => second outcome.1 outcome.2)

end Run.CutOf

section

variable (bindings : Bindings) (budget : Nat)

mutual

theorem eval_within (locals : Keyed Value) : (expr : Expr) →
    (bindings.within budget).eval locals expr = bindings.eval locals expr
  | .literal _ _ | .var _ _ => rfl
  | .field base name span => by
    rw [Bindings.eval_field, Bindings.eval_field, eval_within locals base]
    rfl
  | .unary _ operand _ => by
    simp only [Bindings.eval, eval_within locals operand]
  | .binary _ left right _ => by
    simp only [Bindings.eval, eval_within locals left, eval_within locals right]
  | .call _ args _ => by
    simp only [Bindings.eval, evalAll_within locals args]
    rfl
  | .vector x y z _ => by
    simp only [Bindings.eval, eval_within locals x, eval_within locals y, eval_within locals z]
termination_by structural expr => expr

theorem evalAll_within (locals : Keyed Value) : (exprs : List Expr) →
    (bindings.within budget).evalAll locals exprs = bindings.evalAll locals exprs
  | [] => rfl
  | expr :: rest => by
    simp only [Bindings.evalAll, eval_within locals expr, evalAll_within locals rest]
termination_by structural exprs => exprs

end

theorem evalHere_within (expr : Expr) :
    (bindings.within budget).evalHere expr = bindings.evalHere expr := by
  funext progress
  exact congrArg (fun behavior : Behavior Fault Value => (liftM behavior : Run Value) progress)
    (eval_within bindings budget progress.locals expr)

theorem holds_within (condition : Expr) :
    (bindings.within budget).holds condition = bindings.holds condition := by
  rw [Bindings.holds, evalHere_within, Bindings.holds]

theorem assign_within (target : Place) (value : Value) :
    (bindings.within budget).assign target value = bindings.assign target value := rfl

theorem emit_within (event : String) (args : List Expr) :
    (bindings.within budget).emit event args = bindings.emit event args := by
  simp only [Bindings.emit, evalHere_within]
  rfl

end

section

variable (bindings : Bindings) {budget greater : Nat}

theorem step_cutOf (order : budget ≤ greater) :
    (bindings.within budget).step.CutOf (.budgetExceeded bindings.routine.name budget)
      (bindings.within greater).step := by
  intro progress
  rw [step_eq, step_eq]
  by_cases enough : budget ≤ progress.steps
  · rw [if_pos (show (bindings.within budget).routine.limit ≤ progress.steps from enough)]
    exact .cut _
  · rw [if_neg (show ¬ (bindings.within budget).routine.limit ≤ progress.steps from enough),
      if_neg (show ¬ (bindings.within greater).routine.limit ≤ progress.steps by
        exact fun further => enough (Nat.le_trans order further))]
    exact .refl _

/-- A loop of fewer rounds is one of more rounds, cut. -/
theorem repeatWhile_cutOf (order : budget ≤ greater) {condition : Run Bool} {body whole : Run Unit}
    (repeated : body.CutOf (.budgetExceeded bindings.routine.name budget) whole) {rounds more : Nat}
    (le : rounds ≤ more) :
    ((bindings.within budget).repeatWhile condition body rounds).CutOf
      (.budgetExceeded bindings.routine.name budget)
      ((bindings.within greater).repeatWhile condition whole more) := by
  induction rounds generalizing more with
  | zero => exact fun _ => .cut _
  | succ rounds ih =>
    cases more with
    | zero => cases le
    | succ more =>
      refine .bind (.refl _) (fun holds => ?_)
      cases holds with
      | false => exact .refl _
      | true =>
        exact .bind repeated (fun _ => .bind (step_cutOf bindings order)
          (fun _ => ih (Nat.le_of_succ_le_succ le)))

mutual

theorem exec_cutOf (order : budget ≤ greater) : (stmt : Stmt) →
    ((bindings.within budget).exec stmt).CutOf (.budgetExceeded bindings.routine.name budget)
      ((bindings.within greater).exec stmt)
  | .assign target value _ => by
    simp only [Bindings.exec, evalHere_within, assign_within]
    exact .bind (step_cutOf bindings order) (fun _ => .refl _)
  | .declare type name value _ => by
    simp only [Bindings.exec, evalHere_within]
    exact .bind (step_cutOf bindings order) (fun _ => .refl _)
  | .expr value => by
    simp only [Bindings.exec, evalHere_within]
    exact .bind (step_cutOf bindings order) (fun _ => .refl _)
  | .branch condition yes no _ => by
    simp only [Bindings.exec, evalHere_within]
    refine .bind (step_cutOf bindings order) (fun _ => .bind (.refl _) (fun _ => .bind (.refl _) ?_))
    intro holds
    cases holds with
    | false => exact execBlock_cutOf order no
    | true => exact execBlock_cutOf order yes
  | .loop condition body span => by
    rw [Bindings.exec_loop, Bindings.exec_loop]
    refine .bind (step_cutOf bindings order) (fun _ progress => ?_)
    -- A loop may go on for as many rounds as there are steps left, which are no more under the smaller budget.
    change ((bindings.within budget).repeatWhile _ _ (budget - progress.steps + 1) progress).CutOf _
      ((bindings.within greater).repeatWhile _ _ (greater - progress.steps + 1) progress)
    rw [holds_within, holds_within]
    exact repeatWhile_cutOf bindings order (execBlock_cutOf order body) (by omega) progress
  | .emit event args _ => by
    simp only [Bindings.exec, emit_within]
    exact .bind (step_cutOf bindings order) (fun _ => .refl _)
termination_by structural stmt => stmt

theorem execBlock_cutOf (order : budget ≤ greater) : (stmts : List Stmt) →
    ((bindings.within budget).execBlock stmts).CutOf (.budgetExceeded bindings.routine.name budget)
      ((bindings.within greater).execBlock stmts)
  | [] => .refl _
  | stmt :: rest => .bind (exec_cutOf order stmt) (fun _ => execBlock_cutOf order rest)
termination_by structural stmts => stmts

end

end

namespace Routine

variable (routine : Routine) {budget greater : Nat}

end Routine

end Stagecraft.Script
