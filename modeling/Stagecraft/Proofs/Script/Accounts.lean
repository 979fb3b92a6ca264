import Stagecraft.Proofs.Requests
import Stagecraft.Proofs.Script.Soundness

/-!
Accounts: what a run pays for what it does. Every statement and every completed round of a loop costs a step,
and is worth one effect at most: a component that is written, or an event that is emitted. So the steps of a
run bound everything that it does.
-/

namespace Stagecraft.Script

variable {α β : Type}

/-! ### What takes no step -/

def Fault.isOverspent : Fault → Bool
  | budgetExceeded _ _ => true
  | _ => false

theorem Fault.OfValues.not_overspent {fault : Fault} (ofValues : fault.OfValues) :
    fault.isOverspent = false := by
  cases fault with
  | budgetExceeded => exact ofValues.elim
  | _ => rfl

structure Spends (writes : Nat) (behavior : Behavior Fault α) : Prop where
  steps : ∀ {requests ending}, behavior.Takes requests ending → requests.count .step = 0
  writes : ∀ {requests ending}, behavior.Takes requests ending →
    requests.countP Request.isWrite ≤ writes
  fails : ∀ {requests fault}, behavior.Takes requests (.error fault) → fault.isOverspent = false

namespace Spends

variable {writes : Nat}

theorem pure (result : α) : Spends writes (Pure.pure result) where
  steps := by rintro _ _ ⟨⟩; rfl
  writes := by rintro _ _ ⟨⟩; exact Nat.zero_le writes
  fails := by rintro _ _ ⟨⟩

theorem fail {fault : Fault} (other : fault.isOverspent = false) :
    Spends writes (Behavior.fail fault : Behavior Fault α) where
  steps := by rintro _ _ ⟨⟩; rfl
  writes := by rintro _ _ ⟨⟩; exact Nat.zero_le writes
  fails := by rintro _ _ ⟨⟩; exact other

theorem bind {behavior : Behavior Fault α} {next : α → Behavior Fault β} {first second : Nat}
    (before : Spends first behavior) (after : ∀ result, Spends second (next result))
    (total : first + second ≤ writes) : Spends writes (behavior >>= next) where
  steps takes := by
    rcases Behavior.Takes.of_bind takes with ⟨_, _, result, rfl, ended, later⟩ | ⟨fault, -, failed⟩
    · rw [List.count_append, before.steps ended, (after result).steps later]
    · exact before.steps failed
  writes takes := by
    rcases Behavior.Takes.of_bind takes with ⟨_, _, result, rfl, ended, later⟩ | ⟨fault, -, failed⟩
    · rw [List.countP_append]
      exact Nat.le_trans (Nat.add_le_add (before.writes ended) ((after result).writes later)) total
    · exact Nat.le_trans (Nat.le_add_right_of_le (before.writes failed)) total
  fails takes := by
    rcases Behavior.Takes.of_bind takes with ⟨_, _, result, -, -, later⟩ | ⟨_, ⟨⟩, failed⟩
    · exact (after result).fails later
    · exact before.fails failed

theorem andThen {behavior : Behavior Fault α} {next : α → Behavior Fault β}
    (before : Spends 0 behavior) (after : ∀ result, Spends writes (next result)) :
    Spends writes (behavior >>= next) :=
  before.bind after (Nat.le_of_eq (Nat.zero_add writes))

theorem mapM {act : α → Behavior Fault β} (each : ∀ member, Spends 0 (act member)) (members : List α) :
    Spends 0 (members.mapM act) := by
  induction members with
  | nil => exact .pure []
  | cons member rest ih =>
    rw [List.mapM_cons]
    exact .andThen (each member) (fun _ => .andThen ih (fun _ => .pure _))

theorem ofExcept {attempt : Except Fault α}
    (refused : ∀ fault, attempt = .error fault → fault.isOverspent = false) :
    Spends 0 (Behavior.ofExcept attempt) := by
  cases attempt with
  | ok value => exact .pure value
  | error fault => exact .fail (refused fault rfl)

theorem ofValues {attempt : Except Fault α}
    (refused : ∀ fault, attempt = .error fault → fault.OfValues) :
    Spends 0 (Behavior.ofExcept attempt) :=
  .ofExcept (fun fault failed => (refused fault failed).not_overspent)

theorem ask (request : Request) (other : request ≠ .step) :
    Spends request.isWrite.toNat (Behavior.ask request .done : Behavior Fault request.Answer) where
  steps := by
    rintro _ _ ⟨⟩
    next takes =>
      cases takes
      exact List.count_eq_zero.mpr (by simpa using other.symm)
  writes := by
    rintro _ _ ⟨⟩
    next takes =>
      cases takes
      rw [List.countP_singleton]
      cases request.isWrite <;> decide
  fails := by
    rintro _ _ ⟨⟩
    next takes => cases takes

end Spends

section

variable {bindings : Bindings}

theorem componentId_spends (routine : Routine) (component : String) :
    Spends 0 (routine.componentId component) := by
  apply Spends.andThen (Spends.ask (.componentId component) nofun)
  intro answer
  cases answer with
  | some id => exact .pure id
  | none => exact .fail rfl

theorem readComponent_spends (routine : Routine) (entity : Entity) (component : String) :
    Spends 0 (routine.readComponent entity component) := by
  apply Spends.andThen (componentId_spends routine component)
  intro id
  apply Spends.andThen (Spends.ask (.value entity id) nofun)
  intro answer
  cases answer with
  | some value => exact .pure value
  | none => exact .fail rfl

theorem changeComponent_spends (routine : Routine) (entity : Entity) (component : String)
    {change : Value → Except Fault Value}
    (refused : ∀ value fault, change value = .error fault → fault.OfValues) :
    Spends 1 (routine.changeComponent entity component change) := by
  apply Spends.andThen (componentId_spends routine component)
  intro id
  apply Spends.andThen (Spends.ask (.value entity id) nofun)
  intro answer
  cases answer with
  | none => exact .fail rfl
  | some value =>
    apply Spends.andThen (.ofValues (refused value))
    intro changed
    have written : Spends 1 (Behavior.write entity id changed) :=
      Spends.ask (.write entity id changed) nofun
    refine written.bind (fun answer => ?_) (Nat.le_refl (1 + 0))
    cases answer with
    | ok => exact .pure ()
    | error fault => exact .fail rfl

theorem readLocal_spends (locals : Keyed Value) (name : String) :
    Spends 0 (Behavior.ofExcept (bindings.readLocal locals name)) := by
  apply Spends.ofExcept
  intro fault failed
  unfold Bindings.readLocal at failed
  repeat' split at failed
  all_goals
    cases failed
    try rfl

theorem callFunction_spends (keys : Keys) (system name : String) (args : List Value) :
    Spends 0 (callFunction keys system name args) := by
  unfold callFunction Builtin.call
  repeat' split
  · exact .andThen (.ask (.output _) nofun) (fun _ => .pure _)
  · exact .pure _
  · exact .fail rfl
  · exact .fail rfl

mutual

theorem eval_spends (locals : Keyed Value) : (expr : Expr) → Spends 0 (bindings.eval locals expr)
  | .literal value _ => .pure value
  | .var name _ => readLocal_spends locals name
  | .field base name span => by
    have part : Spends 0 (do
        let value ← bindings.eval locals base
        Behavior.ofExcept (fieldOf value name)) :=
      .andThen (eval_spends locals base) (fun _ => .ofValues (fun _ => fieldOf_ofValues))
    rw [Bindings.eval_field]
    dsimp only
    repeat' split
    · exact readComponent_spends _ _ name
    · exact part
    · exact part
  | .unary _ operand _ =>
    .andThen (eval_spends locals operand) (fun _ => .ofValues (fun _ => UnaryOp.apply_ofValues))
  | .binary _ left right _ =>
    .andThen (eval_spends locals left) (fun _ => .andThen (eval_spends locals right)
      (fun _ => .ofValues (fun _ => BinaryOp.apply_ofValues)))
  | .call name args _ =>
    .andThen (evalAll_spends locals args) (fun _ => callFunction_spends _ _ name _)
  | .vector x y z _ => by
    have component (value : Value) : Spends 0 (Behavior.ofExcept (Bindings.asComponent value)) :=
      .ofValues (fun _ => Bindings.asComponent_ofValues)
    exact .andThen (eval_spends locals x) (fun _ => .andThen (component _) (fun _ =>
      .andThen (eval_spends locals y) (fun _ => .andThen (component _) (fun _ =>
        .andThen (eval_spends locals z) (fun _ => .andThen (component _) (fun _ => .pure _))))))
termination_by structural expr => expr

theorem evalAll_spends (locals : Keyed Value) :
    (exprs : List Expr) → Spends 0 (bindings.evalAll locals exprs)
  | [] => .pure []
  | expr :: rest =>
    .andThen (eval_spends locals expr) (fun _ => .andThen (evalAll_spends locals rest) (fun _ => .pure _))
termination_by structural exprs => exprs

end

end

/-! ### What a run accounts for -/

/-- Where a part of a run ends with a result, its steps are on the count, and each of its effects was paid
for by a step, or with the credit that it was given. -/
structure Progress.Settles (limit credit rest : Nat) (earlier later : Progress)
    (requests : List Request) : Prop where
  steps : later.steps = earlier.steps + requests.count .step
  within : later.steps ≤ max limit earlier.steps
  grows : earlier.emitted.size ≤ later.emitted.size
  effects : requests.countP Request.isWrite + later.emitted.size + rest ≤
    earlier.emitted.size + requests.count .step + credit

/-- Where a part of a run fails, its steps are within the limit, each of its writes was paid for, and it
fails for lack of a budget where the limit is met. -/
structure Progress.Halts (limit credit : Nat) (earlier : Progress) (fault : Fault)
    (requests : List Request) : Prop where
  within : earlier.steps + requests.count .step ≤ max limit earlier.steps
  writes : requests.countP Request.isWrite ≤ requests.count .step + credit
  spent : fault.isOverspent = true → limit ≤ earlier.steps + requests.count .step

/-- A part of a run pays for what it does: with its steps, or with a credit, of which something may be
left. -/
structure Run.Pays (limit credit rest : Nat) (progress : Progress) (run : Run α) : Prop where
  settles : ∀ {requests result later}, (run progress).Takes requests (.ok (result, later)) →
    progress.Settles limit credit rest later requests
  halts : ∀ {requests fault}, (run progress).Takes requests (.error fault) →
    progress.Halts limit credit fault requests

namespace Run.Pays

variable {limit credit middle rest : Nat} {progress : Progress}

theorem bind {run : Run α} {next : α → Run β} (before : run.Pays limit credit middle progress)
    (after : ∀ requests result later, progress.Settles limit credit middle later requests →
      (next result).Pays limit middle rest later) :
    (run >>= next).Pays limit credit rest progress := by
  constructor
  · intro requests result last takes
    rcases Behavior.Takes.of_bind takes with ⟨_, _, ⟨value, later⟩, rfl, ended, others⟩ | ⟨_, ⟨⟩, -⟩
    have first := before.settles ended
    have second := (after _ value later first).settles others
    have steps := first.steps
    have effects := first.effects
    refine ⟨?_, ?_, Nat.le_trans first.grows second.grows, ?_⟩
    · rw [List.count_append, second.steps, steps, Nat.add_assoc]
    · have within := first.within
      have last := second.within
      omega
    · have last := second.effects
      rw [List.count_append, List.countP_append]
      omega
  · intro requests fault takes
    rcases Behavior.Takes.of_bind takes with ⟨_, _, ⟨value, later⟩, rfl, ended, others⟩ | ⟨_, ⟨⟩, failed⟩
    · have first := before.settles ended
      have second := (after _ value later first).halts others
      have steps := first.steps
      refine ⟨?_, ?_, ?_⟩
      · have within := first.within
        have last := second.within
        rw [List.count_append]
        omega
      · have effects := first.effects
        have grows := first.grows
        have last := second.writes
        rw [List.count_append, List.countP_append]
        omega
      · intro overspent
        have spent := second.spent overspent
        rw [List.count_append]
        omega
    · exact before.halts failed

theorem pure (result : α) : (Pure.pure result : Run α).Pays limit credit credit progress where
  settles := by
    rintro _ _ _ ⟨⟩
    exact ⟨rfl, Nat.le_max_right _ _, Nat.le_refl _, by simp⟩
  halts := by rintro _ _ ⟨⟩

theorem fail {fault : Fault} (other : fault.isOverspent = false) :
    (Run.fail fault : Run α).Pays limit credit rest progress where
  settles := by rintro _ _ _ ⟨⟩
  halts := by
    rintro _ _ ⟨⟩
    exact ⟨Nat.le_max_right _ _, Nat.zero_le _, by simp [other]⟩

theorem spare {run : Run α} (pays : run.Pays limit credit rest progress) {more less : Nat}
    (enough : less + credit ≤ more + rest) (greater : credit ≤ more) :
    run.Pays limit more less progress where
  settles takes := by
    have settles := pays.settles takes
    have effects := settles.effects
    exact ⟨settles.steps, settles.within, settles.grows, by omega⟩
  halts takes := by
    have halts := pays.halts takes
    have writes := halts.writes
    exact ⟨halts.within, by omega, halts.spent⟩

theorem lift (rest : Nat) {behavior : Behavior Fault α} {writes : Nat} (spends : Spends writes behavior) :
    Run.Pays limit (writes + rest) rest progress (liftM behavior) := by
  constructor
  · intro requests result later takes
    rcases Behavior.Takes.of_bind takes with ⟨first, _, _, rfl, ended, ⟨⟩⟩ | ⟨_, ⟨⟩, -⟩
    have steps := spends.steps ended
    have written := spends.writes ended
    rw [List.append_nil]
    exact ⟨by rw [steps]; rfl, Nat.le_max_right _ _, Nat.le_refl _, by omega⟩
  · intro requests fault takes
    rcases Behavior.Takes.of_bind takes with ⟨_, _, _, -, -, impossible⟩ | ⟨_, ⟨⟩, failed⟩
    · cases impossible
    · have steps := spends.steps failed
      have written := spends.writes failed
      have other := spends.fails failed
      exact ⟨by rw [steps]; exact Nat.le_max_right _ _, by omega, by simp [other]⟩

theorem idle {behavior : Behavior Fault α} (spends : Spends 0 behavior) :
    Run.Pays limit credit credit progress (liftM behavior) := by
  have pays : Run.Pays limit (0 + credit) credit progress (liftM behavior) := lift credit spends
  exact pays.spare (by omega) (by omega)

theorem get {next : Progress → Run α} (pays : (next progress).Pays limit credit rest progress) :
    Run.Pays limit credit rest progress (MonadState.get >>= next) :=
  ⟨pays.settles, pays.halts⟩

theorem setLocals (change : Progress → Keyed Value) :
    (modify fun progress => { progress with locals := change progress } : Run PUnit).Pays
      limit credit credit progress where
  settles := by
    rintro _ _ _ ⟨⟩
    exact ⟨rfl, Nat.le_max_right _ _, Nat.le_refl _, by simp⟩
  halts := by rintro _ _ ⟨⟩

end Run.Pays

section

variable {bindings : Bindings} {progress : Progress} {credit : Nat}

theorem step_eq (bindings : Bindings) (progress : Progress) :
    bindings.step progress =
      if bindings.routine.limit ≤ progress.steps then
        .fail (.budgetExceeded bindings.routine.name bindings.routine.limit)
      else .ask .step (fun _ => .done ((), { progress with steps := progress.steps + 1 })) := by
  unfold Bindings.step
  change (if bindings.routine.limit ≤ progress.steps then _ else _ : Run Unit) progress = _
  split <;> rfl

/-- A step pays for one effect. -/
theorem step_pays : bindings.step.Pays bindings.routine.limit 0 1 progress := by
  constructor
  · intro requests result later takes
    rw [step_eq] at takes
    split at takes
    · cases takes
    · next more =>
      cases takes with
      | ask _ takes =>
        cases takes
        refine ⟨rfl, ?_, Nat.le_refl _, ?_⟩
        · change progress.steps + 1 ≤ _
          omega
        · simp [Request.isWrite]
  · intro requests fault takes
    rw [step_eq] at takes
    split at takes
    · next enough =>
      cases takes
      exact ⟨Nat.le_max_right _ _, Nat.zero_le _, fun _ => enough⟩
    · cases takes with
      | ask _ takes => cases takes

theorem evalHere_pays (expr : Expr) :
    (bindings.evalHere expr).Pays bindings.routine.limit credit credit progress :=
  .get (.idle (eval_spends _ expr))

theorem push_pays (event : Event) :
    (modify fun progress : Progress => { progress with emitted := progress.emitted.push event } :
      Run PUnit).Pays bindings.routine.limit 1 0 progress where
  settles := by
    rintro _ _ _ ⟨⟩
    refine ⟨rfl, Nat.le_max_right _ _, ?_, ?_⟩
    · simp
    · simp
  halts := by rintro _ _ ⟨⟩

/-- An assignment has one effect at most: only a component is written. -/
theorem assign_pays (target : Place) (value : Value) :
    (bindings.assign target value).Pays bindings.routine.limit 1 0 progress := by
  unfold Bindings.assign
  split
  · split
    · exact .fail rfl
    · next entity _ _ component path _ =>
      have spends : Spends 1 (bindings.routine.changeComponent entity component
          (setPath target.render value path)) :=
        changeComponent_spends _ _ _ (fun _ _ => setPath_ofValues)
      exact .lift 0 spends
  · refine .spare (?_ : Run.Pays _ 0 0 _ _) (Nat.zero_le 1) (Nat.zero_le 1)
    apply Run.Pays.get
    split
    · exact .bind (.idle (.ofValues (fun _ => setPath_ofValues))) (fun _ _ _ _ => .setLocals _)
    · split
      · exact .setLocals _
      · exact .fail rfl

theorem emit_pays (event : String) (args : List Expr) :
    (bindings.emit event args).Pays bindings.routine.limit 1 0 progress := by
  unfold Bindings.emit
  dsimp only
  split
  · exact .fail rfl
  · next contract _ =>
    split
    · exact .fail rfl
    · next targets _ =>
      split
      · exact push_pays _
      · next payload _ =>
        refine .bind (evalHere_pays payload) (fun _ value _ _ => .bind ?_ (fun _ _ _ _ => push_pays _))
        exact .idle (.ofValues (fun _ => coerce_ofValues))

def Bindings.holds (bindings : Bindings) (condition : Expr) : Run Bool := do
  Behavior.ofExcept (Bindings.asCondition (← bindings.evalHere condition))

theorem holds_pays (condition : Expr) :
    (bindings.holds condition).Pays bindings.routine.limit credit credit progress :=
  .bind (evalHere_pays condition)
    (fun _ _ _ _ => .idle (.ofValues (fun _ => Bindings.asCondition_ofValues)))

theorem remaining_lt {limit rounds : Nat} {earlier asking doing later : Progress}
    {first second third : List Request} (one : earlier.Settles limit 0 0 asking first)
    (two : asking.Settles limit 0 0 doing second) (three : doing.Settles limit 0 1 later third)
    (enough : limit - earlier.steps < rounds + 1) : limit - later.steps < rounds := by
  have steps := one.steps
  have stepsBody := two.steps
  have stepsRound := three.steps
  have paid := three.effects
  have grows := three.grows
  have within := three.within
  omega

section

variable {condition : Run Bool} {body : Run Unit}
  (asked : ∀ progress, condition.Pays bindings.routine.limit 0 0 progress)
  (repeated : ∀ progress, body.Pays bindings.routine.limit 0 0 progress)
include asked repeated

/-- With more rounds than steps are left, it is never the rounds that run out. -/
theorem repeatWhile_pays {rounds : Nat} (enough : bindings.routine.limit - progress.steps < rounds) :
    (bindings.repeatWhile condition body rounds).Pays bindings.routine.limit 0 0 progress := by
  -- On the rounds. Each costs a step, so the steps that are left shrink with them, and `enough` goes on to hold.
  induction rounds generalizing progress with
  | zero => cases enough
  | succ rounds ih =>
    apply Run.Pays.bind (asked progress)
    intro _ holds asking one
    cases holds with
    | false => exact .pure ()
    | true =>
      refine .bind (repeated asking) (fun _ _ doing two => .bind step_pays (fun _ _ later three => ?_))
      exact (ih (remaining_lt one two three enough)).spare (Nat.zero_le _) (Nat.zero_le _)

end

variable (bindings)

mutual

/-- A statement begins with a step, and pays with it for its effect. -/
theorem exec_pays : (stmt : Stmt) → {progress : Progress} →
    (bindings.exec stmt).Pays bindings.routine.limit 0 0 progress
  | .assign target value _, _ =>
    .bind step_pays (fun _ _ _ _ => .bind (evalHere_pays value) (fun _ _ _ _ => assign_pays target _))
  | .declare type name value _, _ => by
    refine .bind step_pays (fun _ _ _ _ => .spare (?_ : Run.Pays _ 0 0 _ _) (Nat.zero_le _) (Nat.zero_le _))
    have resolved : Spends 0 (Behavior.ofExcept
        (resolve bindings.routine.components bindings.routine.source type)) := by
      refine .ofExcept (fun fault failed => ?_)
      obtain ⟨_, _, rfl⟩ := resolve_error failed
      rfl
    refine .bind (.idle resolved) (fun _ _ _ _ => ?_)
    exact .bind (evalHere_pays value) (fun _ _ _ _ =>
      .bind (.idle (.ofValues (fun _ => coerce_ofValues))) (fun _ _ _ _ => .setLocals _))
  | .expr value, _ =>
    .bind step_pays (fun _ _ _ _ => .spare
      (.bind (evalHere_pays value) (fun _ _ _ _ => .pure ()) : Run.Pays _ 0 0 _ _)
      (Nat.zero_le _) (Nat.zero_le _))
  | .branch condition yes no _, _ => by
    refine .bind step_pays (fun _ _ _ _ => .spare (?_ : Run.Pays _ 0 0 _ _) (Nat.zero_le _) (Nat.zero_le _))
    refine .bind (evalHere_pays condition) (fun _ _ _ _ =>
      .bind (.idle (.ofValues (fun _ => Bindings.asCondition_ofValues))) (fun _ holds _ _ => ?_))
    cases holds with
    | false => exact execBlock_pays no
    | true => exact execBlock_pays yes
  | .loop condition body _, _ =>
    .bind step_pays (fun _ _ _ _ => .spare
      (.get (repeatWhile_pays (fun _ => holds_pays condition) (fun _ => execBlock_pays body)
        (Nat.lt_succ_self _)) : Run.Pays _ 0 0 _ _)
      (Nat.zero_le _) (Nat.zero_le _))
  | .emit event args _, _ => .bind step_pays (fun _ _ _ _ => emit_pays event args)
termination_by structural stmt => stmt

theorem execBlock_pays : (stmts : List Stmt) → {progress : Progress} →
    (bindings.execBlock stmts).Pays bindings.routine.limit 0 0 progress
  | [], _ => .pure ()
  | stmt :: rest, _ => .bind (exec_pays stmt) (fun _ _ _ _ => execBlock_pays rest)
termination_by structural stmts => stmts

end

end

namespace Routine

variable {routine : Routine}

theorem candidates_spends (params : List RoleDecl) : Spends 0 (routine.candidates params) := by
  induction params with
  | nil => exact .pure (some [])
  | cons param rest ih =>
    refine .andThen (.mapM (componentId_spends routine) _) (fun ids => ?_)
    refine .andThen (.ask (.matching ids) nofun) (fun entities => ?_)
    split
    · exact .pure none
    · exact .andThen ih (fun _ => .pure _)

def perform (routine : Routine) (event : Event) : Run Unit := do
  match ← routine.candidates routine.decl.params with
  | none => return ()
  | some lists => forEachTuple (routine.runOn event) lists []

theorem run_eq (routine : Routine) (event : Event) :
    routine.run event =
      (routine.perform event ⟨[], #[], 0⟩).bind (fun outcome => .done outcome.2.emitted.toList) := by
  change _ = (((routine.candidates routine.decl.params).bind _).bind _).bind _
  rw [Behavior.bind_assoc, Behavior.bind_assoc]
  refine congrArg (Behavior.bind _) (funext fun answer => ?_)
  cases answer <;> rfl

end Routine

end Stagecraft.Script
