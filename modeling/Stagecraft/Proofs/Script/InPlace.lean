import Stagecraft.Proofs.Entries
import Stagecraft.Proofs.Script.Lens
import Stagecraft.Proofs.Script.Odometer

/-!
Bodies in place: a body that changes what it has in hand does what a run does that hands its progress on. They
end alike and leave the same view and the same output. Where a run fails its progress is lost; in place it is
still there.
-/

namespace Stagecraft

namespace Keyed

variable {α : Type} {name : String} {value kept : α} {entries : Keyed α}

theorem lookup_eq_none_of_lt (before : ∀ entry ∈ entries, name < entry.1) : entries.lookup name = none := by
  rw [List.lookup_eq_none_iff]
  intro entry member
  exact bne_iff_ne.mpr (ne_of_lt (before entry member))

theorem insert_eq_replace (sorted : Sorted entries) (found : entries.lookup name = some kept) :
    insert name value entries = replace name value entries := by
  induction entries with
  | nil => cases found
  | cons entry rest ih =>
    obtain ⟨other, first⟩ := entry
    obtain ⟨least, others⟩ := List.pairwise_cons.mp sorted
    rw [List.lookup_cons] at found
    unfold insert replace
    by_cases same : name = other
    · rw [if_pos same, if_pos same, same]
    · rw [beq_eq_false_iff_ne.mpr same] at found
      have notLess : ¬ name < other := by
        intro less
        rw [lookup_eq_none_of_lt (fun entry member => lt_trans less (least entry member))] at found
        cases found
      rw [if_neg same, if_neg same, if_neg notLess, ih others found]

end Keyed

namespace Script

variable {α β : Type}

namespace Deed

theorem bind_apply (deed : Deed α) (next : α → Deed β) (holding : Holding) :
    (deed >>= next) holding = match deed holding with
      | (.ok result, later) => next result later
      | (.error fault, later) => (.error fault, later) := by
  have unfolded : (deed >>= next) holding = ExceptT.bindCont next (deed holding).1 (deed holding).2 := rfl
  rw [unfolded]
  rcases deed holding with ⟨fault | result, later⟩ <;> rfl

def Does (deed : Deed α) (run : Run α) : Prop :=
  ∀ holding : Holding, Keyed.Sorted holding.progress.locals →
    Keyed.Sorted (deed holding).2.progress.locals ∧
      (run holding.progress).run holding.situation =
        ((deed holding).1.map (fun result => (result, (deed holding).2.progress)), (deed holding).2.situation)

namespace Does

theorem pure (result : α) : Does (Pure.pure result) (Pure.pure result) := fun _ sorted => ⟨sorted, rfl⟩

theorem fail (fault : Fault) : Does (throw fault : Deed α) (Run.fail fault) := fun _ sorted => ⟨sorted, rfl⟩

theorem bind {deed : Deed α} {run : Run α} {next : α → Deed β} {others : α → Run β} (first : deed.Does run)
    (second : ∀ result, (next result).Does (others result)) : (deed >>= next).Does (run >>= others) := by
  intro holding sorted
  obtain ⟨kept, ran⟩ := first holding sorted
  change Keyed.Sorted ((deed >>= next) holding).2.progress.locals ∧
    ((run holding.progress).bind (fun outcome => others outcome.1 outcome.2)).run holding.situation = _
  rw [Behavior.run_bind, ran, bind_apply]
  cases acted : deed holding with
  | mk outcome later =>
    rw [acted] at kept
    cases outcome with
    | error fault => exact ⟨kept, rfl⟩
    | ok result => exact second result later kept

theorem get {next : Holding → Deed β} {others : Progress → Run β}
    (same : ∀ holding, (next holding).Does (others holding.progress)) :
    Does (MonadState.get >>= next) (MonadState.get >>= others) :=
  fun holding sorted => same holding holding sorted

theorem ask (behavior : Behavior Fault α) : (Deed.ask behavior).Does (liftM behavior) := by
  intro holding sorted
  refine ⟨sorted, ?_⟩
  change (behavior.bind (fun result => .done (result, holding.progress))).run holding.situation = _
  rw [Behavior.run_bind, Deed.ask]
  cases behavior.run holding.situation with
  | mk outcome later => cases outcome <;> rfl

theorem changeLocals {change : Keyed Value → Keyed Value}
    (keeps : ∀ locals, Keyed.Sorted locals → Keyed.Sorted (change locals)) :
    (Deed.changeLocals change).Does
      (modify fun progress => { progress with locals := change progress.locals }) :=
  fun holding sorted => ⟨keeps holding.progress.locals sorted, rfl⟩

theorem forM {deed : β → Deed Unit} {run : β → Run Unit} (each : ∀ member, (deed member).Does (run member))
    (members : List β) : Does (members.forM deed) (members.forM run) := by
  induction members with
  | nil => exact .pure ()
  | cons member rest ih => exact .bind (each member) (fun _ => ih)

end Does

end Deed

section

variable (bindings : Bindings)

theorem Deed.step_apply (holding : Holding) : Deed.step bindings holding =
    if bindings.routine.limit ≤ holding.progress.steps then
      (.error (.budgetExceeded bindings.routine.name bindings.routine.limit), holding)
    else (.ok (), { holding with progress.steps := holding.progress.steps + 1 }) := by
  change (if bindings.routine.limit ≤ holding.progress.steps then _ else _ : Deed Unit) holding = _
  split <;> rfl

theorem step_does : (Deed.step bindings).Does bindings.step := by
  intro holding sorted
  rw [step_eq, Deed.step_apply]
  split <;> exact ⟨sorted, rfl⟩

theorem eval_does (expr : Expr) : (Deed.eval bindings expr).Does (bindings.evalHere expr) :=
  .get (fun _ => .ask _)

theorem holds_does (condition : Expr) : (Deed.holds bindings condition).Does (bindings.holds condition) :=
  .bind (eval_does bindings condition) (fun _ => .ask _)

theorem Deed.assignLocal_apply (target : Place) (value : Value) (holding : Holding) :
    Deed.assignLocal bindings target value holding = match holding.progress.locals.lookup target.root with
      | some slot =>
        let assigned := assignPath target.render value target.path slot
        (assigned.1, { holding with
          progress.locals := Keyed.replace target.root assigned.2 holding.progress.locals })
      | none =>
        if target.path.isEmpty then
          (.ok (), { holding with progress.locals := Keyed.insert target.root value holding.progress.locals })
        else (.error (.unknownVariable target.root bindings.routine.name), holding) := by
  change (match holding.progress.locals.lookup target.root with | some slot => _ | none => _ : Deed Unit)
    holding = _
  cases holding.progress.locals.lookup target.root with
  | none =>
    dsimp only
    split <;> rfl
  | some slot =>
    dsimp only
    cases (assignPath target.render value target.path slot).1 <;> rfl

theorem assignLocal_does {target : Place} (free : bindings.entity? target.root = none) (value : Value) :
    (Deed.assignLocal bindings target value).Does (bindings.assign target value) := by
  intro holding sorted
  have unbound : bindings.assign target value holding.progress =
      (match holding.progress.locals.lookup target.root with
      | some slot => do
        let slot ← Behavior.ofExcept (setPath target.render value target.path slot)
        Bindings.setLocal target.root slot
      | none =>
        if target.path.isEmpty then Bindings.setLocal target.root value
        else Run.fail (.unknownVariable target.root bindings.routine.name) : Run Unit) holding.progress := by
    unfold Bindings.assign
    rw [free]
    rfl
  rw [unbound, Deed.assignLocal_apply]
  cases found : holding.progress.locals.lookup target.root with
  | none =>
    dsimp only
    split
    · exact ⟨Keyed.insert_sorted _ _ sorted, rfl⟩
    · exact ⟨sorted, rfl⟩
  | some slot =>
    dsimp only
    rw [setPath_eq]
    cases ended : (assignPath target.render value target.path slot).1 with
    | ok =>
      rw [← Keyed.insert_eq_replace sorted found]
      exact ⟨Keyed.insert_sorted _ _ sorted, rfl⟩
    | error fault =>
      have failed : (assignPath target.render value target.path slot).1 ≠ .ok () := by simp [ended]
      rw [assignPath_failed failed, replace_self found]
      exact ⟨sorted, rfl⟩

theorem liftM_bind (behavior : Behavior Fault α) (next : α → Behavior Fault β) :
    (liftM (behavior >>= next) : Run β) = liftM behavior >>= fun result => liftM (next result) := by
  funext progress
  change (behavior.bind next).bind _ = (behavior.bind _).bind _
  rw [Behavior.bind_assoc, Behavior.bind_assoc]
  rfl

/-- A value that is assigned to in a copy and written back is changed as a whole. -/
theorem assignComponent_does (assignment : Assignment) :
    (Deed.assignComponent bindings assignment).Does (liftM (bindings.routine.changeComponent assignment.entity
      assignment.component (setPath assignment.target assignment.value assignment.path))) := by
  unfold Deed.assignComponent Routine.changeComponent
  rw [liftM_bind]
  apply Deed.Does.bind (.ask _)
  intro id
  rw [liftM_bind]
  apply Deed.Does.bind (.ask _)
  intro held
  cases held with
  | none => exact .fail _
  | some current =>
    dsimp only
    rw [setPath_eq]
    rcases assignPath assignment.target assignment.value assignment.path current with ⟨outcome, changed⟩
    cases outcome with
    | error fault => exact .fail fault
    | ok =>
      change Deed.Does _ (liftM (Behavior.write assignment.entity id changed >>= _ : Behavior Fault Unit))
      rw [liftM_bind]
      apply Deed.Does.bind (.ask _)
      intro written
      cases written with
      | error fault => exact .fail _
      | ok => exact fun _ sorted => ⟨sorted, rfl⟩

theorem assign_does (target : Place) (value : Value) :
    (Deed.assign bindings target value).Does (bindings.assign target value) := by
  cases bound : bindings.entity? target.root with
  | none =>
    have apart := assignLocal_does bindings bound value
    unfold Deed.assign
    rw [bound]
    exact apart
  | some entity =>
    unfold Deed.assign Bindings.assign
    rw [bound]
    cases target.path with
    | nil => exact .fail _
    | cons component path => exact assignComponent_does bindings _

theorem emit_does (event : String) (args : List Expr) :
    (Deed.emit bindings event args).Does (bindings.emit event args) := by
  have push (event : Event) : Deed.Does
      (modify fun holding => { holding with progress.emitted := holding.progress.emitted.push event })
      (modify fun progress => { progress with emitted := progress.emitted.push event }) :=
    fun _ sorted => ⟨sorted, rfl⟩
  unfold Deed.emit Bindings.emit
  dsimp only
  cases bindings.routine.events.find? event with
  | none => exact .fail _
  | some contract =>
    dsimp only
    cases (args.take contract.roles.length).mapM bindings.target? with
    | none => exact .fail _
    | some targets =>
      dsimp only
      cases args[contract.roles.length]? with
      | none => exact push ⟨event, targets, .empty⟩
      | some payload =>
        exact .bind (eval_does bindings payload) (fun _ => .bind (.ask _)
          (fun payload => push ⟨event, targets, payload⟩))

theorem repeatWhile_does {asked : Deed Bool} {condition : Run Bool} {repeated : Deed Unit} {body : Run Unit}
    (asks : asked.Does condition) (repeats : repeated.Does body) (rounds : Nat) :
    (Deed.repeatWhile bindings asked repeated rounds).Does (bindings.repeatWhile condition body rounds) := by
  induction rounds with
  | zero => exact .fail _
  | succ rounds ih =>
    apply Deed.Does.bind asks
    intro holds
    cases holds with
    | false => exact .pure ()
    | true => exact .bind repeats (fun _ => .bind (step_does bindings) (fun _ => ih))

mutual

theorem exec_does : (stmt : Stmt) → (Deed.exec bindings stmt).Does (bindings.exec stmt)
  | .assign target value _ =>
    .bind (step_does bindings) (fun _ => .bind (eval_does bindings value)
      (fun _ => assign_does bindings target _))
  | .declare _ name value _ =>
    .bind (step_does bindings) (fun _ => .bind (.ask _) (fun _ =>
      .bind (eval_does bindings value) (fun _ => .bind (.ask _) (fun held =>
        .changeLocals (fun _ => Keyed.insert_sorted name held)))))
  | .expr value =>
    .bind (step_does bindings) (fun _ => .bind (eval_does bindings value) (fun _ => .pure ()))
  | .branch condition yes no _ =>
    .bind (step_does bindings) (fun _ => .bind (eval_does bindings condition) (fun _ =>
      .bind (.ask _) (fun holds => by
        cases holds with
        | false => exact execBlock_does no
        | true => exact execBlock_does yes)))
  | .loop condition body _ =>
    .bind (step_does bindings) (fun _ => .get (fun _ =>
      repeatWhile_does bindings (holds_does bindings condition) (execBlock_does body) _))
  | .emit event args _ => .bind (step_does bindings) (fun _ => emit_does bindings event args)
termination_by structural stmt => stmt

theorem execBlock_does : (stmts : List Stmt) → (Deed.execBlock bindings stmts).Does (bindings.execBlock stmts)
  | [] => .pure ()
  | stmt :: rest => .bind (exec_does stmt) (fun _ => execBlock_does rest)
termination_by structural stmts => stmts

end

end

/-! ### Runs -/

namespace Routine

theorem runOn_does (routine : Routine) (event : Event) (tuple : List Entity) :
    (Deed.runOn routine event tuple).Does (routine.runOn event tuple) := by
  apply Deed.Does.bind (.changeLocals ?_) (fun _ => execBlock_does _ _)
  intro locals _
  split
  · exact List.pairwise_singleton _ _
  · exact .nil

theorem candidates_inhabited {routine : Routine} {params : List RoleDecl} {situation later : Situation}
    {lists : List (List Entity)}
    (searched : (routine.candidates params).run situation = (.ok (some lists), later)) : [] ∉ lists := by
  induction params generalizing situation lists with
  | nil =>
    cases searched
    exact List.not_mem_nil
  | cons param rest ih =>
    unfold candidates at searched
    obtain ⟨ids, asked, -, searched⟩ := Behavior.run_bind_inv searched
    obtain ⟨entities, matched, -, searched⟩ := Behavior.run_bind_inv searched
    split at searched
    · cases searched
    · next filled =>
      obtain ⟨others, found, behind, searched⟩ := Behavior.run_bind_inv searched
      cases others with
      | none => cases searched
      | some others =>
        cases searched
        rw [List.mem_cons, not_or]
        exact ⟨fun none => filled (by simp [← none]), ih behind⟩

/-- In place, a run comes to the same end, and leaves the same view and output. -/
theorem run_eq_perform (routine : Routine) (event : Event) (situation : Situation) :
    (routine.run event).run situation =
      ((Deed.perform routine event (.start situation)).1,
        (Deed.perform routine event (.start situation)).2.situation) := by
  unfold run Deed.perform
  rw [Deed.bind_apply, Deed.ask]
  change (Behavior.bind (routine.candidates routine.decl.params) _).run situation = _
  rw [Behavior.run_bind]
  dsimp only [Holding.start]
  cases searched : (routine.candidates routine.decl.params).run situation with
  | mk answer found =>
    cases answer with
    | error fault => rfl
    | ok lists =>
      cases lists with
      | none => rfl
      | some lists =>
        dsimp only
        rw [forEachTuple_eq, Deed.forEachChoice_eq _ (candidates_inhabited searched), Deed.bind_apply]
        have does := Deed.Does.forM (runOn_does routine event) (tuples lists)
        have ran := (does ⟨⟨[], #[], 0⟩, found, []⟩ .nil).2
        change (Behavior.bind ((tuples lists).forM (routine.runOn event) ⟨[], #[], 0⟩) _).run found = _
        rw [Behavior.run_bind, ran]
        cases (tuples lists).forM (Deed.runOn routine event) ⟨⟨[], #[], 0⟩, found, []⟩ with
        | mk outcome later => cases outcome <;> rfl

end Routine

end Script

end Stagecraft
