import Stagecraft.Proofs.Script.Accounts
import Stagecraft.Proofs.Script.Propriety
import Stagecraft.Proofs.Typing

/-!
Typing of bodies: what a script makes of typed values is typed. Literals and the results of operators have no
parts, a plain value fills an optional of its own schema, and a part of a value is replaced by one that was
brought into the schema of its place.
-/

namespace Stagecraft

theorem Keyed.mem_of_mem_insert {α : Type} {name : String} {value : α} {entries : Keyed α}
    {entry : String × α} (member : entry ∈ insert name value entries) :
    entry = (name, value) ∨ entry ∈ entries := by
  induction entries with
  | nil => exact .inl (List.mem_singleton.mp member)
  | cons first rest ih =>
    obtain ⟨other, kept⟩ := first
    unfold insert at member
    split at member
    · exact (List.mem_cons.mp member).imp_right (List.mem_cons_of_mem _)
    · split at member
      · exact List.mem_cons.mp member
      · rcases List.mem_cons.mp member with rfl | behind
        · exact .inr List.mem_cons_self
        · exact (ih behind).imp_right (List.mem_cons_of_mem _)

namespace Script

/-! ### Values -/

theorem coerce_typed {target : String} {value result : Value} {expected : Schema} (typed : value.Typed)
    (coerced : coerce target value expected = .ok result) : result.Typed := by
  unfold coerce at coerced
  split at coerced
  · cases coerced
    exact typed
  · split at coerced
    · split at coerced
      · cases coerced
        exact typed.filled
      · cases coerced
    · cases coerced

theorem fieldOf_typed {value part : Value} {name : String} (typed : value.Typed)
    (found : fieldOf value name = .ok part) : part.Typed := by
  unfold fieldOf at found
  split at found
  · next present =>
    cases found
    unfold partOf? at present
    split at present
    · exact typed.of_field present
    · obtain ⟨n, -, rfl⟩ := Option.map_eq_some_iff.mp present
      exact Value.typed_number n
    · cases present
  · cases found

theorem setPath_typed {target : String} {value : Value} (typed : value.Typed) {path : List String}
    {slot result : Value} (whole : slot.Typed) (replaced : setPath target value path slot = .ok result) :
    result.Typed := by
  induction path generalizing slot result with
  | nil => exact coerce_typed typed replaced
  | cons name path ih =>
    cases slot with
    | record fields =>
      simp only [setPath] at replaced
      split at replaced
      · next part found =>
        obtain ⟨replacement, assigned, same⟩ := bind_ok replaced
        cases same
        exact whole.replace found (ih (whole.of_field found) assigned)
      · cases replaced
    | vector v =>
      simp only [setPath] at replaced
      repeat' split at replaced
      all_goals cases replaced
      exact Value.typed_vector _
    | number | integer | text | boolean | optional => cases replaced

theorem literal_typed {value : Value} (written : literalTokens value ≠ []) : value.Typed := by
  cases value with
  | number n => exact Value.typed_number n
  | text s => exact Value.typed_text s
  | boolean b => exact Value.typed_boolean b
  | vector v => exact Value.typed_vector v
  | integer | record | optional => exact absurd rfl written

theorem UnaryOp.apply_typed {op : UnaryOp} {operand result : Value}
    (applied : op.apply operand = .ok result) : result.Typed := by
  unfold apply at applied
  split at applied <;> cases applied
  · exact Value.typed_number _
  · exact Value.typed_integer _
  · exact Value.typed_vector _
  · exact Value.typed_boolean _

namespace BinaryOp

variable {op : BinaryOp} {result : Value}

theorem typed_of_map {α : Type} {attempt : Except Fault α} {change : α → Value}
    (typed : ∀ found, (change found).Typed) (applied : attempt.map change = .ok result) :
    result.Typed := by
  cases attempt with
  | ok found =>
    cases applied
    exact typed found
  | error fault => cases applied

theorem typed_of_comparison {compared : Option Bool}
    (applied : compared.map (fun holds => Except.ok (Value.boolean holds)) =
      some (.ok result : Except Fault Value)) : result.Typed := by
  obtain ⟨holds, -, same⟩ := Option.map_eq_some_iff.mp applied
  cases same
  exact Value.typed_boolean holds

theorem onNumbers_typed {left right : Float} (applied : op.onNumbers left right = some (.ok result)) :
    result.Typed := by
  unfold onNumbers at applied
  split at applied
  · cases applied
    exact Value.typed_number _
  · cases applied
    exact Value.typed_number _
  · cases applied
    exact Value.typed_number _
  · exact typed_of_map Value.typed_number (Option.some.inj applied)
  · exact typed_of_comparison applied

theorem onTexts_typed {left right : String} (applied : op.onTexts left right = some (.ok result)) :
    result.Typed := by
  unfold onTexts at applied
  split at applied
  · cases applied
    exact Value.typed_text _
  · exact typed_of_comparison applied

theorem onVectors_typed {left right : Vector3} (applied : op.onVectors left right = some (.ok result)) :
    result.Typed := by
  unfold onVectors at applied
  split at applied
  · cases applied
    exact Value.typed_vector _
  · cases applied
    exact Value.typed_vector _
  · cases applied
    exact Value.typed_vector _
  · exact typed_of_map Value.typed_vector (Option.some.inj applied)
  · exact typed_of_comparison applied

theorem onBooleans_typed {left right : Bool} (applied : op.onBooleans left right = some (.ok result)) :
    result.Typed := by
  unfold onBooleans at applied
  split at applied
  · cases applied
    exact Value.typed_boolean _
  · cases applied
    exact Value.typed_boolean _
  · exact typed_of_comparison applied

theorem onIntegers_typed {left right : Int64} (applied : op.onIntegers left right = some (.ok result)) :
    result.Typed := by
  unfold onIntegers at applied
  split at applied
  · exact typed_of_map Value.typed_integer (Option.some.inj applied)
  · cases applied

theorem apply_typed {left right : Value} (applied : op.apply left right = .ok result) :
    result.Typed := by
  have defined {result? : Option (Except Fault Value)} {refusal : Fault}
      (typed : result? = some (.ok result) → result.Typed)
      (chosen : result?.getD (.error refusal) = .ok result) : result.Typed := by
    cases result? with
    | none => cases chosen
    | some found => exact typed (congrArg some chosen)
  unfold apply at applied
  refine defined (fun found => ?_) applied
  split at found
  · exact onNumbers_typed found
  · exact onTexts_typed found
  · exact onVectors_typed found
  · exact onBooleans_typed found
  · exact onIntegers_typed found
  · cases found

end BinaryOp

/-! ### Expressions -/

def LocalsTyped (locals : Keyed Value) : Prop := ∀ entry ∈ locals, entry.2.Typed

theorem LocalsTyped.lookup {locals : Keyed Value} (typed : LocalsTyped locals) {name : String}
    {value : Value} (found : locals.lookup name = some value) : value.Typed := by
  obtain ⟨before, after, same, -⟩ := List.lookup_eq_some_iff.mp found
  apply typed (name, value)
  rw [same]
  exact List.mem_append_right before List.mem_cons_self

section

variable {bindings : Bindings}

theorem componentId_keepsTyped (routine : Routine) (component : String) :
    (routine.componentId component).KeepsTyped (fun _ => True) := by
  apply Behavior.KeepsTyped.bind (Behavior.componentId_keepsTyped component)
  intro answer _
  cases answer with
  | some id => exact .pure trivial
  | none => exact .fail _

theorem readComponent_keepsTyped (routine : Routine) (entity : Entity) (component : String) :
    (routine.readComponent entity component).KeepsTyped Value.Typed := by
  apply Behavior.KeepsTyped.bind (componentId_keepsTyped routine component)
  intro id _
  apply Behavior.KeepsTyped.bind (Behavior.value_keepsTyped entity id)
  intro answer typed
  cases answer with
  | some value => exact .pure (typed value rfl)
  | none => exact .fail _

theorem changeComponent_keepsTyped (routine : Routine) (entity : Entity) (component : String)
    {change : Value → Except Fault Value}
    (kept : ∀ value changed, value.Typed → change value = .ok changed → changed.Typed) :
    (routine.changeComponent entity component change).KeepsTyped (fun _ => True) := by
  apply Behavior.KeepsTyped.bind (componentId_keepsTyped routine component)
  intro id _
  apply Behavior.KeepsTyped.bind (Behavior.value_keepsTyped entity id)
  intro answer typed
  cases answer with
  | none => exact .fail _
  | some value =>
    apply Behavior.KeepsTyped.bind (Behavior.KeepsTyped.ofExcept (kept value · (typed value rfl)))
    intro changed whole
    apply Behavior.KeepsTyped.bind (Behavior.write_keepsTyped entity id whole)
    intro written _
    cases written with
    | ok => exact .pure trivial
    | error fault => exact .fail _

theorem readLocal_typed {locals : Keyed Value} (typed : LocalsTyped locals) {name : String} {value : Value}
    (found : bindings.readLocal locals name = .ok value) : value.Typed := by
  unfold Bindings.readLocal at found
  split at found
  · cases found
  · split at found
    · next present =>
      cases found
      exact typed.lookup present
    · cases found

theorem callFunction_keepsTyped (keys : Keys) (system name : String) (args : List Value) :
    (callFunction keys system name args).KeepsTyped Value.Typed := by
  unfold callFunction Builtin.call
  repeat' split
  · exact .bind (Behavior.output_keepsTyped _) (fun _ _ => .pure Value.typed_empty)
  · exact .pure (Value.typed_boolean _)
  · exact .fail _
  · exact .fail _

mutual

theorem eval_keepsTyped {locals : Keyed Value} (typed : LocalsTyped locals) : (expr : Expr) → expr.Proper →
    (bindings.eval locals expr).KeepsTyped Value.Typed
  | .literal value _, proper => by
    rw [Expr.Proper] at proper
    exact .pure (literal_typed proper.1)
  | .var name _, _ => .ofExcept (fun _ => readLocal_typed typed)
  | .field base name span, proper => by
    rw [Expr.Proper] at proper
    have part : (do
        let value ← bindings.eval locals base
        Behavior.ofExcept (fieldOf value name)).KeepsTyped Value.Typed :=
      .bind (eval_keepsTyped typed base proper.1)
        (fun _ whole => .ofExcept (fun _ => fieldOf_typed whole))
    rw [Bindings.eval_field]
    dsimp only
    repeat' split
    · exact readComponent_keepsTyped _ _ name
    · exact part
    · exact part
  | .unary _ operand _, proper => by
    rw [Expr.Proper] at proper
    exact .bind (eval_keepsTyped typed operand proper)
      (fun _ _ => .ofExcept (fun _ => UnaryOp.apply_typed))
  | .binary _ left right _, proper => by
    rw [Expr.Proper] at proper
    exact .bind (eval_keepsTyped typed left proper.1) (fun _ _ =>
      .bind (eval_keepsTyped typed right proper.2) (fun _ _ =>
        .ofExcept (fun _ => BinaryOp.apply_typed)))
  | .call name args _, proper => by
    rw [Expr.Proper] at proper
    exact .bind (evalAll_keepsTyped typed args proper.2) (fun _ _ => callFunction_keepsTyped _ _ name _)
  | .vector x y z _, proper => by
    rw [Expr.Proper] at proper
    obtain ⟨-, first, second, third⟩ := proper
    have component (value : Value) :
        (Behavior.ofExcept (Bindings.asComponent value)).KeepsTyped (fun _ => True) :=
      .ofExcept (fun _ _ => trivial)
    exact .bind (eval_keepsTyped typed x first) (fun _ _ => .bind (component _) (fun _ _ =>
      .bind (eval_keepsTyped typed y second) (fun _ _ => .bind (component _) (fun _ _ =>
        .bind (eval_keepsTyped typed z third) (fun _ _ => .bind (component _) (fun _ _ =>
          .pure (Value.typed_vector _)))))))
termination_by structural expr => expr

theorem evalAll_keepsTyped {locals : Keyed Value} (typed : LocalsTyped locals) : (exprs : List Expr) →
    Expr.AllProper exprs → (bindings.evalAll locals exprs).KeepsTyped (fun _ => True)
  | [], _ => .pure trivial
  | expr :: rest, proper => by
    rw [Expr.AllProper] at proper
    exact .bind (eval_keepsTyped typed expr proper.1) (fun _ _ =>
      .bind (evalAll_keepsTyped typed rest proper.2) (fun _ _ => .pure trivial))
termination_by structural exprs => exprs

end

end

/-! ### Statements -/

structure Progress.Typed (progress : Progress) : Prop where
  locals : LocalsTyped progress.locals
  emitted : ∀ event ∈ progress.emitted, event.payload.Typed

def Run.KeepsTyped {α : Type} (post : α → Prop) (run : Run α) : Prop :=
  ∀ progress, progress.Typed →
    (run progress).KeepsTyped (fun outcome => post outcome.1 ∧ outcome.2.Typed)

namespace Run.KeepsTyped

variable {α β : Type} {post : α → Prop}

theorem pure {result : α} (satisfied : post result) : (Pure.pure result : Run α).KeepsTyped post :=
  fun _ typed => .pure ⟨satisfied, typed⟩

theorem fail (fault : Fault) : (Run.fail fault : Run α).KeepsTyped post := fun _ _ => .fail fault

theorem bind {run : Run α} {next : α → Run β} {middle : α → Prop} {final : β → Prop}
    (first : run.KeepsTyped middle) (second : ∀ result, middle result → (next result).KeepsTyped final) :
    Run.KeepsTyped final (run >>= next) :=
  fun progress typed => Behavior.KeepsTyped.bind (first progress typed)
    (fun outcome after => second outcome.1 after.1 outcome.2 after.2)

theorem lift {behavior : Behavior Fault α} (keeps : behavior.KeepsTyped post) :
    Run.KeepsTyped post (liftM behavior) :=
  fun _ typed => Behavior.KeepsTyped.bind keeps (fun _ satisfied => .pure ⟨satisfied, typed⟩)

theorem get : (MonadState.get : Run Progress).KeepsTyped Progress.Typed :=
  fun _ typed => .pure ⟨typed, typed⟩

theorem put {next : Progress} (typed : next.Typed) : (set next : Run PUnit).KeepsTyped (fun _ => True) :=
  fun _ _ => .pure ⟨trivial, typed⟩

theorem update {change : Progress → Progress} (kept : ∀ progress, progress.Typed → (change progress).Typed) :
    (modify change : Run PUnit).KeepsTyped (fun _ => True) :=
  fun progress typed => .pure ⟨trivial, kept progress typed⟩

theorem forM {act : α → Run Unit} (acts : ∀ member, (act member).KeepsTyped (fun _ => True))
    (members : List α) : Run.KeepsTyped (fun _ => True) (forM members act) := by
  induction members with
  | nil => exact .pure trivial
  | cons member rest ih =>
    rw [List.forM_cons]
    exact .bind (acts member) (fun _ _ => ih)

end Run.KeepsTyped

section

variable (bindings : Bindings)

theorem step_keepsTyped : bindings.step.KeepsTyped (fun _ => True) := by
  apply Run.KeepsTyped.bind .get
  intro progress typed
  split
  · exact .fail _
  · exact .bind (.put ⟨typed.locals, typed.emitted⟩) (fun _ _ => .lift Behavior.step_keepsTyped)

theorem evalHere_keepsTyped {expr : Expr} (proper : expr.Proper) :
    (bindings.evalHere expr).KeepsTyped Value.Typed :=
  .bind .get (fun _ typed => .lift (eval_keepsTyped typed.locals expr proper))

theorem holds_keepsTyped {condition : Expr} (proper : condition.Proper) :
    (bindings.holds condition).KeepsTyped (fun _ => True) :=
  .bind (evalHere_keepsTyped bindings proper) (fun _ _ => .lift (.ofExcept fun _ _ => trivial))

theorem setLocal_keepsTyped (name : String) {value : Value} (typed : value.Typed) :
    (Bindings.setLocal name value).KeepsTyped (fun _ => True) := by
  refine .update (fun progress before => ⟨fun entry member => ?_, before.emitted⟩)
  rcases Keyed.mem_of_mem_insert member with rfl | kept
  · exact typed
  · exact before.locals entry kept

theorem assign_keepsTyped (target : Place) {value : Value} (typed : value.Typed) :
    (bindings.assign target value).KeepsTyped (fun _ => True) := by
  unfold Bindings.assign
  split
  · split
    · exact .fail _
    · exact .lift (changeComponent_keepsTyped _ _ _ (fun _ _ => setPath_typed typed))
  · apply Run.KeepsTyped.bind .get
    intro progress before
    split
    -- A local that is there gets a value of its own schema at the path; one that is not is set as a whole.
    · next slot held =>
      exact .bind (.lift (.ofExcept (fun _ => setPath_typed typed (before.locals.lookup held))))
        (fun _ whole => setLocal_keepsTyped _ whole)
    · split
      · exact setLocal_keepsTyped _ typed
      · exact .fail _

theorem emit_keepsTyped (event : String) {args : List Expr} (proper : Expr.AllProper args) :
    (bindings.emit event args).KeepsTyped (fun _ => True) := by
  have recorded (targets : List Entity) {payload : Value} (typed : payload.Typed) :
      (modify fun progress : Progress =>
        { progress with emitted := progress.emitted.push ⟨event, targets, payload⟩ } :
          Run PUnit).KeepsTyped (fun _ => True) := by
    refine .update (fun progress before => ⟨before.locals, fun other member => ?_⟩)
    rcases Array.mem_push.mp member with earlier | rfl
    · exact before.emitted other earlier
    · exact typed
  unfold Bindings.emit
  dsimp only
  split
  · exact .fail _
  · split
    · exact .fail _
    · next targets _ =>
      split
      · exact recorded targets Value.typed_empty
      · next payload given =>
        have inside := Expr.allProper_iff.mp proper payload (List.mem_of_getElem? given)
        refine .bind (evalHere_keepsTyped bindings inside) (fun value whole => ?_)
        exact .bind (.lift (.ofExcept (fun _ => coerce_typed whole))) (fun _ => recorded targets)

theorem repeatWhile_keepsTyped {condition : Run Bool} {body : Run Unit}
    (asked : condition.KeepsTyped (fun _ => True)) (repeated : body.KeepsTyped (fun _ => True))
    (rounds : Nat) : (bindings.repeatWhile condition body rounds).KeepsTyped (fun _ => True) := by
  induction rounds with
  | zero => exact .fail _
  | succ rounds ih =>
    refine .bind asked (fun holds _ => ?_)
    cases holds with
    | false => exact .pure trivial
    | true => exact .bind repeated (fun _ _ => .bind (step_keepsTyped bindings) (fun _ _ => ih))

mutual

theorem exec_keepsTyped : (stmt : Stmt) → stmt.Proper → (bindings.exec stmt).KeepsTyped (fun _ => True)
  | .assign target value _, proper => by
    rw [Stmt.Proper] at proper
    exact .bind (step_keepsTyped bindings) (fun _ _ => .bind (evalHere_keepsTyped bindings proper.2)
      (fun _ whole => assign_keepsTyped bindings target whole))
  | .declare type name value _, proper => by
    rw [Stmt.Proper] at proper
    exact .bind (step_keepsTyped bindings) (fun _ _ => .bind (.lift (.ofExcept fun _ _ => trivial))
      (fun _ (_ : True) => .bind (evalHere_keepsTyped bindings proper.2.2.2) (fun _ whole =>
        .bind (.lift (.ofExcept fun _ => coerce_typed whole)) (fun _ => setLocal_keepsTyped name))))
  | .expr value, proper => by
    rw [Stmt.Proper] at proper
    exact .bind (step_keepsTyped bindings) (fun _ _ => .bind (evalHere_keepsTyped bindings proper)
      (fun _ _ => .pure trivial))
  | .branch condition yes no _, proper => by
    rw [Stmt.Proper] at proper
    obtain ⟨asked, -, first, second⟩ := proper
    refine .bind (step_keepsTyped bindings) (fun _ _ => .bind (evalHere_keepsTyped bindings asked)
      (fun _ _ => .bind (.lift (.ofExcept fun _ _ => trivial)) ?_))
    intro holds (_ : True)
    cases holds with
    | false => exact execBlock_keepsTyped no second
    | true => exact execBlock_keepsTyped yes first
  | .loop condition body _, proper => by
    rw [Stmt.Proper] at proper
    exact .bind (step_keepsTyped bindings) (fun _ _ => .bind .get (fun _ _ =>
      repeatWhile_keepsTyped bindings (holds_keepsTyped bindings proper.1)
        (execBlock_keepsTyped body proper.2.2) _))
  | .emit event args _, proper => by
    rw [Stmt.Proper] at proper
    exact .bind (step_keepsTyped bindings) (fun _ _ => emit_keepsTyped bindings event proper.2)
termination_by structural stmt => stmt

theorem execBlock_keepsTyped : (stmts : List Stmt) → Stmt.AllProper stmts →
    (bindings.execBlock stmts).KeepsTyped (fun _ => True)
  | [], _ => .pure trivial
  | stmt :: rest, proper => by
    rw [Stmt.AllProper] at proper
    exact .bind (exec_keepsTyped stmt proper.1) (fun _ _ => execBlock_keepsTyped rest proper.2)
termination_by structural stmts => stmts

end

end

end Script

end Stagecraft
