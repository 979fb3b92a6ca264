import Stagecraft.Proofs.Entries
import Stagecraft.Proofs.Script.Names
import Stagecraft.Proofs.Script.Parts

/-!
Soundness of the check: a body that was checked does not fail for what the check looks at. The check and
the run walk over the same tree; a name that the check lets pass as a local is the payload, which has a
value from the start, or one that the body assigns.
-/

namespace Stagecraft.Script

/-! ### Components -/

namespace Routine

variable {routine : Routine} {view : View} {permitted : Fault → Prop} {entity : Entity}
  {component : String}

theorem componentId_safe {id : ComponentId} (inside : id ∈ view.components)
    (known : view.store.componentId? component = some id) :
    (routine.componentId component).Safe view permitted (fun answer => answer = id) := by
  apply Behavior.Safe.bind (Behavior.componentId_safe component)
  rintro answer rfl
  have visible : view.componentId? component = some id := by
    rw [View.componentId?, known]
    simp [inside]
  rw [visible]
  exact .pure rfl

theorem readComponent_safe (offered : view.Offers entity component) :
    (routine.readComponent entity component).Safe view permitted (fun _ => True) := by
  obtain ⟨id, inside, known, present⟩ := offered
  apply Behavior.Safe.bind (componentId_safe inside known)
  rintro answer rfl
  apply Behavior.Safe.bind (Behavior.value_safe inside present)
  rintro answer ⟨value, rfl, -⟩
  exact .pure trivial

theorem changeComponent_safe {change : Value → Except Fault Value}
    (offered : view.Offers entity component)
    (kept : ∀ value changed, change value = .ok changed → changed.schema = value.schema)
    (failed : ∀ value fault, change value = .error fault → permitted fault) :
    (routine.changeComponent entity component change).Safe view permitted (fun _ => True) := by
  obtain ⟨id, inside, known, present⟩ := offered
  apply Behavior.Safe.bind (componentId_safe inside known)
  rintro answer rfl
  apply Behavior.Safe.bind (Behavior.value_safe inside present)
  rintro answer ⟨value, rfl, fits⟩
  apply Behavior.Safe.bind (Behavior.Safe.ofExcept (kept value) (failed value))
  intro changed same
  have fitsChanged : view.store.Fits answer changed := by
    intro found registered
    rw [same]
    exact fits found registered
  apply Behavior.Safe.bind (Behavior.write_safe inside present fitsChanged)
  rintro written rfl
  exact .pure trivial

end Routine

/-! ### Expressions -/

structure Agrees (scope : Scope) (bindings : Bindings) (view : View) : Prop where
  components : bindings.routine.components = scope.components
  events : bindings.routine.events = scope.events
  source : bindings.routine.source = scope.source
  bound : ∀ name declared, scope.entity? name = some declared →
    ∃ entity, bindings.entity? name = some entity ∧ view.OffersAll entity declared
  unbound : ∀ name, scope.entity? name = none → bindings.entity? name = none

def Known (decl : SystemDecl) (locals : List String) : Prop :=
  ∀ name ∈ locals, name ∈ Stmt.assignedAll decl.body ∨
    decl.event.payload.map Field.name = some name

def Paid (decl : SystemDecl) (values : Keyed Value) : Prop :=
  ∀ name, decl.event.payload.map Field.name = some name → (values.lookup name).isSome = true

namespace Scope

theorem checkComponent_ok {scope : Scope} {binding component : String} {declared : List String}
    (checked : scope.checkComponent binding declared component = .ok ()) : component ∈ declared := by
  unfold checkComponent at checked
  split at checked
  · next inside => exact inside
  · cases checked

theorem checkVariable_ok {scope : Scope} {locals : List String} {name : String}
    (checked : scope.checkVariable locals name = .ok ()) :
    scope.entity? name = none ∧ name ∈ locals := by
  unfold checkVariable at checked
  split at checked
  · cases checked
  · next value =>
    split at checked
    · next inside => exact ⟨Option.not_isSome_iff_eq_none.mp value, inside⟩
    · cases checked

/-- A field of a name is a component of an entity, or a part of a local. -/
theorem checkExpr_field (scope : Scope) (locals : List String) (base : Expr) (name : String)
    (span : Text.Span) :
    scope.checkExpr locals (.field base name span) = match base with
      | .var root _ =>
        match scope.entity? root with
        | some declared => scope.checkComponent root declared name
        | none => scope.checkExpr locals base
      | _ => scope.checkExpr locals base := by
  cases base <;> rfl

end Scope

theorem Bindings.eval_field (bindings : Bindings) (values : Keyed Value) (base : Expr) (name : String)
    (span : Text.Span) :
    bindings.eval values (.field base name span) =
      let part : Behavior Fault Value := do
        let value ← bindings.eval values base
        .ofExcept (fieldOf value name)
      match base with
      | .var root _ =>
        match bindings.entity? root with
        | some entity => bindings.routine.readComponent entity name
        | none => part
      | _ => part := by
  cases base <;> rfl

section

variable {decl : SystemDecl} {scope : Scope} {bindings : Bindings} {view : View}

theorem ofValues_safe {α : Type} {attempt : Except Fault α}
    (refused : ∀ fault, attempt = .error fault → fault.OfValues) :
    (Behavior.ofExcept attempt).Safe view (Fault.Remains decl) (fun _ => True) :=
  .ofExcept (fun _ _ => trivial) (fun fault failed => (refused fault failed).remains decl)

theorem remains_of_unassigned {locals : List String} (known : Known decl locals) {name : String}
    (inside : name ∈ locals) {values : Keyed Value} (paid : Paid decl values)
    (unassigned : values.lookup name = none) (system : String) :
    Fault.Remains decl (.unknownVariable name system) := by
  have notPayload : decl.event.payload.map Field.name ≠ some name := by
    intro payload
    have present := paid name payload
    rw [unassigned] at present
    cases present
  exact ⟨(known name inside).resolve_right notPayload, notPayload⟩

theorem readLocal_safe (agrees : Agrees scope bindings view) {locals : List String}
    (known : Known decl locals) {values : Keyed Value} (paid : Paid decl values) {name : String}
    (checked : scope.checkVariable locals name = .ok ()) :
    (Behavior.ofExcept (bindings.readLocal values name)).Safe view (Fault.Remains decl)
      (fun _ => True) := by
  obtain ⟨value, inside⟩ := Scope.checkVariable_ok checked
  apply Behavior.Safe.ofExcept (fun _ _ => trivial)
  intro fault failed
  rw [Bindings.readLocal, agrees.unbound name value, Option.isSome_none,
    if_neg Bool.false_ne_true] at failed
  split at failed
  · cases failed
  · next unassigned =>
    cases failed
    exact remains_of_unassigned known inside paid unassigned _

theorem callFunction_safe {keys : Keys} {system name : String} {args : List Value}
    {builtin : Builtin} (found : Builtin.ofName? name = some builtin) :
    (callFunction keys system name args).Safe view (Fault.Remains decl) (fun _ => True) := by
  rw [callFunction, found]
  dsimp only
  unfold Builtin.call
  split
  · exact .bind (Behavior.output_safe _) (fun _ _ => .pure trivial)
  · exact .pure trivial
  · exact .fail trivial

mutual

theorem eval_safe (agrees : Agrees scope bindings view) {locals : List String}
    (known : Known decl locals) {values : Keyed Value} (paid : Paid decl values) :
    (expr : Expr) → scope.checkExpr locals expr = .ok () →
      (bindings.eval values expr).Safe view (Fault.Remains decl) (fun _ => True)
  | .literal _ _, _ => .pure trivial
  | .var name _, checked => readLocal_safe agrees known paid checked
  | .field base name span, checked => by
    have part (inside : scope.checkExpr locals base = .ok ()) :
        (do let value ← bindings.eval values base
            Behavior.ofExcept (fieldOf value name) : Behavior Fault Value).Safe view
          (Fault.Remains decl) (fun _ => True) :=
      .bind (eval_safe agrees known paid base inside)
        (fun _ _ => ofValues_safe (fun _ => fieldOf_ofValues))
    rw [Scope.checkExpr_field] at checked
    rw [Bindings.eval_field]
    dsimp only
    split at checked
    · next root _ =>
      split at checked
      · next declared named =>
        obtain ⟨entity, bound, offered⟩ := agrees.bound root declared named
        rw [bound]
        exact Routine.readComponent_safe (offered name (Scope.checkComponent_ok checked))
      · next value =>
        rw [agrees.unbound root value]
        exact part checked
    · exact part checked
  | .unary op operand _, checked =>
    .bind (eval_safe agrees known paid operand checked)
      (fun _ _ => ofValues_safe (fun _ => UnaryOp.apply_ofValues))
  | .binary op left right _, checked => by
    obtain ⟨_, first, second⟩ := bind_ok checked
    exact .bind (eval_safe agrees known paid left first) (fun _ _ =>
      .bind (eval_safe agrees known paid right second) (fun _ _ =>
        ofValues_safe (fun _ => BinaryOp.apply_ofValues)))
  | .call name args _, checked => by
    simp only [Scope.checkExpr] at checked
    cases found : Builtin.ofName? name with
    | none =>
      rw [found] at checked
      cases checked
    | some builtin =>
      rw [found] at checked
      exact .bind (evalAll_safe agrees known paid args checked)
        (fun _ _ => callFunction_safe found)
  | .vector x y z _, checked => by
    obtain ⟨_, first, others⟩ := bind_ok checked
    obtain ⟨_, second, third⟩ := bind_ok others
    have component (value : Value) : (Behavior.ofExcept (Bindings.asComponent value)).Safe view
        (Fault.Remains decl) (fun _ => True) :=
      ofValues_safe (fun _ => Bindings.asComponent_ofValues)
    exact .bind (eval_safe agrees known paid x first) (fun _ _ => .bind (component _) (fun _ _ =>
      .bind (eval_safe agrees known paid y second) (fun _ _ => .bind (component _) (fun _ _ =>
        .bind (eval_safe agrees known paid z third) (fun _ _ => .bind (component _) (fun _ _ =>
          .pure trivial))))))
termination_by structural expr => expr

theorem evalAll_safe (agrees : Agrees scope bindings view) {locals : List String}
    (known : Known decl locals) {values : Keyed Value} (paid : Paid decl values) :
    (exprs : List Expr) → scope.checkExprs locals exprs = .ok () →
      (bindings.evalAll values exprs).Safe view (Fault.Remains decl) (fun _ => True)
  | [], _ => .pure trivial
  | expr :: rest, checked => by
    obtain ⟨_, first, others⟩ := bind_ok checked
    exact .bind (eval_safe agrees known paid expr first) (fun _ _ =>
      .bind (evalAll_safe agrees known paid rest others) (fun _ _ => .pure trivial))
termination_by structural exprs => exprs

end

/-! ### Statements -/

def KeepsPayload (decl : SystemDecl) (progress : Progress) : Prop := Paid decl progress.locals

theorem Paid.insert {values : Keyed Value} (paid : Paid decl values) (name : String) (value : Value) :
    Paid decl (Keyed.insert name value values) := by
  intro payload named
  rw [Keyed.lookup_insert]
  split
  · rfl
  · exact paid payload named

theorem step_safe : bindings.step.Safe view (Fault.Remains decl) (KeepsPayload decl)
    (fun _ => True) := by
  apply Run.Safe.bind Run.Safe.get
  intro progress paid
  split
  · exact .fail trivial
  · exact .bind (.put paid) (fun _ _ => .lift Behavior.step_safe)

theorem evalHere_safe (agrees : Agrees scope bindings view) {locals : List String}
    (known : Known decl locals) {expr : Expr} (checked : scope.checkExpr locals expr = .ok ()) :
    (bindings.evalHere expr).Safe view (Fault.Remains decl) (KeepsPayload decl) (fun _ => True) := by
  apply Run.Safe.bind Run.Safe.get
  intro progress paid
  exact .lift (eval_safe agrees known paid expr checked)

theorem setLocal_safe (name : String) (value : Value) :
    (Bindings.setLocal name value).Safe view (Fault.Remains decl) (KeepsPayload decl)
      (fun _ => True) :=
  .update (fun _ paid => Paid.insert paid name value)

theorem assign_safe (agrees : Agrees scope bindings view) {locals later : List String}
    (known : Known decl locals) {target : Place} (value : Value)
    (checked : scope.checkPlace locals target = .ok later) :
    (bindings.assign target value).Safe view (Fault.Remains decl) (KeepsPayload decl)
      (fun _ => True) := by
  unfold Scope.checkPlace at checked
  unfold Bindings.assign
  split at checked
  · next declared named =>
    obtain ⟨entity, bound, offered⟩ := agrees.bound target.root declared named
    rw [bound]
    cases whole : target.path with
    | nil =>
      rw [whole] at checked
      cases checked
    | cons component path =>
      rw [whole] at checked
      obtain ⟨_, inside, -⟩ := bind_ok checked
      exact .lift (Routine.changeComponent_safe (offered component (Scope.checkComponent_ok inside))
        (fun _ _ => setPath_schema) (fun _ _ failed => (setPath_ofValues failed).remains decl))
  · next unnamed =>
    rw [agrees.unbound target.root unnamed]
    apply Run.Safe.bind Run.Safe.get
    intro progress paid
    split
    · next slot assigned =>
      exact .bind (.lift (ofValues_safe (fun _ => setPath_ofValues)))
        (fun _ _ => setLocal_safe _ _)
    · next unassigned =>
      split at checked
      · next whole =>
        rw [if_pos whole]
        exact setLocal_safe _ _
      · next part =>
        rw [if_neg part]
        obtain ⟨_, read, -⟩ := bind_ok checked
        obtain ⟨-, inside⟩ := Scope.checkVariable_ok read
        exact .fail (remains_of_unassigned known inside paid unassigned _)

private theorem exists_mapM_of_all {bindings : Bindings} {args : List Expr}
    (named : ∀ arg ∈ args, (bindings.target? arg).isSome = true) :
    ∃ targets, args.mapM bindings.target? = some targets := by
  induction args with
  | nil => exact ⟨[], rfl⟩
  | cons arg rest ih =>
    obtain ⟨target, found⟩ := Option.isSome_iff_exists.mp (named arg List.mem_cons_self)
    obtain ⟨targets, others⟩ := ih (fun other behind => named other (List.mem_cons_of_mem arg behind))
    refine ⟨target :: targets, ?_⟩
    rw [List.mapM_cons, found, others]
    rfl

theorem target?_isSome (agrees : Agrees scope bindings view) {expr : Expr}
    (entity : scope.isEntity expr = true) : (bindings.target? expr).isSome = true := by
  cases expr with
  | var name span =>
    obtain ⟨declared, named⟩ := Option.isSome_iff_exists.mp entity
    obtain ⟨entity, bound, -⟩ := agrees.bound name declared named
    exact Option.isSome_iff_exists.mpr ⟨entity, bound⟩
  | _ => cases entity

theorem emit_safe (agrees : Agrees scope bindings view) {locals : List String}
    (known : Known decl locals) {event : String} {args : List Expr}
    (checked : scope.checkEmit locals event args = .ok ()) :
    (bindings.emit event args).Safe view (Fault.Remains decl) (KeepsPayload decl)
      (fun _ => True) := by
  unfold Scope.checkEmit at checked
  unfold Bindings.emit
  rw [agrees.events]
  cases found : scope.events.find? event with
  | none =>
    rw [found] at checked
    cases checked
  | some contract =>
    rw [found] at checked
    dsimp only at checked ⊢
    split at checked
    · cases checked
    · split at checked
      · cases checked
      · next named =>
        have entities : ∀ arg ∈ args.take contract.roles.length,
            (bindings.target? arg).isSome = true := by
          intro arg member
          have all : (args.take contract.roles.length).all scope.isEntity = true := by
            simpa using named
          exact target?_isSome agrees (List.all_eq_true.mp all arg member)
        obtain ⟨targets, bound⟩ := exists_mapM_of_all entities
        rw [bound]
        dsimp only
        have recorded (payload : Value) : Run.Safe view (Fault.Remains decl) (KeepsPayload decl)
            (fun _ => True) (modify fun progress : Progress =>
              { progress with emitted := progress.emitted.push ⟨event, targets, payload⟩ }) :=
          .update (fun _ paid => paid)
        split at checked
        · next payload given =>
          rw [given]
          exact .bind (evalHere_safe agrees known checked) (fun _ _ =>
            .bind (.lift (ofValues_safe (fun _ => coerce_ofValues)))
              (fun payload _ => recorded payload))
        · next nothing =>
          rw [nothing]
          exact recorded .empty

theorem condition_safe (value : Value) :
    Run.Safe view (Fault.Remains decl) (KeepsPayload decl) (fun _ => True)
      (liftM (Behavior.ofExcept (Bindings.asCondition value))) :=
  .lift (ofValues_safe (fun _ => Bindings.asCondition_ofValues))

/-- However often a body is repeated, it is the last time that the budget runs out. -/
theorem repeatWhile_safe {condition : Run Bool} {body : Run Unit}
    (asked : condition.Safe view (Fault.Remains decl) (KeepsPayload decl) (fun _ => True))
    (repeated : body.Safe view (Fault.Remains decl) (KeepsPayload decl) (fun _ => True))
    (rounds : Nat) :
    (bindings.repeatWhile condition body rounds).Safe view (Fault.Remains decl) (KeepsPayload decl)
      (fun _ => True) := by
  induction rounds with
  | zero => exact .fail trivial
  | succ rounds ih =>
    apply Run.Safe.bind asked
    intro holds _
    cases holds with
    | false => exact .pure trivial
    | true => exact .bind repeated (fun _ _ => .bind step_safe (fun _ _ => ih))

theorem Known.cons {locals : List String} (known : Known decl locals) {name : String}
    (assigned : name ∈ Stmt.assignedAll decl.body) : Known decl (name :: locals) := by
  intro other member
  rcases List.mem_cons.mp member with rfl | behind
  · exact .inl assigned
  · exact known other behind

theorem checkPlace_known {locals later : List String} (known : Known decl locals) {target : Place}
    (checked : scope.checkPlace locals target = .ok later)
    (assigned : target.path.isEmpty = true → target.root ∈ Stmt.assignedAll decl.body) :
    Known decl later := by
  unfold Scope.checkPlace at checked
  split at checked
  · split at checked
    · cases checked
    · obtain ⟨_, -, same⟩ := bind_ok checked
      cases same
      exact known
  · split at checked
    · next whole =>
      cases checked
      exact known.cons (assigned whole)
    · obtain ⟨_, -, same⟩ := bind_ok checked
      cases same
      exact known

mutual

/-- A checked statement is safe, and what the check adds to the locals is assigned. -/
theorem exec_safe (agrees : Agrees scope bindings view) :
    (stmt : Stmt) → {locals later : List String} → Known decl locals →
      Stmt.assigned stmt ⊆ Stmt.assignedAll decl.body →
      scope.checkStmt locals stmt = .ok later →
      (bindings.exec stmt).Safe view (Fault.Remains decl) (KeepsPayload decl) (fun _ => True) ∧
        Known decl later
  | .assign target value _, locals, later, known, assigned, checked => by
    obtain ⟨_, evaluated, placed⟩ := bind_ok checked
    refine ⟨.bind step_safe (fun _ _ => .bind (evalHere_safe agrees known evaluated)
      (fun result _ => assign_safe agrees known result placed)), ?_⟩
    apply checkPlace_known known placed
    intro whole
    apply assigned
    rw [Stmt.assigned, if_pos whole]
    exact List.mem_singleton_self _
  | .declare type name value _, locals, later, known, assigned, checked => by
    obtain ⟨schema, resolved, others⟩ := bind_ok checked
    obtain ⟨_, evaluated, bound⟩ := bind_ok others
    have found : ∀ fault, resolve bindings.routine.components bindings.routine.source type =
        .error fault → fault.Remains decl := by
      intro fault failed
      rw [agrees.components, agrees.source, resolved] at failed
      cases failed
    split at bound
    · cases bound
    · cases bound
      refine ⟨.bind step_safe (fun _ _ => .bind (.lift (.ofExcept (fun _ _ => trivial) found))
        (fun _ _ => .bind (evalHere_safe agrees known evaluated) (fun _ _ =>
          .bind (.lift (ofValues_safe (fun _ => coerce_ofValues)))
            (fun _ _ => setLocal_safe _ _)))), known.cons (assigned ?_)⟩
      rw [Stmt.assigned]
      exact List.mem_singleton_self name
  | .expr value, locals, later, known, assigned, checked => by
    obtain ⟨_, evaluated, same⟩ := bind_ok checked
    cases same
    exact ⟨.bind step_safe (fun _ _ => .bind (evalHere_safe agrees known evaluated)
      (fun _ _ => .pure trivial)), known⟩
  | .branch condition yes no _, locals, later, known, assigned, checked => by
    obtain ⟨_, evaluated, others⟩ := bind_ok checked
    obtain ⟨middle, first, second⟩ := bind_ok others
    rw [Stmt.assigned] at assigned
    -- The second block is checked with the locals of the first, though only one of them runs.
    obtain ⟨safeYes, knownMiddle⟩ := execBlock_safe agrees yes known
      (fun _ member => assigned (List.mem_append_left _ member)) first
    obtain ⟨safeNo, knownLater⟩ := execBlock_safe agrees no knownMiddle
      (fun _ member => assigned (List.mem_append_right _ member)) second
    refine ⟨.bind step_safe (fun _ _ => .bind (evalHere_safe agrees known evaluated) (fun _ _ =>
      .bind (condition_safe _) ?_)), knownLater⟩
    intro holds _
    cases holds with
    | false => exact safeNo
    | true => exact safeYes
  | .loop condition body _, locals, later, known, assigned, checked => by
    obtain ⟨_, evaluated, repeated⟩ := bind_ok checked
    rw [Stmt.assigned] at assigned
    obtain ⟨safe, knownLater⟩ := execBlock_safe agrees body known assigned repeated
    have asked := Run.Safe.bind (evalHere_safe agrees known evaluated)
      (fun value _ => condition_safe value)
    exact ⟨.bind step_safe (fun _ _ => .bind .get (fun _ _ => repeatWhile_safe asked safe _)),
      knownLater⟩
  | .emit event args _, locals, later, known, assigned, checked => by
    obtain ⟨_, emitted, same⟩ := bind_ok checked
    cases same
    exact ⟨.bind step_safe (fun _ _ => emit_safe agrees known emitted), known⟩
termination_by structural stmt => stmt

theorem execBlock_safe (agrees : Agrees scope bindings view) :
    (stmts : List Stmt) → {locals later : List String} → Known decl locals →
      Stmt.assignedAll stmts ⊆ Stmt.assignedAll decl.body →
      scope.checkBlock locals stmts = .ok later →
      (bindings.execBlock stmts).Safe view (Fault.Remains decl) (KeepsPayload decl)
        (fun _ => True) ∧ Known decl later
  | [], locals, later, known, _, checked => by
    cases checked
    exact ⟨.pure trivial, known⟩
  | stmt :: rest, locals, later, known, assigned, checked => by
    obtain ⟨middle, first, others⟩ := bind_ok checked
    rw [Stmt.assignedAll] at assigned
    obtain ⟨safe, knownLater⟩ := exec_safe agrees stmt known
      (fun _ member => assigned (List.mem_append_left _ member)) first
    obtain ⟨safeRest, knownLast⟩ := execBlock_safe agrees rest knownLater
      (fun _ member => assigned (List.mem_append_right _ member)) others
    exact ⟨.bind safe (fun _ _ => safeRest), knownLast⟩
termination_by structural stmts => stmts

end

end

end Stagecraft.Script
