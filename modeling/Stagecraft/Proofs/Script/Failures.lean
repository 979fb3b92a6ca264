import Stagecraft.Proofs.Script.InPlace
import Stagecraft.Proofs.Script.TypeSafety

/-!
Failures: what is left where a statement or a run fails. A statement that fails has changed nothing but the
steps and the output. A run that fails leaves the store as the assignments that it completed left it, and none
of its events; and the systems that come after it act on that store.
-/

namespace Stagecraft

namespace Script

/-! ### What is changed -/

/-- What an assignment to a component makes of a view: one value of one entity is another one, and everything
else is as it was. -/
def Assignment.Changes (assignment : Assignment) (before after : View) : Prop :=
  ∃ id current changed, before.componentId? assignment.component = some id ∧
    before.get? assignment.entity id = some current ∧
    setPath assignment.target assignment.value assignment.path current = .ok changed ∧
    after = { before with store := before.store.write assignment.entity id (some changed) } ∧
    ∀ entity kind, after.store.get? entity kind =
      if entity = assignment.entity ∧ kind = id then some changed else before.store.get? entity kind

inductive Undergoes : View → List Assignment → View → Prop
  | nothing (view : View) : Undergoes view [] view
  | next {before middle after : View} {earlier : List Assignment} {assignment : Assignment}
      (undergoes : Undergoes before earlier middle) (changes : assignment.Changes middle after) :
      Undergoes before (earlier ++ [assignment]) after

theorem Undergoes.trans {first second third : View} {one other : List Assignment}
    (before : Undergoes first one second) (behind : Undergoes second other third) :
    Undergoes first (one ++ other) third := by
  induction behind with
  | nothing => rwa [List.append_nil]
  | next _ changes ih =>
    rw [← List.append_assoc]
    exact .next ih changes

namespace Holding

def view (holding : Holding) : View := holding.situation.view

structure Spares (before after : Holding) : Prop where
  view : after.view = before.view
  assigned : after.assigned = before.assigned

structure Keeps (before after : Holding) : Prop extends before.Spares after where
  locals : after.progress.locals = before.progress.locals
  emitted : after.progress.emitted = before.progress.emitted

/-- The view is what the assignments made of it that came on record. -/
def Advances (before after : Holding) : Prop :=
  ∃ more, after.assigned = before.assigned ++ more ∧ Undergoes before.view more after.view

theorem Keeps.refl (holding : Holding) : holding.Keeps holding := ⟨⟨rfl, rfl⟩, rfl, rfl⟩

theorem Keeps.trans {first second third : Holding} (one : first.Keeps second) (other : second.Keeps third) :
    first.Keeps third where
  view := other.view.trans one.view
  assigned := other.assigned.trans one.assigned
  locals := other.locals.trans one.locals
  emitted := other.emitted.trans one.emitted

theorem Spares.advances {before after : Holding} (spares : before.Spares after) : before.Advances after :=
  ⟨[], by rw [spares.assigned, List.append_nil], spares.view ▸ .nothing _⟩

theorem Advances.refl (holding : Holding) : holding.Advances holding := (Keeps.refl holding).toSpares.advances

theorem Advances.trans {first second third : Holding} (one : first.Advances second)
    (other : second.Advances third) : first.Advances third := by
  obtain ⟨more, recorded, undergoes⟩ := one
  obtain ⟨others, recordedOthers, undergoesOthers⟩ := other
  refine ⟨more ++ others, ?_, undergoes.trans undergoesOthers⟩
  rw [recordedOthers, recorded, List.append_assoc]

end Holding

/-! ### Parts of a run -/

variable {α β : Type}

theorem view_run_of_spends {behavior : Behavior Fault α} (spends : Spends 0 behavior)
    (situation : Situation) : (behavior.run situation).2.view = situation.view := by
  have none := spends.writes (behavior.takes_run situation)
  rw [Nat.le_zero, List.countP_eq_zero] at none
  clear spends
  induction behavior generalizing situation with
  | done | fail => rfl
  | ask request next ih =>
    obtain ⟨here, others⟩ := List.forall_mem_cons.mp none
    rw [Behavior.run, ih _ _ others]
    cases request with
    | write entity id value => exact absurd rfl here
    | _ => rfl

theorem Routine.componentId_run (routine : Routine) (component : String) (situation : Situation) :
    (routine.componentId component).run situation = match situation.view.componentId? component with
      | some id => (.ok id, situation)
      | none => (.error (.scene (.unregisteredComponent component routine.name)), situation) := by
  unfold Routine.componentId
  change (match situation.view.componentId? component with | some id => _ | none => _ : Behavior Fault _).run
    situation = _
  cases situation.view.componentId? component <;> rfl

theorem value_run (entity : Entity) (id : ComponentId) (situation : Situation) :
    (Behavior.value entity id : Behavior Fault _).run situation =
      (.ok (situation.view.get? entity id), situation) := rfl

theorem write_run (entity : Entity) (id : ComponentId) (value : Value) (situation : Situation) :
    (Behavior.write entity id value : Behavior Fault _).run situation =
      (.ok (situation.view.set entity id value).1,
        ⟨(situation.view.set entity id value).2, situation.output⟩) := rfl

theorem set_cases (view : View) (entity : Entity) (id : ComponentId) (value : Value) :
    (∃ fault, view.set entity id value = (.error fault, view)) ∨
      view.set entity id value =
        (.ok (), { view with store := view.store.write entity id (some value) }) := by
  obtain ⟨store, roster, components⟩ := view
  by_cases inside : id ∈ components
  · rw [View.set, if_pos inside, Store.set]
    cases store.component? id with
    | none => exact .inl ⟨_, rfl⟩
    | some component =>
      dsimp only
      split
      · cases component.accept value with
        | ok => exact .inr rfl
        | error fault => exact .inl ⟨fault, rfl⟩
      · exact .inl ⟨_, rfl⟩
  · rw [View.set, if_neg inside]
    exact .inl ⟨_, rfl⟩

theorem View.contains_of_get? {view : View} {entity : Entity} {id : ComponentId} {value : Value}
    (held : view.get? entity id = some value) : view.store.contains entity id = true := by
  unfold View.get? at held
  split at held
  · rw [Store.contains, held]
    rfl
  · cases held

namespace Deed

theorem ask_bind_apply (behavior : Behavior Fault α) (next : α → Deed β) (holding : Holding) :
    (ask behavior >>= next) holding = match behavior.run holding.situation with
      | (.ok result, later) => next result { holding with situation := later }
      | (.error fault, later) => (.error fault, { holding with situation := later }) := by
  rw [bind_apply, ask]
  rcases behavior.run holding.situation with ⟨fault | result, later⟩ <;> rfl

def Ensures (related : Holding → Holding → Prop) (deed : Deed α) : Prop :=
  ∀ holding, related holding (deed holding).2

theorem Ensures.bind {related : Holding → Holding → Prop}
    (trans : ∀ {first second third}, related first second → related second third → related first third)
    {deed : Deed α} {next : α → Deed β} (first : deed.Ensures related)
    (others : ∀ result, (next result).Ensures related) : (deed >>= next).Ensures related := by
  intro holding
  have before := first holding
  rw [bind_apply]
  split
  next result later ran =>
    rw [ran] at before
    exact trans before (others result later)
  next fault later ran =>
    rw [ran] at before
    exact before

theorem ask_keeps {behavior : Behavior Fault α} (spends : Spends 0 behavior) :
    (ask behavior).Ensures Holding.Keeps :=
  fun holding => ⟨⟨view_run_of_spends spends holding.situation, rfl⟩, rfl, rfl⟩

theorem ofExcept_keeps (attempt : Except Fault α) : (ask (.ofExcept attempt)).Ensures Holding.Keeps := by
  intro holding
  cases attempt <;> exact .refl holding

variable (bindings : Bindings)

theorem step_keeps : (step bindings).Ensures Holding.Keeps := by
  intro holding
  rw [step_apply]
  split
  · exact .refl holding
  · exact ⟨⟨rfl, rfl⟩, rfl, rfl⟩

theorem eval_keeps (expr : Expr) : (eval bindings expr).Ensures Holding.Keeps :=
  fun holding => ask_keeps (eval_spends holding.progress.locals expr) holding

/-- An assignment to a component fails and leaves everything as it was, or it changes the component, which
comes on record. -/
theorem assignComponent_cases (assignment : Assignment) (holding : Holding) :
    (∃ fault, assignComponent bindings assignment holding = (.error fault, holding)) ∨
      ∃ view, assignment.Changes holding.view view ∧
        assignComponent bindings assignment holding =
          (.ok (),
            ⟨holding.progress, ⟨view, holding.situation.output⟩, holding.assigned ++ [assignment]⟩) := by
  obtain ⟨progress, situation, assigned⟩ := holding
  unfold assignComponent
  rw [ask_bind_apply, Routine.componentId_run]
  dsimp only
  cases known : situation.view.componentId? assignment.component with
  | none => exact .inl ⟨_, rfl⟩
  | some id =>
    dsimp only
    rw [ask_bind_apply, value_run]
    dsimp only
    cases held : situation.view.get? assignment.entity id with
    | none => exact .inl ⟨_, rfl⟩
    | some current =>
      dsimp only
      have same := setPath_eq assignment.target assignment.value assignment.path current
      cases left : assignPath assignment.target assignment.value assignment.path current with
      | mk outcome changed =>
        rw [left] at same
        cases outcome with
        | error fault => exact .inl ⟨fault, rfl⟩
        | ok =>
          dsimp only
          rw [ask_bind_apply, write_run]
          dsimp only
          rcases set_cases situation.view assignment.entity id changed with ⟨fault, refused⟩ | accepted
          · rw [refused]
            exact .inl ⟨_, rfl⟩
          · rw [accepted]
            refine .inr ⟨_, ⟨id, current, changed, known, held, same, rfl, ?_⟩, rfl⟩
            intro entity kind
            have opened := Store.isOpen_of_contains (View.contains_of_get? held)
            change (situation.view.store.write assignment.entity id (some changed)).get? entity kind = _
            rw [Store.get?_write_open opened]
            exact if_congr (and_congr eq_comm eq_comm) rfl rfl

theorem Ensures.then_cases {deed : Deed α} (quiet : deed.Ensures Holding.Keeps) {next : α → Deed β}
    {before holding : Holding} (kept : before.Keeps holding) {goal : Except Fault β × Holding → Prop}
    (failed : ∀ fault after, before.Keeps after → goal (.error fault, after))
    (others : ∀ value middle, deed holding = (.ok value, middle) → before.Keeps middle →
      goal (next value middle)) : goal ((deed >>= next) holding) := by
  have keeps := kept.trans (quiet holding)
  rw [bind_apply]
  cases ran : deed holding with
  | mk outcome middle =>
    rw [ran] at keeps
    cases outcome with
    | error fault => exact failed fault middle keeps
    | ok value => exact others value middle ran keeps

end Deed

/-! ### Single statements -/

def Stmt.isSingle : Stmt → Bool
  | .assign _ _ _ | .declare _ _ _ _ | .expr _ | .emit _ _ _ => true
  | .branch _ _ _ _ | .loop _ _ _ => false

/-- What a single statement comes to. Where it fails, view, locals and emitted events are as they were. Where
it succeeds, only an assignment to a component changes the view, and that in one value. -/
inductive Bindings.Results (bindings : Bindings) (before : Holding) :
    Stmt → Except Fault Unit × Holding → Prop
  | failed {stmt : Stmt} {fault : Fault} {after : Holding} (keeps : before.Keeps after) :
      Results bindings before stmt (.error fault, after)
  | component {target : Place} {value : Expr} {span : Text.Span} {entity : Entity} {component : String}
      {path : List String} {assigned : Value} {middle : Situation} {after : Holding}
      (bound : bindings.entity? target.root = some entity) (into : target.path = component :: path)
      (evaluated : (bindings.eval before.progress.locals value).run before.situation = (.ok assigned, middle))
      (changes : Assignment.Changes ⟨entity, component, path, target.render, assigned⟩ before.view after.view)
      (recorded : after.assigned = before.assigned ++ [⟨entity, component, path, target.render, assigned⟩])
      (locals : after.progress.locals = before.progress.locals)
      (emitted : after.progress.emitted = before.progress.emitted) :
      Results bindings before (.assign target value span) (.ok (), after)
  | own {target : Place} {value : Expr} {span : Text.Span} {after : Holding}
      (free : bindings.entity? target.root = none) (spares : before.Spares after)
      (emitted : after.progress.emitted = before.progress.emitted) :
      Results bindings before (.assign target value span) (.ok (), after)
  | declared {type : TypeExpr} {name : String} {value : Expr} {span : Text.Span} {after : Holding}
      (spares : before.Spares after) (emitted : after.progress.emitted = before.progress.emitted) :
      Results bindings before (.declare type name value span) (.ok (), after)
  | evaluated {value : Expr} {after : Holding} (keeps : before.Keeps after) :
      Results bindings before (.expr value) (.ok (), after)
  | emitted {event : String} {args : List Expr} {span : Text.Span} {after : Holding}
      (spares : before.Spares after) (locals : after.progress.locals = before.progress.locals) :
      Results bindings before (.emit event args span) (.ok (), after)

theorem Bindings.Results.advances {bindings : Bindings} {before after : Holding} {stmt : Stmt}
    {outcome : Except Fault Unit} (results : bindings.Results before stmt (outcome, after)) :
    before.Advances after := by
  cases results with
  | failed keeps | evaluated keeps => exact keeps.toSpares.advances
  | component _ _ _ changes recorded => exact ⟨_, recorded, .next (.nothing _) changes⟩
  | own _ spares | declared spares | emitted spares => exact spares.advances

section

variable (bindings : Bindings)

theorem assignLocal_cases (target : Place) (value : Value) (holding : Holding) :
    (∃ fault, Deed.assignLocal bindings target value holding = (.error fault, holding)) ∨
      ∃ locals, Deed.assignLocal bindings target value holding =
        (.ok (), { holding with progress.locals := locals }) := by
  rw [Deed.assignLocal_apply]
  cases found : holding.progress.locals.lookup target.root with
  | none =>
    dsimp only
    split
    · exact .inr ⟨_, rfl⟩
    · exact .inl ⟨_, rfl⟩
  | some slot =>
    dsimp only
    cases ended : (assignPath target.render value target.path slot).1 with
    | ok => exact .inr ⟨_, rfl⟩
    | error fault =>
      have failed : (assignPath target.render value target.path slot).1 ≠ .ok () := by simp [ended]
      rw [assignPath_failed failed, replace_self found]
      exact .inl ⟨fault, rfl⟩

theorem Deed.step_ok {holding begun : Holding} (stepped : Deed.step bindings holding = (.ok (), begun)) :
    begun.situation = holding.situation ∧ begun.progress.locals = holding.progress.locals := by
  rw [Deed.step_apply] at stepped
  split at stepped
  · cases stepped
  · cases stepped
    exact ⟨rfl, rfl⟩

theorem Deed.eval_ok {expr : Expr} {value : Value} {holding later : Holding}
    (evaluated : Deed.eval bindings expr holding = (.ok value, later)) :
    (bindings.eval holding.progress.locals expr).run holding.situation = (.ok value, later.situation) := by
  change Deed.ask (bindings.eval holding.progress.locals expr) holding = _ at evaluated
  have ended := congrArg Prod.fst evaluated
  have left := congrArg (fun outcome => outcome.2.situation) evaluated
  exact Prod.ext ended left

theorem assign_results (target : Place) (value : Expr) (span : Text.Span) (holding : Holding) :
    bindings.Results holding (.assign target value span)
      (Deed.exec bindings (.assign target value span) holding) := by
  apply (Deed.step_keeps bindings).then_cases (.refl holding) (fun _ _ => .failed)
  intro _ begun stepped _
  obtain ⟨situated, locals⟩ := Deed.step_ok bindings stepped
  apply (Deed.eval_keeps bindings value).then_cases ‹_› (fun _ _ => .failed)
  intro assigned middle evaluated kept
  have ran := Deed.eval_ok bindings evaluated
  rw [situated, locals] at ran
  unfold Deed.assign
  cases bound : bindings.entity? target.root with
  | none =>
    dsimp only
    rcases assignLocal_cases bindings target assigned middle with ⟨fault, failed⟩ | ⟨held, changed⟩
    · rw [failed]
      exact .failed kept
    · rw [changed]
      exact .own bound ⟨kept.view, kept.assigned⟩ kept.emitted
  | some entity =>
    dsimp only
    cases into : target.path with
    | nil => exact .failed kept
    | cons component path =>
      dsimp only
      rcases Deed.assignComponent_cases bindings ⟨entity, component, path, target.render, assigned⟩ middle
        with ⟨fault, failed⟩ | ⟨view, changes, changed⟩
      · rw [failed]
        exact .failed kept
      · rw [changed]
        rw [kept.view] at changes
        exact .component bound into ran changes (congrArg (· ++ _) kept.assigned) kept.locals kept.emitted

theorem emit_results (event : String) (args : List Expr) (span : Text.Span) (holding : Holding) :
    bindings.Results holding (.emit event args span)
      (Deed.exec bindings (.emit event args span) holding) := by
  have emits {before middle : Holding} (kept : before.Keeps middle) (emitted : Event) :
      bindings.Results before (.emit event args span) ((modify fun holding =>
        { holding with progress.emitted := holding.progress.emitted.push emitted } : Deed Unit) middle) :=
    .emitted ⟨kept.view, kept.assigned⟩ kept.locals
  apply (Deed.step_keeps bindings).then_cases (.refl holding) (fun _ _ => .failed)
  intro _ begun _ kept
  unfold Deed.emit
  dsimp only
  cases bindings.routine.events.find? event with
  | none => exact .failed kept
  | some contract =>
    dsimp only
    cases (args.take contract.roles.length).mapM bindings.target? with
    | none => exact .failed kept
    | some targets =>
      dsimp only
      cases args[contract.roles.length]? with
      | none => exact emits kept ⟨event, targets, .empty⟩
      | some expr =>
        apply (Deed.eval_keeps bindings expr).then_cases kept (fun _ _ => .failed)
        intro value middle _ kept
        apply (Deed.ofExcept_keeps _).then_cases kept (fun _ _ => .failed)
        exact fun payload _ _ kept => emits kept ⟨event, targets, payload⟩

/-- A single statement comes to one of its results, whatever a body has in hand. -/
theorem exec_results (holding : Holding) : {stmt : Stmt} → stmt.isSingle = true →
    bindings.Results holding stmt (Deed.exec bindings stmt holding)
  | .assign target value span, _ => assign_results bindings target value span holding
  | .emit event args span, _ => emit_results bindings event args span holding
  | .declare type name value span, _ => by
    apply (Deed.step_keeps bindings).then_cases (.refl holding) (fun _ _ => .failed)
    intro _ begun _ kept
    apply (Deed.ofExcept_keeps _).then_cases kept (fun _ _ => .failed)
    intro schema _ _ kept
    apply (Deed.eval_keeps bindings value).then_cases kept (fun _ _ => .failed)
    intro given _ _ kept
    apply (Deed.ofExcept_keeps _).then_cases kept (fun _ _ => .failed)
    exact fun held _ _ kept => .declared ⟨kept.view, kept.assigned⟩ kept.emitted
  | .expr value, _ => by
    apply (Deed.step_keeps bindings).then_cases (.refl holding) (fun _ _ => .failed)
    intro _ begun _ kept
    apply (Deed.eval_keeps bindings value).then_cases kept (fun _ _ => .failed)
    exact fun _ _ _ kept => .evaluated kept

/-! ### Whole runs -/

theorem Deed.Ensures.advances {deed : Deed α} (quiet : deed.Ensures Holding.Keeps) :
    deed.Ensures Holding.Advances :=
  fun holding => (quiet holding).toSpares.advances

theorem holds_advances (condition : Expr) : (Deed.holds bindings condition).Ensures Holding.Advances :=
  .bind .trans (Deed.eval_keeps bindings condition).advances (fun _ => (Deed.ofExcept_keeps _).advances)

theorem repeatWhile_advances {condition : Deed Bool} {body : Deed Unit}
    (asked : condition.Ensures Holding.Advances) (repeated : body.Ensures Holding.Advances) (rounds : Nat) :
    (Deed.repeatWhile bindings condition body rounds).Ensures Holding.Advances := by
  induction rounds with
  | zero => exact .refl
  | succ rounds ih =>
    apply Deed.Ensures.bind .trans asked
    intro holds
    cases holds with
    | false => exact .refl
    | true => exact .bind .trans repeated (fun _ => .bind .trans (Deed.step_keeps bindings).advances (fun _ => ih))

mutual

theorem exec_advances : (stmt : Stmt) → (Deed.exec bindings stmt).Ensures Holding.Advances
  | .assign _ _ _ | .declare _ _ _ _ | .expr _ | .emit _ _ _ =>
    fun holding => (exec_results bindings holding rfl).advances
  | .branch condition yes no _ =>
    .bind .trans (Deed.step_keeps bindings).advances (fun _ =>
      .bind .trans (Deed.eval_keeps bindings condition).advances (fun _ =>
        .bind .trans (Deed.ofExcept_keeps _).advances (fun holds => by
          cases holds with
          | false => exact execBlock_advances no
          | true => exact execBlock_advances yes)))
  | .loop condition body _ =>
    .bind .trans (Deed.step_keeps bindings).advances (fun _ holding =>
      repeatWhile_advances bindings (holds_advances bindings condition) (execBlock_advances body) _ holding)
termination_by structural stmt => stmt

theorem execBlock_advances : (stmts : List Stmt) → (Deed.execBlock bindings stmts).Ensures Holding.Advances
  | [] => .refl
  | stmt :: rest => .bind .trans (exec_advances stmt) (fun _ => execBlock_advances rest)
termination_by structural stmts => stmts

end

end

variable (routine : Routine) (event : Event)

theorem runOn_advances (tuple : List Entity) : (Deed.runOn routine event tuple).Ensures Holding.Advances :=
  .bind .trans (fun _ => Holding.Spares.advances ⟨rfl, rfl⟩) (fun _ => execBlock_advances _ _)

theorem turnOver_advances {deed : List Entity → Deed Unit}
    (each : ∀ tuple, (deed tuple).Ensures Holding.Advances) (lists : List (List Entity))
    (rounds : Nat) (cursor : List Nat) :
    (Deed.turnOver deed lists rounds cursor).Ensures Holding.Advances := by
  induction rounds generalizing cursor with
  | zero => exact .refl
  | succ rounds ih =>
    apply Deed.Ensures.bind .trans (each _)
    intro _
    split
    · exact ih _
    · exact .refl

/-- Whether a run fails or not, the view is what the assignments that it completed made of it. -/
theorem perform_undergoes (situation : Situation) :
    Undergoes situation.view (Deed.perform routine event (.start situation)).2.assigned
      (Deed.perform routine event (.start situation)).2.view := by
  have advances : (Deed.perform routine event).Ensures Holding.Advances := by
    apply Deed.Ensures.bind .trans (Deed.ask_keeps (Routine.candidates_spends _)).advances
    intro answer
    cases answer with
    | none => exact .refl
    | some lists =>
      exact .bind .trans (turnOver_advances (runOn_advances routine event) lists _ _) (fun _ => .refl)
  obtain ⟨more, recorded, undergoes⟩ := advances (.start situation)
  rw [recorded]
  exact undergoes

end Script

/-! ### Dispatches -/

open Script

namespace Scene

variable (scene : Scene) (events : Registry Contract)

/-- A system that is handed an event in the course of a sent one fails. It leaves a store, on which the
systems behind it act in their turn, and what waits next are events that follow from the others. -/
structure Fails (sent : Event) (enrolled : Enrolled) (event : Event) (store : Store) (output : Array Output)
    (failure : Failure) (left : Store) (leftOutput : Array Output) : Prop where
  failed : scene.invoke enrolled event store output = (.error failure, left, leftOutput)
  goesOn : ∃ count depth rest earlier later handings others last lastOutput,
    (scene.course events sent count).waiting = ⟨event, depth⟩ :: rest ∧
    scene.recipients event = earlier ++ (event, enrolled) :: later ∧
    scene.handAll earlier (scene.course events sent count).store (scene.course events sent count).output =
      (handings, store, output) ∧
    scene.handAll later left leftOutput = (others, last, lastOutput) ∧
    scene.course events sent (count + 1) =
      ⟨rest ++ ((handings ++ others).flatMap Handing.followUps).map (⟨·, depth + 1⟩), last, lastOutput,
        (scene.course events sent count).rounds ++
          [⟨depth, .delivered event (handings ++ ⟨event, enrolled, .error failure⟩ :: others)⟩]⟩

variable {scene events}

theorem Hands.first {sent : Event} {enrolled : Enrolled} {later : List (Event × Enrolled)}
    (accepted : scene.checkEvent events scene.store sent = .ok ())
    (addressed : scene.recipients sent = (sent, enrolled) :: later) :
    scene.Hands events sent enrolled sent scene.store #[] :=
  ⟨0, 0, [], [], later, [], rfl, accepted, addressed, rfl⟩

theorem Hands.fails {sent : Event} {enrolled : Enrolled} {event : Event} {store left : Store}
    {output leftOutput : Array Output} (hands : scene.Hands events sent enrolled event store output)
    {failure : Failure}
    (failed : scene.invoke enrolled event store output = (.error failure, left, leftOutput)) :
    scene.Fails events sent enrolled event store output failure left leftOutput := by
  obtain ⟨count, depth, rest, earlier, later, handings, first, accepted, split, handed⟩ := hands.exists_turn
  cases behind : scene.handAll later left leftOutput with
  | mk others last =>
    obtain ⟨last, lastOutput⟩ := last
    refine ⟨failed, count, depth, rest, earlier, later, handings, others, last, lastOutput, first, split,
      handed, behind, ?_⟩
    have turned : scene.takeTurn events event (scene.course events sent count).store
        (scene.course events sent count).output =
        (.delivered event (handings ++ ⟨event, enrolled, .error failure⟩ :: others), last, lastOutput) := by
      rw [takeTurn, accepted, split, handAll_append, handed]
      dsimp only
      rw [handAll, failed]
      dsimp only
      rw [behind]
    rw [course_succ]
    generalize scene.course events sent count = course at first turned
    obtain ⟨waiting, reached, printed, rounds⟩ := course
    dsimp only at first turned ⊢
    subst first
    rw [scene.advance_cons events depth rest rounds turned]
    simp [Turn.followUps, Turn.handings, Handing.followUps]

/-- A system that a script declares is handed an event in the course of a sent one. Its statements do what
they do in place; a single one that fails leaves everything as it was, and one that succeeds changes no
component unless it assigns to one, and then one value of it. However the run ends, the store is what the
completed assignments made of it. Where it fails, the systems behind it go on with that store, and nothing
follows from it. -/
theorem failures_contained (scene : Scene) (events : Registry Contract) {sent : Event} {enrolled : Enrolled}
    {event : Event} {store : Store} {output : Array Output} (loaded : Loaded enrolled.system)
    (hands : scene.Hands events sent enrolled event store output) :
    (scene.checkEvent events scene.store sent = .ok () →
      ∃ count, scene.Follows events sent (scene.dispatch events sent) count) ∧
    (∃ (routine : Routine) (contract : Contract), routine.Scripted ∧
      enrolled.system = routine.toSystem contract) ∧
    ∀ (routine : Routine) (contract : Contract), enrolled.system = routine.toSystem contract →
      (∀ tuple stmt,
        (Deed.exec (routine.bindings event tuple) stmt).Does ((routine.bindings event tuple).exec stmt)) ∧
      (∀ tuple stmt holding, stmt.isSingle = true →
        (routine.bindings event tuple).Results holding stmt
          (Deed.exec (routine.bindings event tuple) stmt holding)) ∧
      ∀ before ended after, before = Situation.mk ⟨store, scene.roster, enrolled.components⟩ output →
        Deed.perform routine event (.start before) = (ended, after) →
        (routine.run event).run before = (ended, after.situation) ∧
        Undergoes before.view after.assigned after.view ∧
        ∀ refs fault, store.bindRoles enrolled.system.roles event = .ok refs → ended = .error fault →
          scene.Fails events sent enrolled event store output
            (.system enrolled.system.name (.script fault)) after.view.store after.situation.output := by
  refine ⟨dispatch_follows, loaded.exists_routine, ?_⟩
  intro routine contract same
  refine ⟨fun _ => exec_does _, fun _ _ holding => exec_results _ holding, ?_⟩
  rintro before ended after rfl performed
  have ran := routine.run_eq_perform event ⟨⟨store, scene.roster, enrolled.components⟩, output⟩
  have undergoes := perform_undergoes routine event ⟨⟨store, scene.roster, enrolled.components⟩, output⟩
  rw [performed] at ran undergoes
  refine ⟨ran, undergoes, ?_⟩
  rintro refs fault bound rfl
  apply hands.fails
  have body : enrolled.system.body ⟨event, refs⟩ = (routine.run event).mapReason .script := by rw [same]; rfl
  unfold invoke
  rw [bound]
  dsimp only
  rw [body, Behavior.run_mapReason, ran]
  rfl

def burnScript : String :=
  "component Lamp\n\tBoolean lit\n\tBoolean seen\nevent Flash()\n" ++
    "system Burn(a<Lamp>) event Tick()\n\ta.Lamp.lit = True\n\temit Flash()\n\ta.Lamp.seen = 1 / 0\n" ++
    "system Note(a<Lamp>) event Tick()\n\ta.Lamp.seen = a.Lamp.lit\n"

def burnCatalog : Catalog :=
  match Script.load .standard burnScript .empty with
  | .ok (_, after) => after
  | .error _ => .empty

def burn : Scene :=
  ⟨"burn", .standard, ⟨1, [], 1, #[some (Signature.empty.insert ⟨0⟩)], 1⟩,
    ⟨#[⟨.of "Lamp" (.record [("lit", .basic .boolean), ("seen", .basic .boolean)]),
      some ⟨#[some (.record [("lit", .boolean false), ("seen", .boolean false)])], 1⟩⟩]⟩, [], [],
    burnCatalog.systems.entries.map (⟨·, [⟨0⟩]⟩)⟩

theorem burn_fails :
    let tick : Event := ⟨"Tick", [], .empty⟩
    let failure : Failure := .system "Burn" (.script .divisionByZero)
    let lamp (lit seen : Bool) := some (.record [("lit", .boolean lit), ("seen", .boolean seen)])
    (∃ enrolled left, enrolled ∈ burn.systems ∧ left.get? ⟨0⟩ ⟨0⟩ = lamp true false ∧
      burn.Fails burnCatalog.events tick enrolled tick burn.store #[] failure left #[]) ∧
      (burn.dispatch burnCatalog.events tick).result = .ok ⟨#[tick], 1, #[failure]⟩ ∧
      (burn.dispatch burnCatalog.events tick).scene.store.get? ⟨0⟩ ⟨0⟩ = lamp true true := by
  intro tick failure lamp
  obtain ⟨succeeded, accepted, present, first, result, left⟩ :
      (Script.load .standard burnScript .empty).isOk = true ∧
      burn.checkEvent burnCatalog.events burn.store tick = .ok () ∧ burn.systems.isEmpty = false ∧
      (∀ enrolled ∈ burn.systems.head?, enrolled.system.listensTo "Tick" = true ∧
        enrolled.system.name = "Burn" ∧ burn.store.bindRoles enrolled.system.roles tick = .ok [] ∧
        let acted := (enrolled.system.body ⟨tick, []⟩).run
          ⟨⟨burn.store, burn.roster, enrolled.components⟩, #[]⟩
        acted.1 = .error (.script .divisionByZero) ∧ acted.2.view.store.get? ⟨0⟩ ⟨0⟩ = lamp true false ∧
          acted.2.output = #[]) ∧
      (burn.dispatch burnCatalog.events tick).result = .ok ⟨#[tick], 1, #[failure]⟩ ∧
      (burn.dispatch burnCatalog.events tick).scene.store.get? ⟨0⟩ ⟨0⟩ = lamp true true := by
    decide +kernel
  refine ⟨?_, result, left⟩
  obtain ⟨enrolled, others, systems⟩ := List.exists_cons_of_ne_nil (List.isEmpty_eq_false_iff.mp present)
  have member : enrolled ∈ burn.systems := systems ▸ List.mem_cons_self
  obtain ⟨listens, named, bound, failed, lit, silent⟩ := first enrolled (by simp [systems])
  have loaded : Loaded enrolled.system := by
    obtain ⟨system, put, rfl⟩ := List.mem_map.mp member
    obtain ⟨⟨summary, after⟩, loads⟩ := exists_ok_of_isOk succeeded
    rw [burnCatalog, loads] at put
    exact ⟨_, _, _, summary, after, loads, put, List.not_mem_nil⟩
  have addressed : burn.recipients tick =
      (tick, enrolled) :: (others.filter (fun other => other.system.listensTo tick.name)).map (tick, ·) := by
    have kept : (enrolled :: others).filter (fun other => other.system.listensTo tick.name) =
        enrolled :: others.filter (fun other => other.system.listensTo tick.name) :=
      List.filter_cons_of_pos listens
    rw [recipients, systems, kept, List.map_cons]
  obtain ⟨-, ⟨routine, contract, -, same⟩, known⟩ :=
    failures_contained burn burnCatalog.events loaded (.first accepted addressed)
  rcases performed : Deed.perform routine tick (.start ⟨⟨burn.store, burn.roster, enrolled.components⟩, #[]⟩)
    with ⟨ended, after⟩
  obtain ⟨ran, -, contained⟩ := (known routine contract same).2.2 _ _ _ rfl performed
  have body : enrolled.system.body ⟨tick, []⟩ = (routine.run tick).mapReason .script := by rw [same]; rfl
  rw [body, Behavior.run_mapReason, ran] at failed lit silent
  cases ended with
  | ok found => cases failed
  | error fault =>
    cases failed
    have fails := contained [] _ bound rfl
    rw [named, silent] at fails
    exact ⟨enrolled, _, member, lit, fails⟩

end Scene

end Stagecraft
