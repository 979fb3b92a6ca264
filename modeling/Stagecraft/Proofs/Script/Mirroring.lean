import Stagecraft.Proofs.Mirroring
import Stagecraft.Proofs.Script.Soundness

/-!
Mirroring of routines: a routine on copies of entities. Its names stand for copies where they stood for
originals; its locals hold values, and no value knows an entity. So a run goes the same way, and emits the
same events with copies for targets.
-/

namespace Stagecraft.Script

variable {place : Entity → Entity} {view copy : View}

theorem Fault.OfValues.rename {fault : Fault} (ofValues : fault.OfValues) (place : Entity → Entity) :
    fault.rename place = fault := by
  cases fault with
  | scene => exact ofValues.elim
  | _ => rfl

theorem ofExcept_mirrors {α : Type} {result : Except Fault α}
    (refused : ∀ fault, result = .error fault → fault.OfValues) :
    Behavior.Mirrors place view copy Eq (.ofExcept result) (.ofExcept result) :=
  .ofExcept (fun fault failed => (refused fault failed).rename place)

structure Progress.Mirrors (place : Entity → Entity) (view : View) (one other : Progress) : Prop where
  locals : other.locals = one.locals
  steps : other.steps = one.steps
  emitted : other.emitted = one.emitted.map (Event.rename place)
  alive : ∀ event ∈ one.emitted, ∀ target ∈ event.targets, view.roster.isAlive target = true

namespace Run

variable {α β γ δ : Type}

/-- Two parts of runs end with results as described, and mirror each other all the way. -/
def Mirrors (place : Entity → Entity) (view copy : View) (post : α → β → Prop) (run : Run α)
    (image : Run β) : Prop :=
  ∀ one other, Progress.Mirrors place view one other →
    Behavior.Mirrors place view copy
      (fun result answer => post result.1 answer.1 ∧ Progress.Mirrors place view result.2 answer.2)
      (run one) (image other)

namespace Mirrors

theorem pure {result : α} {image : β} {post : α → β → Prop} (satisfied : post result image) :
    Mirrors place view copy post (Pure.pure result) (Pure.pure image) :=
  fun _ _ mirrors => Behavior.Mirrors.pure ⟨satisfied, mirrors⟩

theorem bind {run : Run α} {image : Run β} {next : α → Run γ} {nextImage : β → Run δ}
    {middle : α → β → Prop} {final : γ → δ → Prop} (first : Mirrors place view copy middle run image)
    (second : ∀ result other, middle result other →
      Mirrors place view copy final (next result) (nextImage other)) :
    Mirrors place view copy final (run >>= next) (image >>= nextImage) :=
  fun one other mirrors => Behavior.Mirrors.bind (first one other mirrors)
    (fun result answer ended => second result.1 answer.1 ended.1 result.2 answer.2 ended.2)

theorem fail {fault : Fault} {post : α → β → Prop} (impersonal : fault.rename place = fault) :
    Mirrors place view copy post (Run.fail fault) (Run.fail fault) := by
  intro one other _
  have failed : Behavior.Mirrors place view copy
      (fun (result : α × Progress) (answer : β × Progress) =>
        post result.1 answer.1 ∧ Progress.Mirrors place view result.2 answer.2)
      (.fail fault) (.fail (fault.rename place)) := .fail
  rwa [impersonal] at failed

theorem lift {behavior : Behavior Fault α} {image : Behavior Fault β} {post : α → β → Prop}
    (mirrors : Behavior.Mirrors place view copy post behavior image) :
    Mirrors place view copy post (liftM behavior) (liftM image) :=
  fun _ _ before => Behavior.Mirrors.bind mirrors
    (fun _ _ satisfied => Behavior.Mirrors.pure ⟨satisfied, before⟩)

theorem ofExcept {result : Except Fault α}
    (impersonal : ∀ fault, result = .error fault → fault.rename place = fault) :
    Mirrors place view copy Eq (liftM (Behavior.ofExcept result))
      (liftM (Behavior.ofExcept result)) :=
  lift (.ofExcept impersonal)

theorem get : Mirrors place view copy (Progress.Mirrors place view)
    (MonadState.get : Run Progress) MonadState.get :=
  fun _ _ mirrors => Behavior.Mirrors.pure ⟨mirrors, mirrors⟩

theorem put {next nextImage : Progress} (mirrors : Progress.Mirrors place view next nextImage) :
    Mirrors place view copy (fun _ _ => True) (set next : Run PUnit) (set nextImage : Run PUnit) :=
  fun _ _ _ => Behavior.Mirrors.pure ⟨trivial, mirrors⟩

theorem update {change changeImage : Progress → Progress}
    (mirrors : ∀ one other, Progress.Mirrors place view one other →
      Progress.Mirrors place view (change one) (changeImage other)) :
    Mirrors place view copy (fun _ _ => True) (modify change : Run PUnit)
      (modify changeImage : Run PUnit) :=
  fun one other before => Behavior.Mirrors.pure ⟨trivial, mirrors one other before⟩

theorem forM {α : Type} {step stepImage : α → Run Unit} {change : α → α} {members : List α}
    (each : ∀ member ∈ members,
      Mirrors place view copy (fun _ _ => True) (step member) (stepImage (change member))) :
    Mirrors place view copy (fun _ _ => True) (members.forM step)
      ((members.map change).forM stepImage) := by
  induction members with
  | nil => exact .pure trivial
  | cons member rest ih =>
    obtain ⟨here, others⟩ := List.forall_mem_cons.mp each
    change Mirrors place view copy _ (step member >>= fun _ => rest.forM step)
      (stepImage (change member) >>= fun _ => (rest.map change).forM stepImage)
    exact .bind here (fun _ _ _ => ih others)

end Mirrors

end Run

/-! ### Components -/

namespace Routine

variable {routine : Routine} {entity : Entity}

theorem componentId_mirrors (twins : View.Twins place view copy) (component : String) :
    Behavior.Mirrors place view copy
      (fun id image =>
        view.componentId? component = some id ∧ copy.componentId? component = some image)
      (routine.componentId component) (routine.componentId component) := by
  apply Behavior.Mirrors.bind (Behavior.componentId_mirrors component)
  rintro answer image ⟨rfl, rfl⟩
  have both := twins.isSome_componentId? component
  cases known : view.componentId? component with
  | none =>
    rw [known] at both
    rw [Option.not_isSome_iff_eq_none.mp (Bool.eq_false_iff.mp both)]
    exact .fail
  | some id =>
    rw [known] at both
    obtain ⟨idCopy, knownCopy⟩ := Option.isSome_iff_exists.mp both
    rw [knownCopy]
    exact .pure ⟨rfl, rfl⟩

theorem componentIds_mirrors (twins : View.Twins place view copy) (components : List String) :
    Behavior.Mirrors place view copy
      (fun ids images => view.Stand components ids ∧ copy.Stand components images)
      (components.mapM routine.componentId) (components.mapM routine.componentId) := by
  induction components with
  | nil => exact .pure ⟨.nil, .nil⟩
  | cons component rest ih =>
    rw [List.mapM_cons]
    apply Behavior.Mirrors.bind (componentId_mirrors twins component)
    rintro id image ⟨known, knownCopy⟩
    apply Behavior.Mirrors.bind ih
    rintro ids images ⟨stand, standCopy⟩
    exact .pure ⟨.cons known stand, .cons knownCopy standCopy⟩

theorem readComponent_mirrors (twins : View.Twins place view copy)
    (alive : view.roster.isAlive entity = true) (component : String) :
    Behavior.Mirrors place view copy Eq (routine.readComponent entity component)
      (routine.readComponent (place entity) component) := by
  apply Behavior.Mirrors.bind (componentId_mirrors twins component)
  rintro id image ⟨known, knownCopy⟩
  apply Behavior.Mirrors.bind (Behavior.value_mirrors alive known knownCopy)
  rintro answer _ rfl
  cases answer with
  | none => exact .fail
  | some value => exact .pure rfl

theorem changeComponent_mirrors (twins : View.Twins place view copy)
    (alive : view.roster.isAlive entity = true) (component : String)
    {change : Value → Except Fault Value}
    (impersonal : ∀ value fault, change value = .error fault → fault.rename place = fault) :
    Behavior.Mirrors place view copy (fun _ _ => True)
      (routine.changeComponent entity component change)
      (routine.changeComponent (place entity) component change) := by
  apply Behavior.Mirrors.bind (componentId_mirrors twins component)
  rintro id image ⟨known, knownCopy⟩
  apply Behavior.Mirrors.bind (Behavior.value_mirrors alive known knownCopy)
  rintro answer _ rfl
  cases answer with
  | none => exact .fail
  | some value =>
    apply Behavior.Mirrors.bind (.ofExcept (impersonal value))
    rintro changed _ rfl
    apply Behavior.Mirrors.bind (Behavior.write_mirrors twins alive known knownCopy changed)
    rintro written _ rfl
    cases written with
    | ok => exact .pure trivial
    | error fault => exact .fail

end Routine

/-! ### Expressions -/

namespace Bindings

def rename (place : Entity → Entity) (bindings : Bindings) : Bindings :=
  ⟨bindings.routine, bindings.entities.map (fun entry => (entry.1, place entry.2))⟩

theorem entity?_rename (bindings : Bindings) (name : String) :
    (bindings.rename place).entity? name = (bindings.entity? name).map place := by
  unfold entity? rename
  dsimp only
  induction bindings.entities with
  | nil => rfl
  | cons entry rest ih =>
    rw [List.map_cons, List.lookup_cons, List.lookup_cons, ih]
    split <;> rfl

def Living (view : View) (bindings : Bindings) : Prop :=
  ∀ entry ∈ bindings.entities, view.roster.isAlive entry.2 = true

theorem Living.isAlive {bindings : Bindings} (living : bindings.Living view) {name : String}
    {entity : Entity} (found : bindings.entity? name = some entity) :
    view.roster.isAlive entity = true := by
  obtain ⟨before, after, same, -⟩ := List.lookup_eq_some_iff.mp found
  apply living (name, entity)
  rw [same]
  simp

end Bindings

section

variable {bindings : Bindings}

theorem readLocal_mirrors (values : Keyed Value) (name : String) :
    Behavior.Mirrors place view copy Eq (.ofExcept (bindings.readLocal values name))
      (.ofExcept ((bindings.rename place).readLocal values name)) := by
  have same : (bindings.rename place).readLocal values name = bindings.readLocal values name := by
    rw [Bindings.readLocal, Bindings.readLocal, Bindings.entity?_rename, Option.isSome_map]
    rfl
  rw [same]
  apply Behavior.Mirrors.ofExcept
  intro fault failed
  unfold Bindings.readLocal at failed
  split at failed
  · cases failed
    rfl
  · split at failed
    · cases failed
    · cases failed
      rfl

theorem callFunction_mirrors (keys : Keys) (system name : String) (args : List Value) :
    Behavior.Mirrors place view copy Eq (callFunction keys system name args)
      (callFunction keys system name args) := by
  unfold callFunction
  split
  · unfold Builtin.call
    split
    · exact .bind (Behavior.output_mirrors _) (fun _ _ _ => .pure rfl)
    · exact .pure rfl
    · exact .fail
  · exact .fail

mutual

theorem eval_mirrors (twins : View.Twins place view copy) (living : bindings.Living view)
    (values : Keyed Value) : (expr : Expr) →
      Behavior.Mirrors place view copy Eq (bindings.eval values expr)
        ((bindings.rename place).eval values expr)
  | .literal _ _ => .pure rfl
  | .var name _ => readLocal_mirrors values name
  | .field base name span => by
    have part : Behavior.Mirrors place view copy Eq
        (do let value ← bindings.eval values base
            Behavior.ofExcept (fieldOf value name))
        (do let value ← (bindings.rename place).eval values base
            Behavior.ofExcept (fieldOf value name)) := by
      apply Behavior.Mirrors.bind (eval_mirrors twins living values base)
      rintro value _ rfl
      exact ofExcept_mirrors (fun _ => fieldOf_ofValues)
    rw [Bindings.eval_field, Bindings.eval_field]
    dsimp only
    split
    · next root _ =>
      rw [Bindings.entity?_rename]
      cases found : bindings.entity? root with
      | none => exact part
      | some entity =>
        exact Routine.readComponent_mirrors twins (living.isAlive found) name
    · exact part
  | .unary op operand _ => by
    apply Behavior.Mirrors.bind (eval_mirrors twins living values operand)
    rintro value _ rfl
    exact ofExcept_mirrors (fun _ => UnaryOp.apply_ofValues)
  | .binary op left right _ => by
    apply Behavior.Mirrors.bind (eval_mirrors twins living values left)
    rintro leftValue _ rfl
    apply Behavior.Mirrors.bind (eval_mirrors twins living values right)
    rintro rightValue _ rfl
    exact ofExcept_mirrors (fun _ => BinaryOp.apply_ofValues)
  | .call name args _ => by
    apply Behavior.Mirrors.bind (evalAll_mirrors twins living values args)
    rintro results _ rfl
    exact callFunction_mirrors _ _ name results
  | .vector x y z _ => by
    have component (value : Value) : Behavior.Mirrors place view copy Eq
        (.ofExcept (Bindings.asComponent value)) (.ofExcept (Bindings.asComponent value)) :=
      ofExcept_mirrors (fun _ => Bindings.asComponent_ofValues)
    apply Behavior.Mirrors.bind (eval_mirrors twins living values x)
    rintro xValue _ rfl
    apply Behavior.Mirrors.bind (component xValue)
    rintro xPart _ rfl
    apply Behavior.Mirrors.bind (eval_mirrors twins living values y)
    rintro yValue _ rfl
    apply Behavior.Mirrors.bind (component yValue)
    rintro yPart _ rfl
    apply Behavior.Mirrors.bind (eval_mirrors twins living values z)
    rintro zValue _ rfl
    apply Behavior.Mirrors.bind (component zValue)
    rintro zPart _ rfl
    exact .pure rfl
termination_by structural expr => expr

theorem evalAll_mirrors (twins : View.Twins place view copy) (living : bindings.Living view)
    (values : Keyed Value) : (exprs : List Expr) →
      Behavior.Mirrors place view copy Eq (bindings.evalAll values exprs)
        ((bindings.rename place).evalAll values exprs)
  | [] => .pure rfl
  | expr :: rest => by
    apply Behavior.Mirrors.bind (eval_mirrors twins living values expr)
    rintro value _ rfl
    apply Behavior.Mirrors.bind (evalAll_mirrors twins living values rest)
    rintro results _ rfl
    exact .pure rfl
termination_by structural exprs => exprs

end

/-! ### Statements -/

theorem resolve_rename {components : Registry Component} {source : String} {type : TypeExpr}
    {fault : Fault} (failed : resolve components source type = .error fault) :
    fault.rename place = fault := by
  obtain ⟨_, _, rfl⟩ := resolve_error failed
  rfl

theorem step_mirrors : Run.Mirrors place view copy (fun _ _ => True) bindings.step
    (bindings.rename place).step := by
  apply Run.Mirrors.bind .get
  intro one other mirrors
  change Run.Mirrors place view copy _ _ (if bindings.routine.limit ≤ other.steps then _ else _)
  rw [mirrors.steps]
  split
  · exact .fail rfl
  · have next : Progress.Mirrors place view { one with steps := one.steps + 1 }
        { other with steps := one.steps + 1 } :=
      ⟨mirrors.locals, rfl, mirrors.emitted, mirrors.alive⟩
    exact .bind (.put next) (fun _ _ _ => .lift Behavior.step_mirrors)

theorem evalHere_mirrors (twins : View.Twins place view copy) (living : bindings.Living view)
    (expr : Expr) : Run.Mirrors place view copy Eq (bindings.evalHere expr)
      ((bindings.rename place).evalHere expr) := by
  apply Run.Mirrors.bind .get
  intro one other mirrors
  rw [mirrors.locals]
  exact .lift (eval_mirrors twins living one.locals expr)

theorem setLocal_mirrors (name : String) (value : Value) :
    Run.Mirrors place view copy (fun _ _ => True) (Bindings.setLocal name value)
      (Bindings.setLocal name value) :=
  .update (fun _ _ mirrors => ⟨congrArg (Keyed.insert name value) mirrors.locals, mirrors.steps,
    mirrors.emitted, mirrors.alive⟩)

theorem assign_mirrors (twins : View.Twins place view copy) (living : bindings.Living view)
    (target : Place) (value : Value) :
    Run.Mirrors place view copy (fun _ _ => True) (bindings.assign target value)
      ((bindings.rename place).assign target value) := by
  unfold Bindings.assign
  rw [Bindings.entity?_rename]
  cases found : bindings.entity? target.root with
  | some entity =>
    dsimp only [Option.map_some]
    cases target.path with
    | nil => exact .fail rfl
    | cons component path =>
      exact .lift (Routine.changeComponent_mirrors twins (living.isAlive found) component
        (fun _ fault failed =>
          (setPath_ofValues failed).rename place))
  | none =>
    dsimp only [Option.map_none]
    apply Run.Mirrors.bind .get
    intro one other mirrors
    rw [mirrors.locals]
    split
    · next slot _ =>
      apply Run.Mirrors.bind (.lift (ofExcept_mirrors (fun _ => setPath_ofValues)))
      rintro changed _ rfl
      exact setLocal_mirrors target.root changed
    · split
      · exact setLocal_mirrors target.root value
      · exact .fail rfl

theorem targets_rename (args : List Expr) : args.mapM (bindings.rename place).target? =
    (args.mapM bindings.target?).map (List.map place) := by
  have single (arg : Expr) :
      (bindings.rename place).target? arg = (bindings.target? arg).map place := by
    cases arg with
    | var name span => exact bindings.entity?_rename name
    | _ => rfl
  induction args with
  | nil => rfl
  | cons arg rest ih =>
    rw [List.mapM_cons, List.mapM_cons, single, ih]
    cases bindings.target? arg with
    | none => rfl
    | some target => cases rest.mapM bindings.target? <;> rfl

theorem Bindings.Living.targets (living : bindings.Living view) {args : List Expr}
    {targets : List Entity} (named : args.mapM bindings.target? = some targets) :
    ∀ target ∈ targets, view.roster.isAlive target = true := by
  have single (arg : Expr) (target : Entity) (found : bindings.target? arg = some target) :
      view.roster.isAlive target = true := by
    cases arg with
    | var name span => exact living.isAlive found
    | _ => cases found
  induction args generalizing targets with
  | nil =>
    cases named
    exact nofun
  | cons arg rest ih =>
    rw [List.mapM_cons, Option.bind_eq_bind, Option.bind_eq_some_iff] at named
    obtain ⟨target, found, named⟩ := named
    rw [Option.bind_eq_bind, Option.bind_eq_some_iff] at named
    obtain ⟨others, behind, same⟩ := named
    cases same
    exact List.forall_mem_cons.mpr ⟨single arg target found, ih behind⟩

theorem emit_mirrors (twins : View.Twins place view copy) (living : bindings.Living view)
    (event : String) (args : List Expr) :
    Run.Mirrors place view copy (fun _ _ => True) (bindings.emit event args)
      ((bindings.rename place).emit event args) := by
  unfold Bindings.emit
  rw [show (bindings.rename place).routine = bindings.routine from rfl]
  cases bindings.routine.events.find? event with
  | none => exact .fail rfl
  | some contract =>
    dsimp only
    rw [targets_rename]
    cases named : (args.take contract.roles.length).mapM bindings.target? with
    | none => exact .fail rfl
    | some targets =>
      dsimp only [Option.map_some]
      have recorded (payload : Value) : Run.Mirrors place view copy (fun _ _ => True)
          (modify fun progress : Progress =>
            { progress with emitted := progress.emitted.push ⟨event, targets, payload⟩ })
          (modify fun progress : Progress =>
            { progress with emitted := progress.emitted.push ⟨event, targets.map place, payload⟩ }) := by
        apply Run.Mirrors.update
        intro one other mirrors
        refine ⟨mirrors.locals, mirrors.steps, ?_, ?_⟩
        · rw [mirrors.emitted, Array.map_push]
          rfl
        · intro emitted member
          rcases Array.mem_push.mp member with before | rfl
          · exact mirrors.alive emitted before
          · exact living.targets named
      split
      · exact recorded .empty
      · next expr _ =>
        apply Run.Mirrors.bind (evalHere_mirrors twins living expr)
        rintro value _ rfl
        apply Run.Mirrors.bind (.lift (ofExcept_mirrors (fun _ => coerce_ofValues)))
        rintro payload _ rfl
        exact recorded payload

theorem condition_mirrors (twins : View.Twins place view copy) (living : bindings.Living view)
    (expr : Expr) :
    Run.Mirrors place view copy Eq
      (do let value ← bindings.evalHere expr
          liftM (Behavior.ofExcept (Bindings.asCondition value)))
      (do let value ← (bindings.rename place).evalHere expr
          liftM (Behavior.ofExcept (Bindings.asCondition value))) := by
  apply Run.Mirrors.bind (evalHere_mirrors twins living expr)
  rintro value _ rfl
  exact .lift (ofExcept_mirrors (fun _ => Bindings.asCondition_ofValues))

theorem repeatWhile_mirrors {condition conditionCopy : Run Bool} {body bodyCopy : Run Unit}
    (asked : Run.Mirrors place view copy Eq condition conditionCopy)
    (repeated : Run.Mirrors place view copy (fun _ _ => True) body bodyCopy) (rounds : Nat) :
    Run.Mirrors place view copy (fun _ _ => True) (bindings.repeatWhile condition body rounds)
      ((bindings.rename place).repeatWhile conditionCopy bodyCopy rounds) := by
  induction rounds with
  | zero => exact .fail rfl
  | succ rounds ih =>
    apply Run.Mirrors.bind asked
    rintro holds _ rfl
    cases holds with
    | false => exact .pure trivial
    | true => exact .bind repeated (fun _ _ _ => .bind step_mirrors (fun _ _ _ => ih))

mutual

/-- A statement does to copies what it does to originals. -/
theorem exec_mirrors (twins : View.Twins place view copy) (living : bindings.Living view) :
    (stmt : Stmt) → Run.Mirrors place view copy (fun _ _ => True) (bindings.exec stmt)
      ((bindings.rename place).exec stmt)
  | .assign target value _ => by
    apply Run.Mirrors.bind step_mirrors
    intro _ _ _
    apply Run.Mirrors.bind (evalHere_mirrors twins living value)
    rintro result _ rfl
    exact assign_mirrors twins living target result
  | .declare type name value _ => by
    apply Run.Mirrors.bind step_mirrors
    intro _ _ _
    apply Run.Mirrors.bind (.ofExcept (fun _ => resolve_rename))
    rintro schema _ rfl
    apply Run.Mirrors.bind (evalHere_mirrors twins living value)
    rintro result _ rfl
    apply Run.Mirrors.bind (.lift (ofExcept_mirrors (fun _ => coerce_ofValues)))
    rintro content _ rfl
    exact setLocal_mirrors name content
  | .expr value => by
    apply Run.Mirrors.bind step_mirrors
    intro _ _ _
    exact .bind (evalHere_mirrors twins living value) (fun _ _ _ => .pure trivial)
  | .branch condition yes no _ => by
    apply Run.Mirrors.bind step_mirrors
    intro _ _ _
    apply Run.Mirrors.bind (evalHere_mirrors twins living condition)
    rintro value _ rfl
    apply Run.Mirrors.bind (.lift (ofExcept_mirrors (fun _ => Bindings.asCondition_ofValues)))
    rintro holds _ rfl
    cases holds with
    | false => exact execBlock_mirrors twins living no
    | true => exact execBlock_mirrors twins living yes
  | .loop condition body _ => by
    apply Run.Mirrors.bind step_mirrors
    intro _ _ _
    apply Run.Mirrors.bind .get
    intro one other mirrors
    rw [mirrors.steps]
    exact repeatWhile_mirrors (condition_mirrors twins living condition)
      (execBlock_mirrors twins living body) _
  | .emit event args _ => by
    apply Run.Mirrors.bind step_mirrors
    intro _ _ _
    exact emit_mirrors twins living event args
termination_by structural stmt => stmt

theorem execBlock_mirrors (twins : View.Twins place view copy) (living : bindings.Living view) :
    (stmts : List Stmt) → Run.Mirrors place view copy (fun _ _ => True) (bindings.execBlock stmts)
      ((bindings.rename place).execBlock stmts)
  | [] => .pure trivial
  | stmt :: rest => .bind (exec_mirrors twins living stmt)
      (fun _ _ _ => execBlock_mirrors twins living rest)
termination_by structural stmts => stmts

end

end

/-! ### Runs -/

namespace Routine

variable {routine : Routine}

theorem bindNames_rename (bound : List (String × Entity)) (roles : List RoleDecl)
    (entities : List Entity) :
    bindNames (bound.map (fun entry => (entry.1, place entry.2))) roles (entities.map place) =
      (bindNames bound roles entities).map (fun entry => (entry.1, place entry.2)) := by
  induction roles generalizing bound entities with
  | nil => rfl
  | cons role rest ih =>
    cases entities with
    | nil => rfl
    | cons entity others =>
      rw [List.map_cons]
      unfold bindNames
      cases role.name with
      | none => exact ih bound others
      | some name => exact ih ((name, entity) :: bound) others

theorem mem_bindNames {bound : List (String × Entity)} {roles : List RoleDecl}
    {entities : List Entity} {entry : String × Entity}
    (member : entry ∈ bindNames bound roles entities) : entry ∈ bound ∨ entry.2 ∈ entities := by
  induction roles generalizing bound entities with
  | nil => exact .inl member
  | cons role rest ih =>
    cases entities with
    | nil => exact .inl member
    | cons entity others =>
      unfold bindNames at member
      split at member
      · rcases ih member with before | behind
        · rcases List.mem_cons.mp before with rfl | earlier
          · exact .inr List.mem_cons_self
          · exact .inl earlier
        · exact .inr (List.mem_cons_of_mem entity behind)
      · exact (ih member).imp_right (List.mem_cons_of_mem entity)

theorem bindings_rename (event : Event) (tuple : List Entity) :
    routine.bindings (event.rename place) (tuple.map place) =
      (routine.bindings event tuple).rename place := by
  have outer : bindNames [] routine.decl.event.roles (event.targets.map place) =
      (bindNames [] routine.decl.event.roles event.targets).map
        (fun entry => (entry.1, place entry.2)) := bindNames_rename [] _ _
  unfold bindings Bindings.rename
  rw [← bindNames_rename, ← outer]
  rfl

theorem bindings_living {event : Event} {tuple : List Entity}
    (targets : ∀ target ∈ event.targets, view.roster.isAlive target = true)
    (alive : ∀ entity ∈ tuple, view.roster.isAlive entity = true) :
    (routine.bindings event tuple).Living view := by
  intro entry member
  rcases mem_bindNames member with inner | matched
  · rcases mem_bindNames inner with nowhere | target
    · cases nowhere
    · exact targets _ target
  · exact alive _ matched

theorem candidates_mirrors (twins : View.Twins place view copy) (params : List RoleDecl) :
    Behavior.Mirrors place view copy
      (fun answer image => image = answer.map (List.map (List.map place)) ∧
        ∀ lists, answer = some lists →
          ∀ options ∈ lists, ∀ entity ∈ options, view.roster.isAlive entity = true)
      (routine.candidates params) (routine.candidates params) := by
  induction params with
  | nil =>
    apply Behavior.Mirrors.pure
    refine ⟨rfl, ?_⟩
    rintro _ ⟨⟩
    exact nofun
  | cons param rest ih =>
    apply Behavior.Mirrors.bind (componentIds_mirrors twins param.components)
    rintro ids images ⟨stand, standCopy⟩
    apply Behavior.Mirrors.bind (Behavior.matching_mirrors twins stand standCopy)
    rintro entities _ ⟨rfl, alive⟩
    rw [List.isEmpty_map]
    split
    · exact .pure ⟨rfl, nofun⟩
    · apply Behavior.Mirrors.bind ih
      rintro others _ ⟨rfl, aliveOthers⟩
      apply Behavior.Mirrors.pure
      refine ⟨?_, ?_⟩
      · rw [Option.map_map, Option.map_map]
        rfl
      · intro lists same
        obtain ⟨remaining, rfl, rfl⟩ := Option.map_eq_some_iff.mp same
        exact List.forall_mem_cons.mpr ⟨alive, aliveOthers remaining rfl⟩

theorem forEachTuple_mirrors {act actCopy : List Entity → Run Unit}
    (acts : ∀ tuple, (∀ entity ∈ tuple, view.roster.isAlive entity = true) →
      Run.Mirrors place view copy (fun _ _ => True) (act tuple) (actCopy (tuple.map place)))
    {lists : List (List Entity)}
    (alive : ∀ options ∈ lists, ∀ entity ∈ options, view.roster.isAlive entity = true)
    {chosen : List Entity} (aliveChosen : ∀ entity ∈ chosen, view.roster.isAlive entity = true) :
    Run.Mirrors place view copy (fun _ _ => True) (forEachTuple act lists chosen)
      (forEachTuple actCopy (lists.map (List.map place)) (chosen.map place)) := by
  induction lists generalizing chosen with
  | nil =>
    have last := acts chosen.reverse
      (fun entity member => aliveChosen entity (List.mem_reverse.mp member))
    rw [List.map_reverse] at last
    exact last
  | cons options rest ih =>
    obtain ⟨here, others⟩ := List.forall_mem_cons.mp alive
    apply Run.Mirrors.forM
    intro entity member
    exact ih others (List.forall_mem_cons.mpr ⟨here entity member, aliveChosen⟩)

theorem runOn_mirrors (twins : View.Twins place view copy) {event : Event}
    (targets : ∀ target ∈ event.targets, view.roster.isAlive target = true) {tuple : List Entity}
    (alive : ∀ entity ∈ tuple, view.roster.isAlive entity = true) :
    Run.Mirrors place view copy (fun _ _ => True) (routine.runOn event tuple)
      (routine.runOn (event.rename place) (tuple.map place)) := by
  unfold runOn
  rw [bindings_rename]
  apply Run.Mirrors.bind (.update ?_)
  · exact fun _ _ _ => execBlock_mirrors twins (bindings_living targets alive) routine.decl.body
  · exact fun _ _ mirrors => ⟨rfl, mirrors.steps, mirrors.emitted, mirrors.alive⟩

/-- A run for copies emits what a run for originals emits, with copies for targets. -/
theorem run_mirrors (twins : View.Twins place view copy) {event : Event}
    (targets : ∀ target ∈ event.targets, view.roster.isAlive target = true) :
    Behavior.Mirrors place view copy
      (fun found image => image = found.map (Event.rename place) ∧
        ∀ event ∈ found, ∀ target ∈ event.targets, view.roster.isAlive target = true)
      (routine.run event) (routine.run (event.rename place)) := by
  apply Behavior.Mirrors.bind (candidates_mirrors twins routine.decl.params)
  rintro answer _ ⟨rfl, alive⟩
  cases answer with
  | none => exact .pure ⟨rfl, nofun⟩
  | some lists =>
    have all : Run.Mirrors place view copy (fun _ _ => True)
        (forEachTuple (routine.runOn event) lists [])
        (forEachTuple (routine.runOn (event.rename place)) (lists.map (List.map place)) []) :=
      forEachTuple_mirrors (fun _ => runOn_mirrors twins targets) (alive lists rfl) nofun
    apply Behavior.Mirrors.bind
      (all ⟨[], #[], 0⟩ ⟨[], #[], 0⟩ ⟨rfl, rfl, Array.map_empty.symm, nofun⟩)
    rintro ⟨_, progress⟩ ⟨_, progressCopy⟩ ⟨-, mirrors⟩
    apply Behavior.Mirrors.pure
    refine ⟨?_, fun event member => mirrors.alive event (Array.mem_toList_iff.mp member)⟩
    rw [mirrors.emitted, Array.toList_map]

end Routine

end Stagecraft.Script
