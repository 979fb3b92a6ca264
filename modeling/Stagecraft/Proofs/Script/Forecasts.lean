import Stagecraft.Proofs.Registration
import Stagecraft.Proofs.Script.Failures

/-!
Forecasts: what schemas alone tell of an expression. Which schema its value has, and which fault it fails
with, can be read off the schemas of what it refers to; nothing but a division by zero hangs on what the
values are. So states that differ in the contents of values only agree on what makes sense in them.
-/

namespace Stagecraft

theorem Value.lookup_schemas (fields : List (String × Value)) (name : String) :
    (schemas fields).lookup name = (fields.lookup name).map schema := by
  induction fields with
  | nil => rfl
  | cons field rest ih =>
    obtain ⟨other, value⟩ := field
    rw [schemas, List.lookup_cons, List.lookup_cons, ih]
    cases name == other <;> rfl

theorem Value.basic?_schema (value : Value) : value.schema.basic? = value.basic? := by
  cases value <;> rfl

theorem Vector3.isSome_axis? (v : Vector3) (name : String) :
    (v.axis? name).isSome = true ↔ name ∈ ["x", "y", "z"] := by
  unfold axis?
  split
  · simp
  · simp
  · simp
  · next notX notY notZ => simpa using ⟨notX, notY, notZ⟩

namespace Script

/-- The faults that hang on what values are, and not on their schemas. -/
def Fault.ByZero (fault : Fault) : Prop := fault = .divisionByZero ∨ fault = .moduloByZero

instance (fault : Fault) : Decidable fault.ByZero := inferInstanceAs (Decidable (_ ∨ _))

/-! ### Forecasts of values -/

def BinaryOp.kind? : BinaryOp → Basic → Option Basic
  | .add, .number | .sub, .number | .mul, .number | .div, .number => some .number
  | .add, .vector | .sub, .vector | .mul, .vector | .div, .vector => some .vector
  | .add, .text => some .text
  | .mod, .integer => some .integer
  | .and, .boolean | .or, .boolean => some .boolean
  | .less, .number | .greater, .number | .lessEqual, .number | .greaterEqual, .number => some .boolean
  | .less, .text | .greater, .text | .lessEqual, .text | .greaterEqual, .text => some .boolean
  | .equal, .integer | .notEqual, .integer => none
  | .equal, _ | .notEqual, _ => some .boolean
  | _, _ => none

def BinaryOp.forecast (op : BinaryOp) (left right : Schema) : Except Fault Schema :=
  (if left = right then left.basic?.bind op.kind? else none).elim
    (.error (.invalidOperation op left right)) (fun kind => .ok (.basic kind))

def UnaryOp.forecast (op : UnaryOp) (operand : Schema) : Except Fault Schema :=
  match op, operand with
  | .neg, .basic .number | .neg, .basic .integer | .neg, .basic .vector => .ok operand
  | .not, .basic .boolean => .ok operand
  | _, _ => .error (.invalidUnary op operand)

def fieldForecast (schema : Schema) (name : String) : Except Fault Schema :=
  match schema with
  | .record fields =>
    match fields.lookup name with
    | some part => .ok part
    | none => .error (.unknownField name schema)
  | .basic .vector =>
    if name ∈ ["x", "y", "z"] then .ok (.basic .number) else .error (.unknownField name schema)
  | _ => .error (.unknownField name schema)

def componentForecast (schema : Schema) : Except Fault Unit :=
  if schema = .basic .number then .ok () else .error (.vectorComponent schema)

def callForecast (system name : String) (args : List Schema) : Except Fault Schema :=
  match Builtin.ofName? name with
  | some .print => .ok .empty
  | some .isPressed =>
    if args = [.basic .text] then .ok (.basic .boolean)
    else .error (.builtinArguments Builtin.isPressed.name "expected a single String key")
  | none => .error (.unknownFunction name system)

/-! ### Forecasts of expressions -/

@[ext]
structure Prospect where
  system : String
  /-- For the name of an entity, the schemas that are read from its components. -/
  entity? : String → Option (String → Except Fault Schema)
  local? : String → Option Schema

namespace Prospect

def readLocal (prospect : Prospect) (name : String) : Except Fault Schema :=
  if (prospect.entity? name).isSome then .error (.entityAsValue name)
  else match prospect.local? name with
    | some schema => .ok schema
    | none => .error (.unknownVariable name prospect.system)

mutual

def forecast (prospect : Prospect) : Expr → Except Fault Schema
  | .literal value _ => .ok value.schema
  | .var name _ => prospect.readLocal name
  | .field base name _ =>
    match base with
    | .var root span =>
      match prospect.entity? root with
      | some components => components name
      | none => do fieldForecast (← forecast prospect (.var root span)) name
    | base => do fieldForecast (← forecast prospect base) name
  | .unary op operand _ => do op.forecast (← forecast prospect operand)
  | .binary op left right _ => do
    let left ← forecast prospect left
    let right ← forecast prospect right
    op.forecast left right
  | .call name args _ => do callForecast prospect.system name (← forecastAll prospect args)
  | .vector x y z _ => do
    componentForecast (← forecast prospect x)
    componentForecast (← forecast prospect y)
    componentForecast (← forecast prospect z)
    return .basic .vector
termination_by structural expr => expr

def forecastAll (prospect : Prospect) : List Expr → Except Fault (List Schema)
  | [] => .ok []
  | expr :: rest => do
    let schema ← forecast prospect expr
    let schemas ← forecastAll prospect rest
    return schema :: schemas
termination_by structural exprs => exprs

end

theorem forecast_field (prospect : Prospect) (base : Expr) (name : String) (span : Text.Span) :
    prospect.forecast (.field base name span) =
      let part : Except Fault Schema := do fieldForecast (← prospect.forecast base) name
      match base with
      | .var root _ =>
        match prospect.entity? root with
        | some components => components name
        | none => part
      | _ => part := by
  cases base <;> rfl

end Prospect

/-! ### Outcomes as foretold -/

/-- An outcome is as foretold: it has the image or the fault that was foretold, unless something was divided
by zero. -/
inductive AsForetold {α β : Type} (image : α → β) : Except Fault β → Except Fault α → Prop
  | yields {result : α} {shape : β} (same : image result = shape) : AsForetold image (.ok shape) (.ok result)
  | refuses (fault : Fault) : AsForetold image (.error fault) (.error fault)
  | byZero {forecast : Except Fault β} {fault : Fault} (byZero : fault.ByZero) :
    AsForetold image forecast (.error fault)

namespace AsForetold

variable {α β γ δ : Type} {image : α → β} {forecast : Except Fault β}

theorem ok {result : α} (foretold : AsForetold image forecast (.ok result)) :
    forecast = .ok (image result) := by
  cases foretold with
  | yields same => rw [same]

theorem error {fault : Fault} (foretold : AsForetold image forecast (.error fault)) :
    forecast = .error fault ∨ fault.ByZero := by
  cases foretold with
  | refuses => exact .inl rfl
  | byZero byZero => exact .inr byZero

theorem of_byZero {outcome : Except Fault α} (only : ∀ fault, outcome = .error fault → fault.ByZero)
    {change : α → γ} {picture : γ → δ} {shape : δ} (same : ∀ result, picture (change result) = shape) :
    AsForetold picture (.ok shape) (outcome.map change) := by
  cases outcome with
  | ok result => exact .yields (same result)
  | error fault => exact .byZero (only fault rfl)

theorem agree {one other : Except Fault α} (first : AsForetold image forecast one)
    (second : AsForetold image forecast other) :
    (∀ result another, one = .ok result → other = .ok another → image result = image another) ∧
      ∀ fault, one = .error fault → ¬ fault.ByZero →
        ∃ reason, other = .error reason ∧ (reason = fault ∨ reason.ByZero) := by
  constructor
  · rintro result another rfl rfl
    exact Except.ok.inj (first.ok.symm.trans second.ok)
  · rintro fault rfl plain
    obtain rfl := first.error.resolve_right plain
    cases second with
    | refuses => exact ⟨fault, rfl, .inl rfl⟩
    | byZero byZero => exact ⟨_, rfl, .inr byZero⟩

end AsForetold

/-! ### Operators -/

variable {fault : Fault}

theorem divide_byZero {left right : Float} (failed : divide left right = .error fault) : fault.ByZero := by
  unfold divide at failed
  split at failed
  · cases failed
    exact .inl rfl
  · cases failed

theorem divideVector_byZero {left right : Vector3} (failed : divideVector left right = .error fault) :
    fault.ByZero := by
  rcases bind_error failed with first | ⟨x, -, others⟩
  · exact divide_byZero first
  · rcases bind_error others with second | ⟨y, -, last⟩
    · exact divide_byZero second
    · rcases bind_error last with third | ⟨z, -, impossible⟩
      · exact divide_byZero third
      · cases impossible

theorem remainder_byZero {left right : Int64} (failed : remainder left right = .error fault) :
    fault.ByZero := by
  unfold remainder at failed
  split at failed
  · cases failed
    exact .inr rfl
  · cases failed

namespace BinaryOp

variable (op : BinaryOp)

abbrev Makes : Option Basic → Option (Except Fault Value) → Prop :=
  Option.Rel (fun kind attempt => AsForetold Value.schema (.ok (.basic kind)) attempt)

theorem onNumbers_makes (left right : Float) : Makes (op.kind? .number) (op.onNumbers left right) := by
  cases op with
  | div => exact .some (.of_byZero (fun _ => divide_byZero) (fun _ => rfl))
  | mod | and | or => exact .none
  | _ => exact .some (.yields rfl)

theorem onTexts_makes (left right : String) : Makes (op.kind? .text) (op.onTexts left right) := by
  cases op with
  | sub | mul | div | mod | and | or => exact .none
  | _ => exact .some (.yields rfl)

theorem onVectors_makes (left right : Vector3) : Makes (op.kind? .vector) (op.onVectors left right) := by
  cases op with
  | div => exact .some (.of_byZero (fun _ => divideVector_byZero) (fun _ => rfl))
  | add | sub | mul | equal | notEqual => exact .some (.yields rfl)
  | _ => exact .none

theorem onBooleans_makes (left right : Bool) : Makes (op.kind? .boolean) (op.onBooleans left right) := by
  cases op with
  | and | or | equal | notEqual => exact .some (.yields rfl)
  | _ => exact .none

theorem onIntegers_makes (left right : Int64) : Makes (op.kind? .integer) (op.onIntegers left right) := by
  cases op with
  | mod => exact .some (.of_byZero (fun _ => remainder_byZero) (fun _ => rfl))
  | _ => exact .none

theorem Makes.foretold {kind? : Option Basic} {result? : Option (Except Fault Value)}
    (makes : Makes kind? result?) (fault : Fault) :
    AsForetold Value.schema (kind?.elim (.error fault) (fun kind => .ok (.basic kind)))
      (result?.getD (.error fault)) := by
  cases makes with
  | some foretold => exact foretold
  | none => exact .refuses fault

/-- Nothing is foretold for values that are not of one kind. -/
theorem forecast_of_mixed {left right : Value} (mixed : left.basic? = none ∨ left.basic? ≠ right.basic?) :
    op.forecast left.schema right.schema = .error (.invalidOperation op left.schema right.schema) := by
  unfold forecast
  split
  · next same =>
    have kinds := congrArg Schema.basic? same
    rw [Value.basic?_schema, Value.basic?_schema] at kinds
    rw [Value.basic?_schema, mixed.resolve_right (fun different => different kinds)]
    rfl
  · rfl

theorem apply_foretold (left right : Value) :
    AsForetold Value.schema (op.forecast left.schema right.schema) (op.apply left right) := by
  unfold apply
  dsimp only
  split
  · next left right => exact (op.onNumbers_makes left right).foretold _
  · next left right => exact (op.onTexts_makes left right).foretold _
  · next left right => exact (op.onVectors_makes left right).foretold _
  · next left right => exact (op.onBooleans_makes left right).foretold _
  · next left right => exact (op.onIntegers_makes left right).foretold _
  · next noNumbers noTexts noVectors noBooleans noIntegers =>
    have mixed : left.basic? = none ∨ left.basic? ≠ right.basic? := by
      cases left <;> cases right <;> simp_all [Value.basic?]
    rw [op.forecast_of_mixed mixed]
    exact .refuses _

end BinaryOp

theorem UnaryOp.apply_foretold (op : UnaryOp) (operand : Value) :
    AsForetold Value.schema (op.forecast operand.schema) (op.apply operand) := by
  cases op <;> cases operand <;> first | exact .yields rfl | exact .refuses _

/-! ### Parts of values -/

theorem fieldOf_foretold (value : Value) (name : String) :
    AsForetold Value.schema (fieldForecast value.schema name) (fieldOf value name) := by
  cases value with
  | record fields =>
    rw [fieldOf, Value.schema, fieldForecast, partOf?, Value.lookup_schemas]
    cases fields.lookup name with
    | some part => exact .yields rfl
    | none => exact .refuses _
  | vector v =>
    rw [fieldOf, Value.schema, fieldForecast, partOf?]
    cases found : v.axis? name with
    | some axis =>
      rw [if_pos ((v.isSome_axis? name).mp (by rw [found]; rfl))]
      exact .yields rfl
    | none =>
      rw [if_neg (fun inside => by simpa [found] using (v.isSome_axis? name).mpr inside)]
      exact .refuses _
  | number | integer | text | boolean | optional => exact .refuses _

theorem asComponent_foretold (value : Value) :
    AsForetold (fun _ => ()) (componentForecast value.schema) (Bindings.asComponent value) := by
  cases value with
  | number => exact .yields rfl
  | _ => exact .refuses _

/-! ### Views by their schemas -/

end Script

def View.seen (view : View) (entity : Entity) (component : String) : Option (Option Schema) :=
  (view.componentId? component).map (fun id => (view.get? entity id).map Value.schema)

/-- A value that takes the place of one of the same schema makes no difference to what is seen. -/
theorem View.seen_write {view : View} {entity : Entity} {id : ComponentId} {current value : Value}
    (held : view.get? entity id = some current) (same : value.schema = current.schema) (other : Entity)
    (component : String) :
    ({ view with store := view.store.write entity id (some value) } : View).seen other component =
      view.seen other component := by
  have kinds : (view.store.write entity id (some value)).componentId? component =
      view.store.componentId? component :=
    Store.componentId?_congr (fun kind => Store.component?_write _ _ _ kind _) component
  have opened := Store.isOpen_of_contains (Script.View.contains_of_get? held)
  have values (kind : ComponentId) :
      ((view.store.write entity id (some value)).get? other kind).map Value.schema =
        (view.store.get? other kind).map Value.schema := by
    rw [Store.get?_write_open opened]
    split
    · next here =>
      obtain ⟨rfl, rfl⟩ := here
      unfold View.get? at held
      split at held
      · rw [held, Option.map_some, Option.map_some, same]
      · cases held
    · rfl
  unfold seen componentId? get?
  rw [kinds]
  refine congrArg (Option.map · _) (funext fun kind => ?_)
  split
  · exact values kind
  · rfl

namespace Script

namespace Routine

def readForecast (routine : Routine) (view : View) (entity : Entity) (component : String) :
    Except Fault Schema :=
  match view.seen entity component with
  | none => .error (.scene (.unregisteredComponent component routine.name))
  | some none => .error (.scene (.missingComponent entity component))
  | some (some schema) => .ok schema

end Routine

/-- A behavior that leaves the view as it is and comes to what was foretold. -/
def Foretold {α β : Type} (view : View) (image : α → β) (forecast : Except Fault β)
    (behavior : Behavior Fault α) : Prop :=
  ∀ output, AsForetold image forecast (behavior.run ⟨view, output⟩).1 ∧
    (behavior.run ⟨view, output⟩).2.view = view

namespace Foretold

variable {α β γ δ : Type} {view : View} {image : α → β} {forecast : Except Fault β}

theorem ofExcept {outcome : Except Fault α} (foretold : AsForetold image forecast outcome) :
    Foretold view image forecast (.ofExcept outcome) := by
  intro output
  cases outcome <;> exact ⟨foretold, rfl⟩

theorem pure {result : α} {shape : β} (same : image result = shape) :
    Foretold view image (.ok shape) (Pure.pure result) :=
  fun _ => ⟨.yields same, rfl⟩

theorem fail (fault : Fault) : Foretold view image (.error fault) (.fail fault : Behavior Fault α) :=
  fun _ => ⟨.refuses fault, rfl⟩

theorem bind {behavior : Behavior Fault α} (first : Foretold view image forecast behavior)
    {picture : γ → δ} {foresee : β → Except Fault δ} {next : α → Behavior Fault γ}
    (others : ∀ result, Foretold view picture (foresee (image result)) (next result)) :
    Foretold view picture (forecast >>= foresee) (behavior >>= next) := by
  intro output
  have came := first output
  change AsForetold _ _ ((behavior.bind next).run _).1 ∧ ((behavior.bind next).run _).2.view = view
  rw [Behavior.run_bind]
  generalize behavior.run ⟨view, output⟩ = ended at came ⊢
  obtain ⟨outcome, later, left⟩ := ended
  obtain ⟨foretold, rfl⟩ := came
  cases foretold with
  | yields same => exact same ▸ others _ left
  | refuses fault => exact ⟨.refuses fault, rfl⟩
  | byZero byZero => exact ⟨.byZero byZero, rfl⟩

end Foretold

variable {view : View}

theorem Routine.readComponent_run (routine : Routine) (entity : Entity) (component : String)
    (situation : Situation) :
    (routine.readComponent entity component).run situation =
      (match situation.view.componentId? component with
        | none => .error (.scene (.unregisteredComponent component routine.name))
        | some id =>
          match situation.view.get? entity id with
          | none => .error (.scene (.missingComponent entity component))
          | some value => .ok value, situation) := by
  change ((routine.componentId component).bind _).run situation = _
  rw [Behavior.run_bind, componentId_run]
  cases situation.view.componentId? component with
  | none => rfl
  | some id =>
    change ((Behavior.value entity id).bind _).run situation = _
    rw [Behavior.run_bind, value_run]
    dsimp only
    cases situation.view.get? entity id <;> rfl

theorem Routine.readComponent_foretold (routine : Routine) (entity : Entity) (component : String) :
    Foretold view Value.schema (routine.readForecast view entity component)
      (routine.readComponent entity component) := by
  intro output
  rw [routine.readComponent_run, readForecast, View.seen]
  refine ⟨?_, rfl⟩
  dsimp only
  cases view.componentId? component with
  | none => exact .refuses _
  | some id =>
    dsimp only [Option.map_some]
    cases view.get? entity id with
    | none => exact .refuses _
    | some value => exact .yields rfl

theorem callFunction_foretold (keys : Keys) (system name : String) (args : List Value) :
    Foretold view Value.schema (callForecast system name (args.map Value.schema))
      (callFunction keys system name args) := by
  unfold callForecast callFunction
  cases Builtin.ofName? name with
  | none => exact .fail _
  | some builtin =>
    cases builtin with
    | print => exact fun _ => ⟨.yields rfl, rfl⟩
    | isPressed =>
      match args with
      | [.text key] => exact .pure rfl
      | [] | [.number _] | [.integer _] | [.boolean _] | [.vector _] | [.record _] | [.optional _ _] =>
        exact .fail _
      | first :: second :: rest =>
        have several : (first :: second :: rest).map Value.schema ≠ [.basic .text] := by simp
        dsimp only
        rw [if_neg several]
        cases first <;> exact .fail _

namespace Bindings

def prospect (bindings : Bindings) (locals : Keyed Value) (view : View) : Prospect where
  system := bindings.routine.name
  entity? name := (bindings.entity? name).map (bindings.routine.readForecast view)
  local? name := (locals.lookup name).map Value.schema

variable (bindings : Bindings) (locals : Keyed Value)

theorem prospect_entity? (name : String) : (bindings.prospect locals view).entity? name =
    (bindings.entity? name).map (bindings.routine.readForecast view) := rfl

theorem readLocal_foretold (name : String) :
    AsForetold Value.schema ((bindings.prospect locals view).readLocal name)
      (bindings.readLocal locals name) := by
  unfold Prospect.readLocal Bindings.readLocal
  change AsForetold _ (if ((bindings.entity? name).map _).isSome = true then _ else
    match (locals.lookup name).map Value.schema with | some schema => _ | none => _) _
  rw [Option.isSome_map]
  split
  · exact .refuses _
  · cases locals.lookup name with
    | some value => exact .yields rfl
    | none => exact .refuses _

mutual

theorem eval_foretold : (expr : Expr) →
    Foretold view Value.schema ((bindings.prospect locals view).forecast expr) (bindings.eval locals expr)
  | .literal value _ => .pure rfl
  | .var name _ => .ofExcept (readLocal_foretold bindings locals name)
  | .field base name span => by
    have part : Foretold view Value.schema
        (do fieldForecast (← (bindings.prospect locals view).forecast base) name)
        (do let value ← bindings.eval locals base
            Behavior.ofExcept (fieldOf value name)) :=
      .bind (eval_foretold base) (fun value => .ofExcept (fieldOf_foretold value name))
    rw [Prospect.forecast_field, Bindings.eval_field]
    cases base with
    | var root _ =>
      dsimp only
      rw [prospect_entity?]
      cases bindings.entity? root with
      | some entity => exact bindings.routine.readComponent_foretold entity name
      | none => exact part
    | _ => exact part
  | .unary op operand _ =>
    .bind (eval_foretold operand) (fun value => .ofExcept (op.apply_foretold value))
  | .binary op left right _ =>
    .bind (eval_foretold left) (fun first => .bind (eval_foretold right) (fun second =>
      .ofExcept (op.apply_foretold first second)))
  | .call name args _ =>
    .bind (evalAll_foretold args) (fun values => callFunction_foretold _ _ name values)
  | .vector x y z _ => by
    have component (value : Value) : Foretold view (fun _ => ()) (componentForecast value.schema)
        (Behavior.ofExcept (asComponent value)) := .ofExcept (asComponent_foretold value)
    exact .bind (eval_foretold x) (fun first => .bind (component first) (fun _ =>
      .bind (eval_foretold y) (fun second => .bind (component second) (fun _ =>
        .bind (eval_foretold z) (fun third => .bind (component third) (fun _ => .pure rfl))))))
termination_by structural expr => expr

theorem evalAll_foretold : (exprs : List Expr) →
    Foretold view (List.map Value.schema) ((bindings.prospect locals view).forecastAll exprs)
      (bindings.evalAll locals exprs)
  | [] => .pure rfl
  | expr :: rest =>
    .bind (eval_foretold expr) (fun _ => .bind (evalAll_foretold rest) (fun _ => .pure rfl))
termination_by structural exprs => exprs

end

end Bindings

/-! ### States with the same schemas -/

structure Standing where
  bindings : Bindings
  locals : Keyed Value
  situation : Situation

namespace Standing

def eval (standing : Standing) (expr : Expr) : Except Fault Value :=
  ((standing.bindings.eval standing.locals expr).run standing.situation).1

def prospect (standing : Standing) : Prospect :=
  standing.bindings.prospect standing.locals standing.situation.view

theorem eval_asForetold (standing : Standing) (expr : Expr) :
    AsForetold Value.schema (standing.prospect.forecast expr) (standing.eval expr) :=
  (standing.bindings.eval_foretold standing.locals expr standing.situation.output).1

/-- A system stands where the same names stand for the same entities, and all that can be read has the same
schema. Which values these are, and which keys are pressed, does not count. -/
structure SameSchemas (one other : Standing) : Prop where
  system : other.bindings.routine.name = one.bindings.routine.name
  entities : ∀ name, other.bindings.entity? name = one.bindings.entity? name
  locals : ∀ name, (other.locals.lookup name).map Value.schema = (one.locals.lookup name).map Value.schema
  components : ∀ name entity, one.bindings.entity? name = some entity → ∀ component,
    other.situation.view.seen entity component = one.situation.view.seen entity component

theorem SameSchemas.prospect_eq {one other : Standing} (same : one.SameSchemas other) :
    other.prospect = one.prospect := by
  have entities (name : String) : other.prospect.entity? name = one.prospect.entity? name := by
    change (other.bindings.entity? name).map _ = (one.bindings.entity? name).map _
    rw [same.entities]
    cases bound : one.bindings.entity? name with
    | none => rfl
    | some entity =>
      refine congrArg some (funext fun component => ?_)
      rw [Routine.readForecast, Routine.readForecast, same.system, same.components name entity bound]
  exact Prospect.ext same.system (funext entities) (funext same.locals)

/-- In two states with the same schemas an expression comes to values of one schema where it has a value in
both. Where it fails in one of them, it fails in the other for the same reason, a division by zero apart. -/
theorem eval_depends_on_schemas {one other : Standing} (same : one.SameSchemas other) (expr : Expr) :
    (∀ result another, one.eval expr = .ok result → other.eval expr = .ok another →
      result.schema = another.schema) ∧
    (∀ fault, one.eval expr = .error fault → ¬ fault.ByZero →
      ∃ reason, other.eval expr = .error reason ∧ (reason = fault ∨ reason.ByZero)) ∧
    ∀ fault, other.eval expr = .error fault → ¬ fault.ByZero →
      ∃ reason, one.eval expr = .error reason ∧ (reason = fault ∨ reason.ByZero) := by
  have first := one.eval_asForetold expr
  have second := other.eval_asForetold expr
  rw [same.prospect_eq] at second
  exact ⟨(first.agree second).1, (first.agree second).2, (second.agree first).2⟩

def altered (standing : Standing) (keys : Keys) (locals : Keyed Value) (entity : Entity) (id : ComponentId)
    (value : Value) : Standing where
  bindings := { standing.bindings with routine.keys := keys }
  locals := locals
  situation := { standing.situation with
    view.store := standing.situation.view.store.write entity id (some value) }

theorem sameSchemas_altered {standing : Standing} (keys : Keys) {locals : Keyed Value} {entity : Entity}
    {id : ComponentId} {current value : Value}
    (typed : ∀ name, (locals.lookup name).map Value.schema =
      (standing.locals.lookup name).map Value.schema)
    (held : standing.situation.view.get? entity id = some current)
    (same : value.schema = current.schema) :
    standing.SameSchemas (standing.altered keys locals entity id value) where
  system := rfl
  entities _ := rfl
  locals := typed
  components _ other _ component := View.seen_write held same other component

def dimmer : Standing where
  bindings := ⟨⟨⟨"Dim", [], default, [], default⟩, "", .empty, .empty, .all, none⟩, [("a", ⟨0⟩)]⟩
  locals := [("offset", .number 1.0)]
  situation := ⟨⟨⟨#[⟨.of "Lamp" (.record [("lit", .basic .boolean), ("power", .basic .number)]),
    some ⟨#[some (.record [("lit", .boolean true), ("power", .number 2.0)])], 1⟩⟩]⟩, .empty 1, [⟨0⟩]⟩, #[]⟩

def darkDimmer : Standing :=
  dimmer.altered (fun _ => false) [("offset", .number 5.0)] ⟨0⟩ ⟨0⟩
    (.record [("lit", .boolean false), ("power", .number 0.0)])

def lampPart (name : String) : Expr := .field (.field (.var "a" default) "Lamp" default) name default

/-- `offset / a.Lamp.power + a.Lamp.lit` -/
def brightness : Expr :=
  .binary .add (.binary .div (.var "offset" default) (lampPart "power") default) (lampPart "lit") default

/-- A number and a truth value have no sum, but without power the division fails before that is found. -/
theorem brightness_fails :
    dimmer.SameSchemas darkDimmer ∧
      dimmer.eval brightness = .error (.invalidOperation .add (.basic .number) (.basic .boolean)) ∧
      darkDimmer.eval brightness = .error .divisionByZero ∧
      ∃ reason, darkDimmer.eval brightness = .error reason ∧
        (reason = .invalidOperation .add (.basic .number) (.basic .boolean) ∨ reason.ByZero) := by
  have same : dimmer.SameSchemas darkDimmer := by
    have held : dimmer.situation.view.get? ⟨0⟩ ⟨0⟩ =
        some (.record [("lit", .boolean true), ("power", .number 2.0)]) := rfl
    refine sameSchemas_altered _ (fun name => ?_) held rfl
    rw [dimmer, List.lookup_cons, List.lookup_cons]
    cases name == "offset" <;> simp [Value.schema]
  have failed : dimmer.eval brightness =
      .error (.invalidOperation .add (.basic .number) (.basic .boolean)) := by
    decide +kernel
  have divided : darkDimmer.eval brightness = .error .divisionByZero := by decide +kernel
  exact ⟨same, failed, divided, (eval_depends_on_schemas same brightness).2.1 _ failed (by decide)⟩

end Standing

end Script

end Stagecraft
