import Stagecraft.Script.Access
import Stagecraft.Script.Operator
import Stagecraft.Script.Scope
import Stagecraft.System

/-!
Routines: the bodies of scripted systems as behaviors. A body runs once for every tuple of entities
that match the parameters. Values of components are copied when they are read and written back as a
whole, so no statement sees a half-made change. Every statement and every iteration of a loop costs a
step, and a run may not cost more than its budget.
-/

namespace Stagecraft.Script

structure Routine where
  decl : SystemDecl
  source : String
  components : Registry Component
  events : Registry Contract
  keys : Keys
  /-- The greatest number of steps of one run. -/
  budget : Option Nat

structure Progress where
  locals : Keyed Value
  emitted : Array Event
  steps : Nat

abbrev Run := StateT Progress (Behavior Fault)

def Run.fail {α : Type} (fault : Fault) : Run α := fun _ => .fail fault

/-- The budget of a run without a budget: more steps cannot be counted. -/
def countable : Nat := Nat.pow 2 64 - 1

namespace Routine

def name (routine : Routine) : String := routine.decl.name

def limit (routine : Routine) : Nat := routine.budget.getD countable

def componentId (routine : Routine) (component : String) : Behavior Fault ComponentId := do
  match ← Behavior.componentId component with
  | some id => return id
  | none => .fail (.scene (.unregisteredComponent component routine.name))

def readComponent (routine : Routine) (entity : Entity) (component : String) :
    Behavior Fault Value := do
  let id ← routine.componentId component
  match ← Behavior.value entity id with
  | some value => return value
  | none => .fail (.scene (.missingComponent entity component))

def changeComponent (routine : Routine) (entity : Entity) (component : String)
    (change : Value → Except Fault Value) : Behavior Fault Unit := do
  let id ← routine.componentId component
  match ← Behavior.value entity id with
  | none => .fail (.scene (.missingComponent entity component))
  | some value =>
    let changed ← Behavior.ofExcept (change value)
    match ← Behavior.write entity id changed with
    | .ok () => return ()
    | .error fault => .fail (.scene fault)

end Routine

structure Bindings where
  routine : Routine
  entities : List (String × Entity)

namespace Bindings

def entity? (bindings : Bindings) (name : String) : Option Entity := bindings.entities.lookup name

def readLocal (bindings : Bindings) (locals : Keyed Value) (name : String) : Except Fault Value :=
  if (bindings.entity? name).isSome then .error (.entityAsValue name)
  else match locals.lookup name with
    | some value => .ok value
    | none => .error (.unknownVariable name bindings.routine.name)

def asComponent (value : Value) : Except Fault Float :=
  match value.asNumber? with
  | some n => .ok n
  | none => .error (.vectorComponent value.schema)

def asCondition (value : Value) : Except Fault Bool :=
  match value.asBoolean? with
  | some holds => .ok holds
  | none => .error (.conditionNotBoolean value.schema)

mutual

/-- The value of an expression. Operands and arguments are evaluated from left to right, all of
them. -/
def eval (bindings : Bindings) (locals : Keyed Value) : Expr → Behavior Fault Value
  | .literal value _ => return value
  | .var name _ => .ofExcept (bindings.readLocal locals name)
  | .field base name _ =>
    match base with
    | .var root span =>
      match bindings.entity? root with
      | some entity => bindings.routine.readComponent entity name
      | none => do
        let value ← eval bindings locals (.var root span)
        .ofExcept (fieldOf value name)
    | base => do
      let value ← eval bindings locals base
      .ofExcept (fieldOf value name)
  | .unary op operand _ => do
    let value ← eval bindings locals operand
    .ofExcept (op.apply value)
  | .binary op left right _ => do
    let left ← eval bindings locals left
    let right ← eval bindings locals right
    .ofExcept (op.apply left right)
  | .call name args _ => do
    let values ← evalAll bindings locals args
    callFunction bindings.routine.keys bindings.routine.name name values
  | .vector x y z _ => do
    let x ← Behavior.ofExcept (asComponent (← eval bindings locals x))
    let y ← Behavior.ofExcept (asComponent (← eval bindings locals y))
    let z ← Behavior.ofExcept (asComponent (← eval bindings locals z))
    return .vector ⟨x, y, z⟩
termination_by structural expr => expr

def evalAll (bindings : Bindings) (locals : Keyed Value) : List Expr → Behavior Fault (List Value)
  | [] => return []
  | expr :: rest => do
    let value ← eval bindings locals expr
    let values ← evalAll bindings locals rest
    return value :: values
termination_by structural exprs => exprs

end

def step (bindings : Bindings) : Run Unit := do
  let progress ← get
  if bindings.routine.limit ≤ progress.steps then
    Run.fail (.budgetExceeded bindings.routine.name bindings.routine.limit)
  else
    set { progress with steps := progress.steps + 1 }
    (Behavior.step : Behavior Fault Unit)

def evalHere (bindings : Bindings) (expr : Expr) : Run Value := do
  bindings.eval (← get).locals expr

def setLocal (name : String) (value : Value) : Run Unit :=
  modify fun progress => { progress with locals := Keyed.insert name value progress.locals }

/-- Assign to a place: a part of a component of an entity, a part of a local, or a local as a whole,
which need not exist before. -/
def assign (bindings : Bindings) (target : Place) (value : Value) : Run Unit :=
  match bindings.entity? target.root with
  | some entity =>
    match target.path with
    | [] => Run.fail (.entityAsValue target.root)
    | component :: path =>
      bindings.routine.changeComponent entity component (setPath target.render value path)
  | none => do
    match (← get).locals.lookup target.root with
    | some slot =>
      let slot ← Behavior.ofExcept (setPath target.render value target.path slot)
      setLocal target.root slot
    | none =>
      if target.path.isEmpty then setLocal target.root value
      else Run.fail (.unknownVariable target.root bindings.routine.name)

def target? (bindings : Bindings) : Expr → Option Entity
  | .var name _ => bindings.entity? name
  | _ => none

/-- Emit an event: the first arguments name its targets, one for every role, and the next one is its
payload. -/
def emit (bindings : Bindings) (event : String) (args : List Expr) : Run Unit := do
  let invalid (issue : EmitIssue) : Fault := .invalidEmit event bindings.routine.name issue
  match bindings.routine.events.find? event with
  | none => Run.fail (invalid .unregistered)
  | some contract =>
    match (args.take contract.roles.length).mapM bindings.target? with
    | none => Run.fail (invalid .notEntity)
    | some targets =>
      let payload ← match args[contract.roles.length]? with
        | none => pure .empty
        | some expr => do
          let value ← bindings.evalHere expr
          Behavior.ofExcept (coerce event value contract.payload)
      modify fun progress =>
        { progress with emitted := progress.emitted.push ⟨event, targets, payload⟩ }

/-- Repeat a body while a condition holds. Every round costs a step, so the rounds are as bounded as
the steps. -/
def repeatWhile (bindings : Bindings) (condition : Run Bool) (body : Run Unit) :
    (rounds : Nat) → Run Unit
  | 0 => Run.fail (.budgetExceeded bindings.routine.name bindings.routine.limit)
  | rounds + 1 => do
    if ← condition then
      body
      bindings.step
      repeatWhile bindings condition body rounds

mutual

def exec (bindings : Bindings) : Stmt → Run Unit
  | .assign target value _ => do
    bindings.step
    let value ← bindings.evalHere value
    bindings.assign target value
  | .declare type name value _ => do
    bindings.step
    let schema ← Behavior.ofExcept
      (resolve bindings.routine.components bindings.routine.source type)
    let value ← bindings.evalHere value
    let value ← Behavior.ofExcept (coerce name value schema)
    setLocal name value
  | .expr value => do
    bindings.step
    let _ ← bindings.evalHere value
  | .branch condition yes no _ => do
    bindings.step
    let holds ← Behavior.ofExcept (asCondition (← bindings.evalHere condition))
    if holds then execBlock bindings yes else execBlock bindings no
  | .loop condition body _ => do
    bindings.step
    let holds : Run Bool := do
      Behavior.ofExcept (asCondition (← bindings.evalHere condition))
    bindings.repeatWhile holds (execBlock bindings body)
      (bindings.routine.limit - (← get).steps + 1)
  | .emit event args _ => do
    bindings.step
    bindings.emit event args
termination_by structural stmt => stmt

def execBlock (bindings : Bindings) : List Stmt → Run Unit
  | [] => return ()
  | stmt :: rest => do
    exec bindings stmt
    execBlock bindings rest
termination_by structural stmts => stmts

end

end Bindings

def RoleDecl.toRole (decl : RoleDecl) : Role := ⟨decl.name.getD "", decl.components⟩

namespace Routine

def candidates (routine : Routine) : List RoleDecl → Behavior Fault (Option (List (List Entity)))
  | [] => return some []
  | param :: rest => do
    let ids ← param.components.mapM routine.componentId
    let entities ← Behavior.matching ids
    if entities.isEmpty then return none
    else
      let others ← candidates routine rest
      return others.map (entities :: ·)

/-- Bind the named roles among `roles` to the entities beside them. A later binding of a name covers
an earlier one. -/
def bindNames (bound : List (String × Entity)) : List RoleDecl → List Entity → List (String × Entity)
  | role :: roles, entity :: entities =>
    match role.name with
    | some name => bindNames ((name, entity) :: bound) roles entities
    | none => bindNames bound roles entities
  | _, _ => bound

def bindings (routine : Routine) (event : Event) (tuple : List Entity) : Bindings :=
  ⟨routine, bindNames (bindNames [] routine.decl.event.roles event.targets) routine.decl.params tuple⟩

def runOn (routine : Routine) (event : Event) (tuple : List Entity) : Run Unit := do
  let locals := match routine.decl.event.payload with
    | some payload => [(payload.name, event.payload)]
    | none => []
  modify fun progress => { progress with locals := locals }
  (routine.bindings event tuple).execBlock routine.decl.body

/-- Do something for every tuple with one member of each list. The last list varies fastest. -/
def forEachTuple (act : List Entity → Run Unit) :
    List (List Entity) → (chosen : List Entity) → Run Unit
  | [], chosen => act chosen.reverse
  | options :: rest, chosen =>
    options.forM (fun entity => forEachTuple act rest (entity :: chosen))

def run (routine : Routine) (event : Event) : Behavior Fault (List Event) := do
  match ← routine.candidates routine.decl.params with
  | none => return []
  | some lists =>
    let ((), progress) ← (forEachTuple (routine.runOn event) lists []).run ⟨[], #[], 0⟩
    return progress.emitted.toList

def toSystem (routine : Routine) (listener : Contract) : System where
  name := routine.name
  params := routine.decl.params.map RoleDecl.toRole
  listener := some listener
  body bound := (routine.run bound.event).mapReason .script

end Routine

end Stagecraft.Script
