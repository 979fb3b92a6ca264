import Stagecraft.Script.Routine

/-!
Routines in place: a body at work changes what it holds where it is, its locals as well as the value that it
assigns to. What it changed before a failure stays changed. The tuples that it runs for are counted like the
digits of an odometer.
-/

namespace Stagecraft.Script

def assignPath (target : String) (value : Value) : List String → Value → Except Fault Unit × Value
  | [], slot =>
    match coerce target value slot.schema with
    | .ok assigned => (.ok (), assigned)
    | .error fault => (.error fault, slot)
  | name :: path, slot =>
    let unknown : Except Fault Unit × Value := (.error (.unknownField name slot.schema), slot)
    match slot with
    | .record fields =>
      match fields.lookup name with
      | some part =>
        let (outcome, left) := assignPath target value path part
        (outcome, .record (Keyed.replace name left fields))
      | none => unknown
    | .vector v =>
      if path.isEmpty && (v.axis? name).isSome then
        match value.asNumber? with
        | some n =>
          match v.setAxis? n name with
          | some v => (.ok (), .vector v)
          | none => unknown
        | none => (.error (.assignmentType target (.basic .number) value.schema), slot)
      else unknown
    | _ => unknown

structure Assignment where
  entity : Entity
  component : String
  path : List String
  /-- The assigned place as the script writes it. -/
  target : String
  value : Value

/-- What a body has in hand at work. The changes of components that it completed are on record, in their
order; nothing reads the record. -/
structure Holding where
  progress : Progress
  situation : Situation
  assigned : List Assignment

abbrev Deed := ExceptT Fault (StateM Holding)

namespace Deed

def ask {α : Type} (behavior : Behavior Fault α) : Deed α := fun holding =>
  match behavior.run holding.situation with
  | (result, situation) => (result, { holding with situation := situation })

def changeLocals (change : Keyed Value → Keyed Value) : Deed Unit :=
  modify fun holding => { holding with progress.locals := change holding.progress.locals }

section

variable (bindings : Bindings)

def step : Deed Unit := do
  if bindings.routine.limit ≤ (← get).progress.steps then
    throw (.budgetExceeded bindings.routine.name bindings.routine.limit)
  else
    modify fun holding => { holding with progress.steps := holding.progress.steps + 1 }
    ask Behavior.step

def eval (expr : Expr) : Deed Value := do
  ask (bindings.eval (← get).progress.locals expr)

def holds (condition : Expr) : Deed Bool := do
  ask (.ofExcept (Bindings.asCondition (← eval bindings condition)))

/-- Assign to a part of a component: in a copy of its value, which is written back as a whole. -/
def assignComponent (assignment : Assignment) : Deed Unit := do
  let id ← ask (bindings.routine.componentId assignment.component)
  match ← ask (Behavior.value assignment.entity id) with
  | none => throw (.scene (.missingComponent assignment.entity assignment.component))
  | some current =>
    match assignPath assignment.target assignment.value assignment.path current with
    | (.error fault, _) => throw fault
    | (.ok (), changed) =>
      match ← ask (Behavior.write assignment.entity id changed) with
      | .ok () => modify fun holding => { holding with assigned := holding.assigned ++ [assignment] }
      | .error fault => throw (.scene fault)

def assignLocal (target : Place) (value : Value) : Deed Unit := do
  match (← get).progress.locals.lookup target.root with
  | some slot =>
    let (outcome, left) := assignPath target.render value target.path slot
    changeLocals (Keyed.replace target.root left)
    ask (.ofExcept outcome)
  | none =>
    if target.path.isEmpty then changeLocals (Keyed.insert target.root value)
    else throw (.unknownVariable target.root bindings.routine.name)

def assign (target : Place) (value : Value) : Deed Unit :=
  match bindings.entity? target.root with
  | some entity =>
    match target.path with
    | [] => throw (.entityAsValue target.root)
    | component :: path => assignComponent bindings ⟨entity, component, path, target.render, value⟩
  | none => assignLocal bindings target value

def emit (event : String) (args : List Expr) : Deed Unit := do
  let invalid (issue : EmitIssue) : Fault := .invalidEmit event bindings.routine.name issue
  match bindings.routine.events.find? event with
  | none => throw (invalid .unregistered)
  | some contract =>
    match (args.take contract.roles.length).mapM bindings.target? with
    | none => throw (invalid .notEntity)
    | some targets =>
      let payload ← match args[contract.roles.length]? with
        | none => pure .empty
        | some expr => do
          let value ← eval bindings expr
          ask (.ofExcept (coerce event value contract.payload))
      modify fun holding =>
        { holding with progress.emitted := holding.progress.emitted.push ⟨event, targets, payload⟩ }

/-- Repeat a body while a condition holds. Every round costs a step, so the rounds are as bounded as
the steps. -/
def repeatWhile (condition : Deed Bool) (body : Deed Unit) : (rounds : Nat) → Deed Unit
  | 0 => throw (.budgetExceeded bindings.routine.name bindings.routine.limit)
  | rounds + 1 => do
    if ← condition then
      body
      step bindings
      repeatWhile condition body rounds

mutual

def exec : Stmt → Deed Unit
  | .assign target value _ => do
    step bindings
    let value ← eval bindings value
    assign bindings target value
  | .declare type name value _ => do
    step bindings
    let schema ← ask (.ofExcept (resolve bindings.routine.components bindings.routine.source type))
    let value ← eval bindings value
    let value ← ask (.ofExcept (coerce name value schema))
    changeLocals (Keyed.insert name value)
  | .expr value => do
    step bindings
    let _ ← eval bindings value
  | .branch condition yes no _ => do
    step bindings
    let holds ← ask (.ofExcept (Bindings.asCondition (← eval bindings condition)))
    if holds then execBlock yes else execBlock no
  | .loop condition body _ => do
    step bindings
    repeatWhile bindings (holds bindings condition) (execBlock body)
      (bindings.routine.limit - (← get).progress.steps + 1)
  | .emit event args _ => do
    step bindings
    emit bindings event args
termination_by structural stmt => stmt

def execBlock : List Stmt → Deed Unit
  | [] => return ()
  | stmt :: rest => do
    exec stmt
    execBlock rest
termination_by structural stmts => stmts

end

end

/-! ### Odometers -/

def chosen (lists : List (List Entity)) (cursor : List Nat) : List Entity :=
  (lists.zip cursor).filterMap fun (options, digit) => options[digit]?

/-- The next cursor. A digit that comes to the end of its list begins again, and the one before it goes on.
Behind the last cursor there is none. -/
def advance : List (List Entity) → List Nat → Option (List Nat)
  | options :: lists, digit :: cursor =>
    match advance lists cursor with
    | some next => some (digit :: next)
    | none =>
      if digit + 1 < options.length then some ((digit + 1) :: lists.map (fun _ => 0)) else none
  | _, _ => none

/-- Do something for the tuple at a cursor and for those behind it. There are at most as many rounds as
tuples. -/
def turnOver (deed : List Entity → Deed Unit) (lists : List (List Entity)) :
    (rounds : Nat) → (cursor : List Nat) → Deed Unit
  | 0, _ => return ()
  | rounds + 1, cursor => do
    deed (chosen lists cursor)
    match advance lists cursor with
    | some next => turnOver deed lists rounds next
    | none => return ()

def forEachChoice (deed : List Entity → Deed Unit) (lists : List (List Entity)) : Deed Unit :=
  turnOver deed lists (lists.foldr (fun options rounds => options.length * rounds) 1) (lists.map (fun _ => 0))

variable (routine : Routine) (event : Event)

def runOn (tuple : List Entity) : Deed Unit := do
  changeLocals fun _ => match routine.decl.event.payload with
    | some payload => [(payload.name, event.payload)]
    | none => []
  execBlock (routine.bindings event tuple) routine.decl.body

def perform : Deed (List Event) := do
  match ← ask (routine.candidates routine.decl.params) with
  | none => return []
  | some lists =>
    forEachChoice (runOn routine event) lists
    return (← get).progress.emitted.toList

end Deed

def Holding.start (situation : Situation) : Holding := ⟨⟨[], #[], 0⟩, situation, []⟩

end Stagecraft.Script
