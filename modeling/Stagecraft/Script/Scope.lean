import Stagecraft.Declaration
import Stagecraft.Script.Builtin

/-!
Scopes: what the names in the body of a system stand for. Before a system is accepted, its body is
checked once from top to bottom: every name must be bound, every component declared, and every
emission in accordance with its event. A local is in scope after its first assignment, wherever that
stands.
-/

namespace Stagecraft.Script

def resolve (components : Registry Component) (source : String) :
    TypeExpr → Except Fault Schema
  | ⟨"Optional", [inner], _⟩ => do return .optional (← resolve components source inner)
  | ⟨name, [], span⟩ =>
    match (Basic.ofName? name).map Schema.basic |>.or
        ((components.find? name).map Component.schema) with
    | some schema => .ok schema
    | none => .error (.unknownType name (Text.lineColumn source span.start).1)
  | type => .error (.unknownType type.render (Text.lineColumn source type.span.start).1)

/-- What the body of a system is checked against, and the components that each name of an entity
declares. -/
structure Scope where
  system : String
  components : Registry Component
  events : Registry Contract
  source : String
  entities : List (String × List String)

namespace Scope

def entity? (scope : Scope) (name : String) : Option (List String) := scope.entities.lookup name

def checkComponent (scope : Scope) (binding : String) (declared : List String)
    (component : String) : Except Fault Unit :=
  if component ∈ declared then .ok ()
  else .error (.undeclaredComponent binding component scope.system)

def checkVariable (scope : Scope) (locals : List String) (name : String) : Except Fault Unit :=
  if (scope.entity? name).isSome then .error (.entityAsValue name)
  else if name ∈ locals then .ok ()
  else .error (.unknownVariable name scope.system)

mutual

def checkExpr (scope : Scope) (locals : List String) : Expr → Except Fault Unit
  | .literal _ _ => .ok ()
  | .var name _ => scope.checkVariable locals name
  | .field base name _ =>
    match base with
    | .var root span =>
      match scope.entity? root with
      | some declared => scope.checkComponent root declared name
      | none => checkExpr scope locals (.var root span)
    | base => checkExpr scope locals base
  | .unary _ operand _ => checkExpr scope locals operand
  | .binary _ left right _ => do
    checkExpr scope locals left
    checkExpr scope locals right
  | .call name args _ => do
    if (Builtin.ofName? name).isNone then throw (.unknownFunction name scope.system)
    checkExprs scope locals args
  | .vector x y z _ => do
    checkExpr scope locals x
    checkExpr scope locals y
    checkExpr scope locals z
termination_by structural expr => expr

def checkExprs (scope : Scope) (locals : List String) : List Expr → Except Fault Unit
  | [] => .ok ()
  | expr :: rest => do
    checkExpr scope locals expr
    checkExprs scope locals rest
termination_by structural exprs => exprs

end

def checkPlace (scope : Scope) (locals : List String) (place : Place) :
    Except Fault (List String) :=
  match scope.entity? place.root with
  | some declared =>
    match place.path with
    | [] => .error (.entityAsValue place.root)
    | component :: _ => do
      scope.checkComponent place.root declared component
      return locals
  | none =>
    if place.path.isEmpty then .ok (place.root :: locals)
    else do
      scope.checkVariable locals place.root
      return locals

def isEntity (scope : Scope) : Expr → Bool
  | .var name _ => (scope.entity? name).isSome
  | _ => false

/-- An emission has an entity for every role of its event, and a payload unless the event carries
none. -/
def checkEmit (scope : Scope) (locals : List String) (event : String) (args : List Expr) :
    Except Fault Unit :=
  let invalid (issue : EmitIssue) : Except Fault Unit :=
    .error (.invalidEmit event scope.system issue)
  match scope.events.find? event with
  | none => invalid .unregistered
  | some contract =>
    let roles := contract.roles.length
    if args.length ≠ roles ∧ args.length ≠ roles + 1 then
      invalid (.argumentCount roles args.length)
    else if !(args.take roles).all scope.isEntity then invalid .notEntity
    else match args[roles]? with
      | some payload => scope.checkExpr locals payload
      | none =>
        if contract.payload = .empty then .ok () else invalid (.missingPayload contract.payload)

mutual

def checkStmt (scope : Scope) (locals : List String) : Stmt → Except Fault (List String)
  | .assign target value _ => do
    scope.checkExpr locals value
    scope.checkPlace locals target
  | .declare type name value _ => do
    let _ ← resolve scope.components scope.source type
    scope.checkExpr locals value
    if (scope.entity? name).isSome then throw (.duplicateBinding name scope.system)
    return name :: locals
  | .expr value => do
    scope.checkExpr locals value
    return locals
  | .branch condition yes no _ => do
    scope.checkExpr locals condition
    let locals ← checkBlock scope locals yes
    checkBlock scope locals no
  | .loop condition body _ => do
    scope.checkExpr locals condition
    checkBlock scope locals body
  | .emit event args _ => do
    scope.checkEmit locals event args
    return locals
termination_by structural stmt => stmt

def checkBlock (scope : Scope) (locals : List String) :
    List Stmt → Except Fault (List String)
  | [] => .ok locals
  | stmt :: rest => do
    let locals ← checkStmt scope locals stmt
    checkBlock scope locals rest
termination_by structural stmts => stmts

end

end Scope

namespace SystemDecl

def bindRoles (system : String) :
    List RoleDecl → List (String × List String) → Except Fault (List (String × List String))
  | [], entities => .ok entities
  | role :: rest, entities =>
    match role.name with
    | none => bindRoles system rest entities
    | some name =>
      if (entities.lookup name).isSome then .error (.duplicateBinding name system)
      else bindRoles system rest ((name, role.components) :: entities)

def bindings (decl : SystemDecl) : Except Fault (List (String × List String)) :=
  bindRoles decl.name (decl.params ++ decl.event.roles) []

def check (decl : SystemDecl) (components : Registry Component) (events : Registry Contract)
    (source : String) : Except Fault Unit := do
  let entities ← decl.bindings
  let locals ← match decl.event.payload with
    | none => pure []
    | some payload =>
      if (entities.lookup payload.name).isSome then
        throw (.duplicateBinding payload.name decl.name)
      pure [payload.name]
  let _ ← Scope.checkBlock ⟨decl.name, components, events, source, entities⟩ locals decl.body
  return ()

end SystemDecl

end Stagecraft.Script
