import Stagecraft.Script.Tree
import Stagecraft.Script.Lexing

/-!
From lexemes to the tree of a script. Every parser takes lexemes off the front of what is left and
refuses with what it wanted and where it stood. Blocks, types and parentheses nest, and loops run,
at most as often as there are lexemes, which bounds every recursion.
-/

namespace Stagecraft.Script

open Text (Span)

inductive Complaint where
  | expected (what : String)
  /-- A name in an event header is neither a role nor the type of a parameter. -/
  | bareName (head : String)
  | secondPayload
  | notAssignable
  | exhausted
deriving DecidableEq, Repr

namespace Complaint

def message : Complaint → String
  | expected what => "expected " ++ what
  | bareName head => "expected `<components>` or a parameter name after `" ++ head ++ "`"
  | secondPayload => "an event has at most one payload"
  | notAssignable => "cannot assign to this expression"
  | exhausted => "script nested too deeply"

end Complaint

inductive Site where
  /-- The first of the lexemes that are left, or the end of the input. -/
  | next (left : List Lexeme)
  /-- The lexeme that starts at a byte offset. -/
  | starting (offset : Nat)

structure Refusal where
  complaint : Complaint
  site : Site

structure ParseFault where
  message : String
  found : String
  line : Nat
  column : Nat
deriving DecidableEq, Repr

namespace ParseFault

def render (fault : ParseFault) : String :=
  fault.message ++ ", found " ++ fault.found ++ " at line " ++ toString fault.line ++ ", column "
    ++ toString fault.column

def quoteFound (text : String) : String := "`" ++ text ++ "`"

def endOfInput : String := "end of input"

def at_ (source : String) (offset : Nat) (message found : String) : ParseFault :=
  let (line, column) := Text.lineColumn source offset
  ⟨message, found, line, column⟩

def ofLexFault (source : String) (fault : LexFault) : ParseFault :=
  let found := match Text.slice? fault.span source.toList with
    | some (c :: rest) => quoteFound (String.ofList (c :: rest))
    | _ => endOfInput
  at_ source fault.span.start fault.message found

def ofRefusal (source : String) (lexemes : List Lexeme) (refusal : Refusal) : ParseFault :=
  let found (lexeme? : Option Lexeme) : String := match lexeme? with
    | some lexeme => quoteFound lexeme.token.render
    | none => endOfInput
  match refusal.site with
  | .next left =>
    let offset := match left.head? with
      | some lexeme => lexeme.span.start
      | none => source.utf8ByteSize
    at_ source offset refusal.complaint.message (found left.head?)
  | .starting offset =>
    at_ source offset refusal.complaint.message
      (found (lexemes.find? (fun lexeme => lexeme.span.start == offset)))

end ParseFault

structure Feed where
  left : List Lexeme
  lastStop : Nat

abbrev Parser := StateT Feed (Except Refusal)

namespace Grammar

def refuse {α : Type} (complaint : Complaint) : Parser α :=
  fun feed => .error ⟨complaint, .next feed.left⟩

def refuseAt {α : Type} (complaint : Complaint) (span : Span) : Parser α :=
  fun _ => .error ⟨complaint, .starting span.start⟩

def peek : Parser (Option Token) :=
  fun feed => .ok (feed.left.head?.map (·.token), feed)

def lastStop : Parser Nat :=
  fun feed => .ok (feed.lastStop, feed)

def advance : Parser Unit :=
  fun feed => match feed.left with
    | [] => .ok ((), feed)
    | lexeme :: rest => .ok ((), ⟨rest, lexeme.span.stop⟩)

def eat (token : Token) : Parser Bool := do
  if (← peek) = some token then
    advance
    return true
  else return false

def expect (token : Token) (what : String) : Parser Span :=
  fun feed => match feed.left with
    | lexeme :: rest =>
      if lexeme.token = token then .ok (lexeme.span, ⟨rest, lexeme.span.stop⟩)
      else refuse (.expected what) feed
    | [] => refuse (.expected what) feed

def expectIdent (what : String) : Parser (String × Span) :=
  fun feed => match feed.left with
    | ⟨.ident name, span⟩ :: rest => .ok ((name, span), ⟨rest, span.stop⟩)
    | _ => refuse (.expected what) feed

def eatSymbol (symbol : Symbol) : Parser Bool := eat (.symbol symbol)

def endLine : Parser Unit := do
  let _ ← expect .newline "end of line"

def commaSeparated {α : Type} (parser : Parser α) : (fuel : Nat) → Parser (List α)
  | 0 => refuse .exhausted
  | fuel + 1 => do
    let first ← parser
    if ← eatSymbol .comma then
      let others ← commaSeparated parser fuel
      return first :: others
    else return [first]

def untilDedent {α : Type} (parser : Parser α) : (fuel : Nat) → Parser (List α)
  | 0 => refuse .exhausted
  | fuel + 1 => do
    if ← eat .dedent then return []
    else
      let first ← parser
      let others ← untilDedent parser fuel
      return first :: others

def type : (fuel : Nat) → Parser TypeExpr
  | 0 => refuse .exhausted
  | fuel + 1 => do
    let (name, span) ← expectIdent "type name"
    let args ←
      if ← eatSymbol .less then
        let args ← commaSeparated (type fuel) fuel
        let _ ← expect (.symbol .greater) "`>`"
        pure args
      else pure []
    return ⟨name, args, ⟨span.start, ← lastStop⟩⟩

def fieldLine (fuel : Nat) : Parser Field := do
  let fieldType ← type fuel
  let (name, span) ← expectIdent "field name"
  endLine
  return ⟨fieldType, name, ⟨fieldType.span.start, span.stop⟩⟩

def component (fuel : Nat) : Parser ComponentDecl := do
  let start ← expect (.keyword .component) "`component`"
  let (name, _) ← expectIdent "component name"
  if ← eatSymbol .assign then
    let aliased ← type fuel
    let stop ← lastStop
    endLine
    return ⟨name, .alias_ aliased, ⟨start.start, stop⟩⟩
  else
    endLine
    let fields ← if ← eat .indent then untilDedent (fieldLine fuel) fuel else pure []
    return ⟨name, .fields fields, ⟨start.start, ← lastStop⟩⟩

def roleOfType (head : TypeExpr) : Parser RoleDecl :=
  match head.args.find? (fun arg => !arg.args.isEmpty) with
  | some arg => refuseAt (.expected "a component name") arg.span
  | none => pure ⟨some head.name, head.args.map (·.name), head.span⟩

structure EventParts where
  roles : List RoleDecl
  payload : Option Field

namespace EventParts

def none : EventParts := ⟨[], .none⟩

def addRole (parts : EventParts) (role : RoleDecl) : EventParts :=
  { parts with roles := parts.roles ++ [role] }

end EventParts

def payload (head : TypeExpr) (parts : EventParts) : Parser EventParts := do
  if parts.payload.isSome then refuseAt .secondPayload head.span
  else
    let (name, span) ← expectIdent "parameter name"
    return { parts with payload := some ⟨head, name, ⟨head.span.start, span.stop⟩⟩ }

def atIdent : Parser Bool := do
  match ← peek with
  | some (.ident _) => return true
  | _ => return false

def bareComponents : (fuel : Nat) → Parser (List String)
  | 0 => refuse .exhausted
  | fuel + 1 => do
    if ← eatSymbol .comma then
      let (name, _) ← expectIdent "component name"
      let others ← bareComponents fuel
      return name :: others
    else return []

def eventLine (fuel : Nat) (parts : EventParts) : Parser EventParts := do
  let head ← type fuel
  if ← atIdent then payload head parts
  else if head.args.isEmpty then
    let others ← bareComponents fuel
    return parts.addRole ⟨none, head.name :: others, ⟨head.span.start, ← lastStop⟩⟩
  else
    let role ← roleOfType head
    return parts.addRole role

def eventLines (lineFuel : Nat) : (fuel : Nat) → EventParts → Parser EventParts
  | 0, _ => refuse .exhausted
  | fuel + 1, parts => do
    if ← eat .dedent then return parts
    else
      let parts ← eventLine lineFuel parts
      endLine
      eventLines lineFuel fuel parts

def headerPart (fuel : Nat) (parts : EventParts) : Parser EventParts := do
  let head ← type fuel
  if ← atIdent then payload head parts
  else if head.args.isEmpty then refuse (.bareName head.name)
  else
    let role ← roleOfType head
    return parts.addRole role

def headerParts (partFuel : Nat) : (fuel : Nat) → EventParts → Parser EventParts
  | 0, _ => refuse .exhausted
  | fuel + 1, parts => do
    let parts ← headerPart partFuel parts
    if ← eatSymbol .comma then headerParts partFuel fuel parts else return parts

def eventHeader (fuel : Nat) (name : String) : Parser EventDecl := do
  let start ← expect (.symbol .opening) "`(`"
  let parts ←
    if ← eatSymbol .closing then pure EventParts.none
    else
      let parts ← headerParts fuel fuel EventParts.none
      let _ ← expect (.symbol .closing) "`,` or `)`"
      pure parts
  return ⟨name, parts.roles, parts.payload, ⟨start.start, ← lastStop⟩⟩

def event (fuel : Nat) : Parser EventDecl := do
  let start ← expect (.keyword .event) "`event`"
  let (name, _) ← expectIdent "event name"
  if (← peek) = some (.symbol .opening) then
    let decl ← eventHeader fuel name
    endLine
    return { decl with span := ⟨start.start, decl.span.stop⟩ }
  else
    endLine
    let parts ← if ← eat .indent then eventLines fuel fuel EventParts.none else pure EventParts.none
    return ⟨name, parts.roles, parts.payload, ⟨start.start, ← lastStop⟩⟩

def literal? : Token → Option Value
  | .number n => some (.number n)
  | .text s => some (.text s)
  | .keyword .true_ => some (.boolean true)
  | .keyword .false_ => some (.boolean false)
  | _ => none

def binaryOp? : Token → Option BinaryOp
  | .symbol .plus => some .add
  | .symbol .minus => some .sub
  | .symbol .star => some .mul
  | .symbol .slash => some .div
  | .symbol .percent => some .mod
  | .symbol .equal => some .equal
  | .symbol .notEqual => some .notEqual
  | .symbol .less => some .less
  | .symbol .greater => some .greater
  | .symbol .lessEqual => some .lessEqual
  | .symbol .greaterEqual => some .greaterEqual
  | .symbol .andAnd => some .and
  | .keyword .and_ => some .and
  | .symbol .orOr => some .or
  | .keyword .or_ => some .or
  | _ => none

def unaryOp? : Token → Option UnaryOp
  | .symbol .minus => some .neg
  | .symbol .bang => some .not
  | .keyword .not_ => some .not
  | _ => none

def arguments (expr : Parser Expr) (fuel : Nat) : Parser (List Expr) := do
  if ← eatSymbol .closing then return []
  else
    let args ← commaSeparated expr fuel
    let _ ← expect (.symbol .closing) "`,` or `)`"
    return args

def parenthesized (expr : Parser Expr) (start : Nat) : Parser Expr := do
  let first ← expr
  if ← eatSymbol .comma then
    let second ← expr
    let _ ← expect (.symbol .comma) "`,` between vector components"
    let third ← expr
    let _ ← expect (.symbol .closing) "`)` after vector components"
    return .ofComponents first second third ⟨start, ← lastStop⟩
  else
    let _ ← expect (.symbol .closing) "`)`"
    return first

def primary (expr : Parser Expr) (fuel : Nat) : Parser Expr :=
  fun feed => match feed.left with
    | [] => refuse (.expected "an expression") feed
    | ⟨token, span⟩ :: rest =>
      let after : Feed := ⟨rest, span.stop⟩
      match literal? token with
      | some value => .ok (.literal value span, after)
      | none =>
        match token with
        | .ident name =>
          (do
            if ← eatSymbol .opening then
              let args ← arguments expr fuel
              return .call name args ⟨span.start, ← lastStop⟩
            else return .var name span : Parser Expr) after
        | .symbol .opening => parenthesized expr span.start after
        | _ => refuse (.expected "an expression") feed

def fields : (fuel : Nat) → Expr → Parser Expr
  | 0, _ => refuse .exhausted
  | fuel + 1, base => do
    if ← eatSymbol .dot then
      let (name, span) ← expectIdent "field name"
      fields fuel (.field base name ⟨base.span.start, span.stop⟩)
    else return base

def prefixed (operand : Parser Expr) : (fuel : Nat) → Parser Expr
  | 0 => refuse .exhausted
  | fuel + 1 => fun feed =>
    match feed.left with
    | [] => operand feed
    | ⟨token, span⟩ :: rest =>
      match unaryOp? token with
      | none => operand feed
      | some op => do
        let (expr, feed) ← prefixed operand fuel ⟨rest, span.stop⟩
        return (.unary op expr ⟨span.start, expr.span.stop⟩, feed)

def chain (operand : Parser Expr) (rank : Nat) : (fuel : Nat) → Expr → Parser Expr
  | 0, _ => refuse .exhausted
  | fuel + 1, left => do
    match ((← peek).bind binaryOp?).filter (·.rank == rank) with
    | none => return left
    | some op =>
      advance
      let right ← operand
      chain operand rank fuel (.join op left right)

def joined (operand : Parser Expr) (fuel : Nat) (rank : Nat) : Parser Expr := do
  let left ← operand
  chain operand rank fuel left

/-- An expression with at most `fuel` levels of parentheses. The ranks are joined from the tightest
to the loosest. -/
def expr : (fuel : Nat) → Parser Expr
  | 0 => refuse .exhausted
  | fuel + 1 =>
    let atom : Parser Expr := do fields (fuel + 1) (← primary (expr fuel) fuel)
    [5, 4, 3, 2, 1, 0].foldl (fun operand rank => joined operand (fuel + 1) rank)
      (prefixed atom (fuel + 1))

def block (stmt : Parser Stmt) (fuel : Nat) : Parser (List Stmt) := do
  let _ ← expect .indent "an indented block"
  untilDedent stmt fuel

/-- A declaration starts with two names, or with an optional's bracket. -/
def atDeclaration : Parser Bool :=
  fun feed => match feed.left with
    | ⟨.ident _, _⟩ :: ⟨.ident _, _⟩ :: _ => .ok (true, feed)
    | ⟨.ident "Optional", _⟩ :: ⟨.symbol .less, _⟩ :: _ => .ok (true, feed)
    | _ => .ok (false, feed)

def declaration (fuel : Nat) : Parser Stmt := do
  let declared ← type fuel
  let (name, _) ← expectIdent "variable name"
  let _ ← expect (.symbol .assign) "`=`"
  let value ← expr fuel
  endLine
  return .declare declared name value ⟨declared.span.start, value.span.stop⟩

def plainStmt (fuel : Nat) : Parser Stmt := do
  let value ← expr fuel
  if (← peek) = some (.symbol .assign) then
    match value.asPlace? with
    | none => refuseAt .notAssignable value.span
    | some target =>
      advance
      let assigned ← expr fuel
      endLine
      return .assign target assigned ⟨target.span.start, assigned.span.stop⟩
  else
    endLine
    return .expr value

def emission (fuel : Nat) : Parser Stmt := do
  let start ← expect (.keyword .emit) "`emit`"
  let (name, _) ← expectIdent "event name"
  let _ ← expect (.symbol .opening) "`(`"
  let args ← arguments (expr fuel) fuel
  let stop ← lastStop
  endLine
  return .emit name args ⟨start.start, stop⟩

def condition (keyword : Keyword) (what : String) (fuel : Nat) : Parser (Expr × Span) := do
  let start ← expect (.keyword keyword) what
  let value ← expr fuel
  endLine
  return (value, ⟨start.start, value.span.stop⟩)

/-- A statement with at most `fuel` levels of blocks. Another condition behind `else` is a
statement of its own. -/
def stmt (exprFuel : Nat) : (fuel : Nat) → Parser Stmt
  | 0 => refuse .exhausted
  | fuel + 1 => do
    match ← peek with
    | some (.keyword .if_) =>
      let (value, span) ← condition .if_ "`if`" exprFuel
      let yes ← block (stmt exprFuel fuel) exprFuel
      let no ←
        if ← eat (.keyword .else_) then
          if (← peek) = some (.keyword .if_) then
            let chained ← stmt exprFuel fuel
            pure [chained]
          else
            endLine
            block (stmt exprFuel fuel) exprFuel
        else pure []
      return .branch value yes no span
    | some (.keyword .while_) =>
      let (value, span) ← condition .while_ "`while`" exprFuel
      let body ← block (stmt exprFuel fuel) exprFuel
      return .loop value body span
    | some (.keyword .emit) => emission exprFuel
    | _ => if ← atDeclaration then declaration exprFuel else plainStmt exprFuel

def param (fuel : Nat) : Parser RoleDecl := do
  let head ← type fuel
  if head.args.isEmpty then refuseAt (.expected "`name<components>`") head.span
  else roleOfType head

def system (fuel : Nat) : Parser SystemDecl := do
  let start ← expect (.keyword .system) "`system`"
  let (name, _) ← expectIdent "system name"
  let _ ← expect (.symbol .opening) "`(`"
  let params ←
    if ← eatSymbol .closing then pure []
    else
      let params ← commaSeparated (param fuel) fuel
      let _ ← expect (.symbol .closing) "`,` or `)`"
      pure params
  let _ ← expect (.keyword .event) "`event`"
  let (eventName, _) ← expectIdent "event name"
  let listener ← eventHeader fuel eventName
  let stop ← lastStop
  endLine
  let body ← block (stmt fuel fuel) fuel
  return ⟨name, params, listener, body, ⟨start.start, stop⟩⟩

def items (itemFuel : Nat) : (fuel : Nat) → Parser (List Item)
  | 0 => refuse .exhausted
  | fuel + 1 => do
    match ← peek with
    | none => return []
    | some .newline =>
      advance
      items itemFuel fuel
    | some (.keyword .component) =>
      let decl ← component itemFuel
      let others ← items itemFuel fuel
      return .component decl :: others
    | some (.keyword .event) =>
      let decl ← event itemFuel
      let others ← items itemFuel fuel
      return .event decl :: others
    | some (.keyword .system) =>
      let decl ← system itemFuel
      let others ← items itemFuel fuel
      return .system decl :: others
    | _ => refuse (.expected "`component`, `event` or `system`")

def tree (lexemes : List Lexeme) : Except Refusal Tree := do
  let fuel := lexemes.length + 2
  let (found, _) ← items fuel fuel ⟨lexemes, 0⟩
  return ⟨found⟩

end Grammar

def parse (source : String) : Except ParseFault Tree :=
  match lex source with
  | .error fault => .error (.ofLexFault source fault)
  | .ok lexemes =>
    match Grammar.tree lexemes with
    | .error refusal => .error (.ofRefusal source lexemes refusal)
    | .ok tree => .ok tree

end Stagecraft.Script
