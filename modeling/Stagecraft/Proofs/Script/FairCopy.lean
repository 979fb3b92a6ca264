import Stagecraft.Script.Grammar

/-!
Fair copies: the text of a tree in one fixed layout. Declarations, fields, roles, payloads and statements
have lines of their own, a block is indented by one tab more than its header, events that stand on their
own have bodies, and every operator is in parentheses with its operands.
-/

namespace Stagecraft.Script

open Text (Span)

/-! ### Trees without places -/

def nowhere : Span := ⟨0, 0⟩

mutual

def TypeExpr.bare : TypeExpr → TypeExpr
  | ⟨name, args, _⟩ => ⟨name, TypeExpr.bareAll args, nowhere⟩
termination_by structural type => type

def TypeExpr.bareAll : List TypeExpr → List TypeExpr
  | [] => []
  | arg :: rest => TypeExpr.bare arg :: TypeExpr.bareAll rest
termination_by structural args => args

end

def Field.bare (field : Field) : Field := ⟨field.type.bare, field.name, nowhere⟩

def ComponentBody.bare : ComponentBody → ComponentBody
  | alias_ type => alias_ type.bare
  | fields lines => fields (lines.map Field.bare)

def ComponentDecl.bare (decl : ComponentDecl) : ComponentDecl :=
  ⟨decl.name, decl.body.bare, nowhere⟩

def RoleDecl.bare (role : RoleDecl) : RoleDecl := { role with span := nowhere }

def EventDecl.bare (decl : EventDecl) : EventDecl :=
  ⟨decl.name, decl.roles.map RoleDecl.bare, decl.payload.map Field.bare, nowhere⟩

mutual

def Expr.bare : Expr → Expr
  | .literal value _ => .literal value nowhere
  | .var name _ => .var name nowhere
  | .field base name _ => .field (Expr.bare base) name nowhere
  | .unary op operand _ => .unary op (Expr.bare operand) nowhere
  | .binary op left right _ => .binary op (Expr.bare left) (Expr.bare right) nowhere
  | .call name args _ => .call name (Expr.bareAll args) nowhere
  | .vector x y z _ => .vector (Expr.bare x) (Expr.bare y) (Expr.bare z) nowhere
termination_by structural expr => expr

def Expr.bareAll : List Expr → List Expr
  | [] => []
  | arg :: rest => Expr.bare arg :: Expr.bareAll rest
termination_by structural args => args

end

def Place.bare (place : Place) : Place := { place with span := nowhere }

mutual

def Stmt.bare : Stmt → Stmt
  | .assign target value _ => .assign target.bare value.bare nowhere
  | .declare type name value _ => .declare type.bare name value.bare nowhere
  | .expr value => .expr value.bare
  | .branch condition yes no _ =>
    .branch condition.bare (Stmt.bareAll yes) (Stmt.bareAll no) nowhere
  | .loop condition body _ => .loop condition.bare (Stmt.bareAll body) nowhere
  | .emit event args _ => .emit event (Expr.bareAll args) nowhere
termination_by structural stmt => stmt

def Stmt.bareAll : List Stmt → List Stmt
  | [] => []
  | stmt :: rest => Stmt.bare stmt :: Stmt.bareAll rest
termination_by structural stmts => stmts

end

def SystemDecl.bare (decl : SystemDecl) : SystemDecl :=
  ⟨decl.name, decl.params.map RoleDecl.bare, decl.event.bare, Stmt.bareAll decl.body, nowhere⟩

def Item.bare : Item → Item
  | component decl => component decl.bare
  | event decl => event decl.bare
  | system decl => system decl.bare

/-- A tree without its places: what a script says, wherever it says it. -/
def Tree.bare (tree : Tree) : Tree := ⟨tree.items.map Item.bare⟩

theorem TypeExpr.bareAll_eq (args : List TypeExpr) : bareAll args = args.map bare := by
  induction args with
  | nil => rfl
  | cons arg rest ih => rw [bareAll, ih, List.map_cons]

theorem Expr.bareAll_eq (args : List Expr) : bareAll args = args.map bare := by
  induction args with
  | nil => rfl
  | cons arg rest ih => rw [bareAll, ih, List.map_cons]

theorem Stmt.bareAll_eq (stmts : List Stmt) : bareAll stmts = stmts.map bare := by
  induction stmts with
  | nil => rfl
  | cons stmt rest ih => rw [bareAll, ih, List.map_cons]

/-! ### Hands -/

def Spells (text : List Char) (n : Float) : Prop :=
  ∃ c rest, text = c :: rest ∧ c.isDigit = true ∧ scanNumber (c :: rest) = (.number n, rest.length + 1)

/-- What is left open by the layout: how numbers are written, each that can be read in such a way that it
is read again, and whether a condition that is alone behind an `else` stands on the same line. -/
structure Hand where
  digits : Float → List Char
  spells : ∀ n, (∃ text, Spells text n) → Spells (digits n) n
  chains : Bool

theorem exists_hand (chains : Bool) : ∃ hand : Hand, hand.chains = chains := by
  have spelled : ∀ n, ∃ text, (∃ text, Spells text n) → Spells text n := by
    intro n
    by_cases readable : ∃ text, Spells text n
    · obtain ⟨text, spells⟩ := readable
      exact ⟨text, fun _ => spells⟩
    · exact ⟨[], fun found => absurd found readable⟩
  exact ⟨⟨fun n => (spelled n).choose, fun n => (spelled n).choose_spec, chains⟩, rfl⟩

/-! ### Lines and blocks -/

inductive Outline where
  | entry (line : List Token) (block : List Outline)

mutual

def Outline.tokens : Outline → List Token
  | .entry line [] => line ++ [.newline]
  | .entry line (first :: rest) =>
    line ++ .newline :: .indent :: Outline.tokensOfAll (first :: rest) ++ [.dedent]
termination_by structural outline => outline

def Outline.tokensOfAll : List Outline → List Token
  | [] => []
  | outline :: rest => Outline.tokens outline ++ Outline.tokensOfAll rest
termination_by structural outlines => outlines

end

def commas : List (List Token) → List Token
  | [] => []
  | [part] => part
  | part :: rest => part ++ .symbol .comma :: commas rest

def nameTokens (names : List String) : List (List Token) := names.map (fun name => [.ident name])

mutual

def TypeExpr.tokens : TypeExpr → List Token
  | ⟨name, [], _⟩ => [.ident name]
  | ⟨name, arg :: rest, _⟩ =>
    .ident name :: .symbol .less :: commas (TypeExpr.tokensOfAll (arg :: rest)) ++ [.symbol .greater]
termination_by structural type => type

def TypeExpr.tokensOfAll : List TypeExpr → List (List Token)
  | [] => []
  | arg :: rest => TypeExpr.tokens arg :: TypeExpr.tokensOfAll rest
termination_by structural args => args

end

def Field.tokens (field : Field) : List Token := field.type.tokens ++ [.ident field.name]

def RoleDecl.tokens (role : RoleDecl) : List Token :=
  match role.name with
  | some name =>
    .ident name :: .symbol .less :: commas (nameTokens role.components) ++ [.symbol .greater]
  | none => commas (nameTokens role.components)

def ComponentDecl.outline (decl : ComponentDecl) : Outline :=
  match decl.body with
  | .alias_ type =>
    .entry (.keyword .component :: .ident decl.name :: .symbol .assign :: type.tokens) []
  | .fields lines =>
    .entry [.keyword .component, .ident decl.name] (lines.map (fun field => .entry field.tokens []))

def EventDecl.parts (decl : EventDecl) : List (List Token) :=
  decl.roles.map RoleDecl.tokens ++ (decl.payload.map Field.tokens).toList

def EventDecl.outline (decl : EventDecl) : Outline :=
  .entry [.keyword .event, .ident decl.name] (decl.parts.map (fun part => .entry part []))

def EventDecl.header (decl : EventDecl) : List Token :=
  .ident decl.name :: .symbol .opening :: commas decl.parts ++ [.symbol .closing]

def UnaryOp.token : UnaryOp → Token
  | neg => .symbol .minus
  | not => .keyword .not_

def BinaryOp.token : BinaryOp → Token
  | add => .symbol .plus
  | sub => .symbol .minus
  | mul => .symbol .star
  | div => .symbol .slash
  | mod => .symbol .percent
  | equal => .symbol .equal
  | notEqual => .symbol .notEqual
  | less => .symbol .less
  | greater => .symbol .greater
  | lessEqual => .symbol .lessEqual
  | greaterEqual => .symbol .greaterEqual
  | and => .keyword .and_
  | or => .keyword .or_

def enclosed (tokens : List Token) : List Token := .symbol .opening :: tokens ++ [.symbol .closing]

def literalTokens : Value → List Token
  | .number n => [.number n]
  | .text s => [.text s]
  | .boolean true => [.keyword .true_]
  | .boolean false => [.keyword .false_]
  | .vector v => enclosed (commas [[.number v.x], [.number v.y], [.number v.z]])
  | _ => []

mutual

def Expr.tokens : Expr → List Token
  | .literal value _ => literalTokens value
  | .var name _ => [.ident name]
  | .field base name _ => Expr.tokens base ++ [.symbol .dot, .ident name]
  | .unary op operand _ => enclosed (op.token :: Expr.tokens operand)
  | .binary op left right _ => enclosed (Expr.tokens left ++ op.token :: Expr.tokens right)
  | .call name args _ => .ident name :: enclosed (commas (Expr.tokensOfAll args))
  | .vector x y z _ => enclosed (commas [Expr.tokens x, Expr.tokens y, Expr.tokens z])
termination_by structural expr => expr

def Expr.tokensOfAll : List Expr → List (List Token)
  | [] => []
  | arg :: rest => Expr.tokens arg :: Expr.tokensOfAll rest
termination_by structural args => args

end

theorem TypeExpr.tokensOfAll_eq (args : List TypeExpr) : tokensOfAll args = args.map tokens := by
  induction args with
  | nil => rfl
  | cons arg rest ih => rw [tokensOfAll, ih, List.map_cons]

theorem Expr.tokensOfAll_eq (args : List Expr) : tokensOfAll args = args.map tokens := by
  induction args with
  | nil => rfl
  | cons arg rest ih => rw [tokensOfAll, ih, List.map_cons]

def pathTokens (path : List String) : List Token :=
  path.flatMap (fun name => [.symbol .dot, .ident name])

def Place.tokens (place : Place) : List Token := .ident place.root :: pathTokens place.path

def Outline.prepend (token : Token) : List Outline → List Outline
  | [] => []
  | .entry line block :: rest => .entry (token :: line) block :: rest

def elseOutlines (hand : Hand) : List Stmt → List Outline → List Outline
  | [], _ => []
  | [.branch ..], outlines =>
    if hand.chains then Outline.prepend (.keyword .else_) outlines
    else [.entry [.keyword .else_] outlines]
  | _, outlines => [.entry [.keyword .else_] outlines]

mutual

def Stmt.outlines (hand : Hand) : Stmt → List Outline
  | .assign target value _ => [.entry (target.tokens ++ .symbol .assign :: value.tokens) []]
  | .declare type name value _ =>
    [.entry (type.tokens ++ .ident name :: .symbol .assign :: value.tokens) []]
  | .expr value => [.entry value.tokens []]
  | .branch condition yes no _ =>
    .entry (.keyword .if_ :: condition.tokens) (Stmt.outlinesOfAll hand yes) ::
      elseOutlines hand no (Stmt.outlinesOfAll hand no)
  | .loop condition body _ =>
    [.entry (.keyword .while_ :: condition.tokens) (Stmt.outlinesOfAll hand body)]
  | .emit event args _ =>
    [.entry (.keyword .emit :: .ident event :: enclosed (commas (Expr.tokensOfAll args))) []]
termination_by structural stmt => stmt

def Stmt.outlinesOfAll (hand : Hand) : List Stmt → List Outline
  | [] => []
  | stmt :: rest => Stmt.outlines hand stmt ++ Stmt.outlinesOfAll hand rest
termination_by structural stmts => stmts

end

def SystemDecl.outline (hand : Hand) (decl : SystemDecl) : Outline :=
  .entry (.keyword .system :: .ident decl.name ::
      enclosed (commas (decl.params.map RoleDecl.tokens)) ++ .keyword .event :: decl.event.header)
    (Stmt.outlinesOfAll hand decl.body)

def Item.outline (hand : Hand) : Item → Outline
  | component decl => decl.outline
  | event decl => decl.outline
  | system decl => decl.outline hand

/-! ### Texts -/

def Token.chars (hand : Hand) : Token → List Char
  | .number n => hand.digits n
  | .text s => '"' :: s.toList ++ ['"']
  | .ident name => name.toList
  | .keyword k => k.text.toList
  | .symbol s => s.text.toList
  | .newline | .indent | .dedent => []

def Token.touches : Token → Token → Bool
  | .symbol .opening, _ | .symbol .dot, _ => true
  | .number _, .symbol .dot => false
  | _, .symbol .closing | _, .symbol .comma | _, .symbol .dot => true
  | .ident _, .symbol .opening => true
  | _, _ => false

def Token.gap (left : Token) : List Token → List Char
  | [] => []
  | right :: _ => if left.touches right then [] else [' ']

def lineChars (hand : Hand) : List Token → List Char
  | [] => []
  | token :: rest => token.chars hand ++ token.gap rest ++ lineChars hand rest

mutual

def Outline.chars (hand : Hand) (level : Nat) : Outline → List Char
  | .entry line block =>
    List.replicate level '\t' ++ lineChars hand line ++ '\n' :: Outline.charsOfAll hand (level + 1) block
termination_by structural outline => outline

def Outline.charsOfAll (hand : Hand) (level : Nat) : List Outline → List Char
  | [] => []
  | outline :: rest => Outline.chars hand level outline ++ Outline.charsOfAll hand level rest
termination_by structural outlines => outlines

end

def Tree.write (hand : Hand) (tree : Tree) : String :=
  String.ofList (Outline.charsOfAll hand 0 (tree.items.map (Item.outline hand)))

example (hand : Hand) :
    let lamp : ComponentDecl :=
      ⟨"Lamp", .fields [⟨⟨"Boolean", [], nowhere⟩, "lit", nowhere⟩], nowhere⟩
    let condition : Expr :=
      .binary .and (.var "dark" nowhere)
        (.unary .not (.field (.var "lamp" nowhere) "lit" nowhere) nowhere) nowhere
    let swap : SystemDecl :=
      ⟨"Swap", [], ⟨"Tick", [], none, nowhere⟩,
        [.branch condition [.expr (.call "ring" [] nowhere)] [] nowhere], nowhere⟩
    (Tree.mk [.component lamp, .system swap]).write hand =
      "component Lamp\n\tBoolean lit\n" ++
        "system Swap() event Tick()\n\tif (dark and (not lamp.lit))\n\t\tring()\n" := by
  rfl

end Stagecraft.Script
