import Stagecraft.Proofs.Script.Propriety

/-!
Phrases: the lines that a proper tree is written with. Their tokens are legible and their parentheses
match, so that the fair copy of the tree is read as just these lines.
-/

namespace Stagecraft.Script

structure Phrase (tokens : List Token) : Prop where
  legible : ∀ token ∈ tokens, token.Legible
  level : ∀ depth, depthBehindAll depth tokens = some depth

namespace Phrase

theorem nil : Phrase [] := ⟨nofun, fun _ => rfl⟩

theorem append {left right : List Token} (first : Phrase left) (second : Phrase right) :
    Phrase (left ++ right) := by
  refine ⟨List.forall_mem_append.mpr ⟨first.legible, second.legible⟩, fun depth => ?_⟩
  rw [depthBehindAll, List.foldlM_append]
  exact (congrArg (· >>= fun inner => depthBehindAll inner right) (first.level depth)).trans
    (second.level depth)

theorem cons {token : Token} {rest : List Token} (legible : token.Legible)
    (plain : ∀ depth, depthBehind depth token = some depth) (phrase : Phrase rest) :
    Phrase (token :: rest) := by
  refine ⟨List.forall_mem_cons.mpr ⟨legible, phrase.legible⟩, fun depth => ?_⟩
  rw [depthBehindAll, List.foldlM_cons, plain depth]
  exact phrase.level depth

theorem ident {name : String} {rest : List Token} (isName : IsName name) (phrase : Phrase rest) :
    Phrase (.ident name :: rest) := cons isName (fun _ => rfl) phrase

theorem keyword (keyword : Keyword) {rest : List Token} (phrase : Phrase rest) :
    Phrase (.keyword keyword :: rest) := cons trivial (fun _ => rfl) phrase

theorem symbol (symbol : Symbol) (plain : symbol ≠ .opening ∧ symbol ≠ .closing) {rest : List Token}
    (phrase : Phrase rest) : Phrase (.symbol symbol :: rest) := by
  refine cons trivial (fun depth => ?_) phrase
  obtain ⟨opens, closes⟩ := plain
  cases symbol
  case opening => exact absurd rfl opens
  case closing => exact absurd rfl closes
  all_goals rfl

theorem enclosed {tokens : List Token} (phrase : Phrase tokens) : Phrase (enclosed tokens) := by
  refine ⟨?_, fun depth => ?_⟩
  · exact List.forall_mem_append.mpr ⟨List.forall_mem_cons.mpr ⟨trivial, phrase.legible⟩,
      List.forall_mem_singleton.mpr trivial⟩
  · rw [Script.enclosed, depthBehindAll, List.foldlM_append, List.foldlM_cons]
    exact congrArg (· >>= fun inner => depthBehindAll inner [.symbol .closing])
      (phrase.level (depth + 1))

theorem commas {parts : List (List Token)} (phrases : ∀ part ∈ parts, Phrase part) :
    Phrase (commas parts) := by
  induction parts with
  | nil => exact nil
  | cons part rest ih =>
    obtain ⟨here, behind⟩ := List.forall_mem_cons.mp phrases
    cases rest with
    | nil => exact here
    | cons other more => exact here.append (symbol .comma ⟨nofun, nofun⟩ (ih behind))

theorem names {names : List String} (areNames : ∀ name ∈ names, IsName name) :
    ∀ part ∈ nameTokens names, Phrase part := by
  intro part member
  obtain ⟨name, inside, rfl⟩ := List.mem_map.mp member
  exact ident (areNames name inside) nil

theorem line {tokens : List Token} (phrase : Phrase tokens) (present : tokens ≠ []) :
    LegibleLine tokens := ⟨present, phrase.legible, phrase.level 0⟩

end Phrase

/-! ### Parts of declarations -/

mutual

theorem TypeExpr.phrase : (type : TypeExpr) → type.Proper → Phrase type.tokens
  | ⟨_, [], _⟩, proper => .ident proper.1 .nil
  | ⟨_, arg :: rest, _⟩, proper => by
    have args := TypeExpr.phrases (arg :: rest) proper.2
    exact .append (.ident proper.1 (.symbol .less ⟨nofun, nofun⟩ (.commas args)))
      (.symbol .greater ⟨nofun, nofun⟩ .nil)
termination_by structural type => type

theorem TypeExpr.phrases : (args : List TypeExpr) → TypeExpr.AllProper args →
    ∀ part ∈ TypeExpr.tokensOfAll args, Phrase part
  | [], _ => nofun
  | arg :: rest, proper =>
    List.forall_mem_cons.mpr ⟨TypeExpr.phrase arg proper.1, TypeExpr.phrases rest proper.2⟩
termination_by structural args => args

end

theorem Field.phrase {field : Field} (proper : field.Proper) : Phrase field.tokens :=
  (field.type.phrase proper.type).append (.ident proper.name .nil)

theorem RoleDecl.phrase {role : RoleDecl} (proper : role.Proper) : Phrase role.tokens := by
  have components := Phrase.commas (Phrase.names proper.components)
  unfold RoleDecl.tokens
  split
  · next name named =>
    exact .append (.ident (proper.name name named) (.symbol .less ⟨nofun, nofun⟩ components))
      (.symbol .greater ⟨nofun, nofun⟩ .nil)
  · exact components

theorem commas_ne_nil {parts : List (List Token)} (present : parts ≠ [])
    (full : ∀ part ∈ parts, part ≠ []) : commas parts ≠ [] := by
  obtain ⟨part, rest, rfl⟩ := List.exists_cons_of_ne_nil present
  have here := full part List.mem_cons_self
  cases rest with
  | nil => exact here
  | cons other more => exact List.append_ne_nil_of_left_ne_nil here _

theorem RoleDecl.tokens_ne_nil {role : RoleDecl} (proper : role.Proper) : role.tokens ≠ [] := by
  unfold RoleDecl.tokens
  split
  · exact List.cons_ne_nil _ _
  · apply commas_ne_nil
    · exact fun empty => proper.present (List.map_eq_nil_iff.mp empty)
    · intro part member
      obtain ⟨name, -, rfl⟩ := List.mem_map.mp member
      exact List.cons_ne_nil _ _

theorem Field.tokens_ne_nil (field : Field) : field.tokens ≠ [] :=
  List.append_ne_nil_of_right_ne_nil _ (List.cons_ne_nil _ _)

theorem EventDecl.legible_parts {decl : EventDecl} (proper : decl.Proper) :
    ∀ part ∈ decl.parts, Phrase part ∧ part ≠ [] := by
  refine List.forall_mem_append.mpr ⟨fun part member => ?_, fun part member => ?_⟩
  · obtain ⟨role, inside, rfl⟩ := List.mem_map.mp member
    have roleProper := proper.roles role inside
    exact ⟨RoleDecl.phrase roleProper, RoleDecl.tokens_ne_nil roleProper⟩
  · obtain ⟨field, inside, rfl⟩ := Option.map_eq_some_iff.mp (Option.mem_toList.mp member)
    exact ⟨Field.phrase (proper.payload field inside), field.tokens_ne_nil⟩

theorem EventDecl.header_phrase {decl : EventDecl} (proper : decl.Proper) : Phrase decl.header :=
  .ident proper.name (.enclosed (.commas fun part member => (decl.legible_parts proper part member).1))

/-! ### Expressions -/

theorem UnaryOp.token_cons (op : UnaryOp) {rest : List Token} (phrase : Phrase rest) :
    Phrase (op.token :: rest) := by
  cases op
  all_goals exact .cons trivial (fun _ => rfl) phrase

theorem BinaryOp.token_cons (op : BinaryOp) {rest : List Token} (phrase : Phrase rest) :
    Phrase (op.token :: rest) := by
  cases op
  all_goals exact .cons trivial (fun _ => rfl) phrase

theorem literal_phrase {value : Value} (legible : ∀ token ∈ literalTokens value, token.Legible) :
    Phrase (literalTokens value) := by
  refine ⟨legible, fun depth => ?_⟩
  unfold literalTokens
  split
  all_goals rfl

mutual

theorem Expr.phrase : (expr : Expr) → expr.Proper → Phrase expr.tokens
  | .literal _ _, proper => literal_phrase proper.2
  | .var _ _, proper => .ident proper .nil
  | .field base _ _, proper =>
    (Expr.phrase base proper.1).append (.symbol .dot ⟨nofun, nofun⟩ (.ident proper.2 .nil))
  | .unary op operand _, proper => .enclosed (op.token_cons (Expr.phrase operand proper))
  | .binary op left right _, proper =>
    .enclosed ((Expr.phrase left proper.1).append (op.token_cons (Expr.phrase right proper.2)))
  | .call _ args _, proper => .ident proper.1 (.enclosed (.commas (Expr.phrases args proper.2)))
  | .vector x y z _, proper => by
    obtain ⟨-, first, second, third⟩ := proper
    refine .enclosed (.commas ?_)
    simp only [List.forall_mem_cons]
    exact ⟨Expr.phrase x first, Expr.phrase y second, Expr.phrase z third, nofun⟩
termination_by structural expr => expr

theorem Expr.phrases : (args : List Expr) → Expr.AllProper args →
    ∀ part ∈ Expr.tokensOfAll args, Phrase part
  | [], _ => nofun
  | arg :: rest, proper =>
    List.forall_mem_cons.mpr ⟨Expr.phrase arg proper.1, Expr.phrases rest proper.2⟩
termination_by structural args => args

end

theorem path_phrase {path : List String} (areNames : ∀ name ∈ path, IsName name) :
    Phrase (pathTokens path) := by
  induction path with
  | nil => exact .nil
  | cons name rest ih =>
    obtain ⟨here, behind⟩ := List.forall_mem_cons.mp areNames
    exact .symbol .dot ⟨nofun, nofun⟩ (.ident here (ih behind))

def Token.heads : Token → Bool
  | number _ | text _ | ident _ | keyword .true_ | keyword .false_ | symbol .opening => true
  | _ => false

theorem unaryOp?_of_heads {token : Token} (heads : token.heads = true) :
    Grammar.unaryOp? token = none := by
  unfold Token.heads at heads
  split at heads
  case h_7 => cases heads
  all_goals rfl

theorem Expr.tokens_cons : (expr : Expr) → expr.Proper →
    ∃ first rest, expr.tokens = first :: rest ∧ first.heads = true
  | .literal value _, proper => by
    have present := proper.1
    cases value with
    | number | text | vector => exact ⟨_, _, rfl, rfl⟩
    | boolean b => cases b <;> exact ⟨_, _, rfl, rfl⟩
    | _ => exact absurd rfl present
  | .var _ _, _ | .call _ _ _, _ | .unary _ _ _, _ | .binary _ _ _ _, _ | .vector _ _ _ _, _ =>
    ⟨_, _, rfl, rfl⟩
  | .field base name _, proper => by
    obtain ⟨first, rest, same, heads⟩ := Expr.tokens_cons base proper.1
    rw [Expr.tokens, same]
    exact ⟨first, _, rfl, heads⟩

/-! ### Statements -/

theorem Outline.allLegible_iff {outlines : List Outline} :
    AllLegible outlines ↔ ∀ outline ∈ outlines, outline.Legible := by
  induction outlines with
  | nil => exact ⟨fun _ => nofun, fun _ => trivial⟩
  | cons outline rest ih => rw [AllLegible, ih, List.forall_mem_cons]

theorem Outline.allLegible_append {left right : List Outline} (first : AllLegible left)
    (second : AllLegible right) : AllLegible (left ++ right) := by
  rw [allLegible_iff] at first second ⊢
  exact List.forall_mem_append.mpr ⟨first, second⟩

theorem Phrase.legible_entry {tokens : List Token} (phrase : Phrase tokens) (present : tokens ≠ []) :
    (Outline.entry tokens []).Legible := ⟨phrase.line present, trivial⟩

theorem Outline.legible_prepend (keyword : Keyword) {outlines : List Outline}
    (legible : AllLegible outlines) : AllLegible (prepend (.keyword keyword) outlines) := by
  cases outlines with
  | nil => trivial
  | cons outline rest =>
    obtain ⟨line, block⟩ := outline
    obtain ⟨⟨inline, below⟩, others⟩ := legible
    refine ⟨⟨⟨List.cons_ne_nil _ _, ?_, ?_⟩, below⟩, others⟩
    · exact List.forall_mem_cons.mpr ⟨trivial, inline.legible⟩
    · rw [depthBehindAll, List.foldlM_cons]
      exact inline.closed

theorem elseOutlines_legible (hand : Hand) (no : List Stmt) {outlines : List Outline}
    (legible : Outline.AllLegible outlines) :
    Outline.AllLegible (elseOutlines hand no outlines) := by
  have alone : LegibleLine [.keyword .else_] := (Phrase.keyword .else_ .nil).line (List.cons_ne_nil _ _)
  unfold elseOutlines
  split
  · trivial
  · split
    · exact Outline.legible_prepend .else_ legible
    · exact ⟨⟨alone, legible⟩, trivial⟩
  · exact ⟨⟨alone, legible⟩, trivial⟩

mutual

theorem Stmt.legible (hand : Hand) : (stmt : Stmt) → stmt.Proper →
    Outline.AllLegible (stmt.outlines hand)
  | .assign target value _, proper => by
    obtain ⟨place, written⟩ := proper
    have phrase : Phrase (target.tokens ++ .symbol .assign :: value.tokens) :=
      (Phrase.ident place.root (path_phrase place.path)).append
        (.symbol .assign ⟨nofun, nofun⟩ (value.phrase written))
    exact ⟨phrase.legible_entry (List.cons_ne_nil _ _), trivial⟩
  | .declare type name value _, proper => by
    obtain ⟨typed, -, isName, written⟩ := proper
    have phrase : Phrase (type.tokens ++ .ident name :: .symbol .assign :: value.tokens) :=
      (type.phrase typed).append (.ident isName (.symbol .assign ⟨nofun, nofun⟩ (value.phrase written)))
    refine ⟨phrase.legible_entry ?_, trivial⟩
    exact List.append_ne_nil_of_right_ne_nil _ (List.cons_ne_nil _ _)
  | .expr value, proper => by
    obtain ⟨first, rest, same, -⟩ := value.tokens_cons proper
    have present : value.tokens ≠ [] := by
      rw [same]
      exact List.cons_ne_nil first rest
    exact ⟨(value.phrase proper).legible_entry present, trivial⟩
  | .branch condition yes no _, proper => by
    obtain ⟨written, -, first, second⟩ := proper
    have phrase := Phrase.keyword .if_ (condition.phrase written)
    exact ⟨⟨phrase.line (List.cons_ne_nil _ _), Stmt.allLegible hand yes first⟩,
      elseOutlines_legible hand no (Stmt.allLegible hand no second)⟩
  | .loop condition body _, proper => by
    obtain ⟨written, -, below⟩ := proper
    have phrase := Phrase.keyword .while_ (condition.phrase written)
    exact ⟨⟨phrase.line (List.cons_ne_nil _ _), Stmt.allLegible hand body below⟩, trivial⟩
  | .emit event args _, proper => by
    obtain ⟨isName, written⟩ := proper
    have phrase := Phrase.keyword .emit (.ident isName (.enclosed (.commas (Expr.phrases args written))))
    exact ⟨phrase.legible_entry (List.cons_ne_nil _ _), trivial⟩
termination_by structural stmt => stmt

theorem Stmt.allLegible (hand : Hand) : (stmts : List Stmt) → Stmt.AllProper stmts →
    Outline.AllLegible (Stmt.outlinesOfAll hand stmts)
  | [], _ => trivial
  | stmt :: rest, proper =>
    Outline.allLegible_append (Stmt.legible hand stmt proper.1) (Stmt.allLegible hand rest proper.2)
termination_by structural stmts => stmts

end

/-! ### Scripts -/

theorem ComponentDecl.legible {decl : ComponentDecl} (proper : decl.Proper) : decl.outline.Legible := by
  obtain ⟨isName, body⟩ := proper
  obtain ⟨name, content, span⟩ := decl
  cases content with
  | alias_ type =>
    have phrase := Phrase.keyword .component
      (.ident isName (.symbol .assign ⟨nofun, nofun⟩ (type.phrase body)))
    exact phrase.legible_entry (List.cons_ne_nil _ _)
  | fields lines =>
    have phrase := Phrase.keyword .component (.ident isName .nil)
    refine ⟨phrase.line (List.cons_ne_nil _ _), Outline.allLegible_iff.mpr fun outline member => ?_⟩
    obtain ⟨field, inside, rfl⟩ := List.mem_map.mp member
    exact (Field.phrase (body field inside)).legible_entry field.tokens_ne_nil

theorem EventDecl.legible {decl : EventDecl} (proper : decl.Proper) : decl.outline.Legible := by
  have phrase := Phrase.keyword .event (.ident proper.name .nil)
  refine ⟨phrase.line (List.cons_ne_nil _ _), Outline.allLegible_iff.mpr fun outline member => ?_⟩
  obtain ⟨part, inside, rfl⟩ := List.mem_map.mp member
  obtain ⟨here, present⟩ := decl.legible_parts proper part inside
  exact here.legible_entry present

theorem SystemDecl.legible (hand : Hand) {decl : SystemDecl} (proper : decl.Proper) :
    (decl.outline hand).Legible := by
  have params : Phrase (commas (decl.params.map RoleDecl.tokens)) := by
    refine .commas fun part member => ?_
    obtain ⟨role, inside, rfl⟩ := List.mem_map.mp member
    exact RoleDecl.phrase (proper.params role inside)
  have listens := Phrase.keyword .event (EventDecl.header_phrase proper.event)
  have phrase := Phrase.keyword .system (.ident proper.name (params.enclosed.append listens))
  exact ⟨phrase.line (List.cons_ne_nil _ _), Stmt.allLegible hand decl.body proper.body⟩

theorem Item.legible (hand : Hand) {item : Item} (proper : item.Proper) :
    (item.outline hand).Legible := by
  cases item with
  | component decl => exact ComponentDecl.legible proper
  | event decl => exact EventDecl.legible proper
  | system decl => exact SystemDecl.legible hand proper

/-- The fair copy of a proper tree is read as its lines. -/
theorem Tree.lexes_write (hand : Hand) {tree : Tree} (proper : ∀ item ∈ tree.items, item.Proper) :
    ∃ lexemes, lex (tree.write hand) = .ok lexemes ∧
      lexemes.map Lexeme.token = Outline.tokensOfAll (tree.items.map (Item.outline hand)) := by
  apply Tree.lex_write
  refine Outline.allLegible_iff.mpr fun outline member => ?_
  obtain ⟨item, inside, rfl⟩ := List.mem_map.mp member
  exact Item.legible hand (proper item inside)

end Stagecraft.Script
