import Stagecraft.Proofs.Script.Legibility

/-!
Propriety: what every tree of a script has in common. Its names are names, its literals can be written,
and its blocks and lists of components have members where the grammar demands them.
-/

namespace Stagecraft.Script

/-! ### Proper trees -/

mutual

def TypeExpr.Proper : TypeExpr → Prop
  | ⟨name, args, _⟩ => IsName name ∧ TypeExpr.AllProper args
termination_by structural type => type

def TypeExpr.AllProper : List TypeExpr → Prop
  | [] => True
  | arg :: rest => TypeExpr.Proper arg ∧ TypeExpr.AllProper rest
termination_by structural args => args

end

structure Field.Proper (field : Field) : Prop where
  type : field.type.Proper
  name : IsName field.name

def ComponentBody.Proper : ComponentBody → Prop
  | alias_ type => type.Proper
  | fields lines => ∀ field ∈ lines, field.Proper

structure ComponentDecl.Proper (decl : ComponentDecl) : Prop where
  name : IsName decl.name
  body : decl.body.Proper

structure RoleDecl.Proper (role : RoleDecl) : Prop where
  name : ∀ name ∈ role.name, IsName name
  components : ∀ component ∈ role.components, IsName component
  present : role.components ≠ []

structure EventDecl.Proper (decl : EventDecl) : Prop where
  name : IsName decl.name
  roles : ∀ role ∈ decl.roles, role.Proper
  payload : ∀ field ∈ decl.payload, field.Proper

mutual

/-- The names in an expression are names, its literals can be written, and a vector of three numbers is a
literal. -/
def Expr.Proper : Expr → Prop
  | .literal value _ => literalTokens value ≠ [] ∧ ∀ token ∈ literalTokens value, token.Legible
  | .var name _ => IsName name
  | .field base name _ => Expr.Proper base ∧ IsName name
  | .unary _ operand _ => Expr.Proper operand
  | .binary _ left right _ => Expr.Proper left ∧ Expr.Proper right
  | .call name args _ => IsName name ∧ Expr.AllProper args
  | .vector x y z span =>
    Expr.ofComponents x y z span = .vector x y z span ∧
      Expr.Proper x ∧ Expr.Proper y ∧ Expr.Proper z
termination_by structural expr => expr

def Expr.AllProper : List Expr → Prop
  | [] => True
  | arg :: rest => Expr.Proper arg ∧ Expr.AllProper rest
termination_by structural args => args

end

structure Place.Proper (place : Place) : Prop where
  root : IsName place.root
  path : ∀ name ∈ place.path, IsName name

/-- Only an optional is declared with the type of its content. -/
def TypeExpr.Declares (type : TypeExpr) : Prop := type.args = [] ∨ type.name = "Optional"

mutual

/-- The parts of a statement are proper, and its blocks are not empty. -/
def Stmt.Proper : Stmt → Prop
  | .assign target value _ => target.Proper ∧ value.Proper
  | .declare type name value _ => type.Proper ∧ type.Declares ∧ IsName name ∧ value.Proper
  | .expr value => value.Proper
  | .branch condition yes no _ =>
    condition.Proper ∧ yes ≠ [] ∧ Stmt.AllProper yes ∧ Stmt.AllProper no
  | .loop condition body _ => condition.Proper ∧ body ≠ [] ∧ Stmt.AllProper body
  | .emit event args _ => IsName event ∧ Expr.AllProper args
termination_by structural stmt => stmt

def Stmt.AllProper : List Stmt → Prop
  | [] => True
  | stmt :: rest => Stmt.Proper stmt ∧ Stmt.AllProper rest
termination_by structural stmts => stmts

end

def Named (roles : List RoleDecl) : Prop := ∀ role ∈ roles, role.name.isSome

structure SystemDecl.Proper (decl : SystemDecl) : Prop where
  name : IsName decl.name
  params : ∀ role ∈ decl.params, role.Proper
  namedParams : Named decl.params
  event : decl.event.Proper
  namedRoles : Named decl.event.roles
  present : decl.body ≠ []
  body : Stmt.AllProper decl.body

def Item.Proper : Item → Prop
  | component decl => decl.Proper
  | event decl => decl.Proper
  | system decl => decl.Proper

theorem TypeExpr.allProper_iff {args : List TypeExpr} :
    AllProper args ↔ ∀ arg ∈ args, arg.Proper := by
  induction args with
  | nil => exact ⟨fun _ => nofun, fun _ => trivial⟩
  | cons arg rest ih => rw [AllProper, ih, List.forall_mem_cons]

theorem Expr.allProper_iff {args : List Expr} : AllProper args ↔ ∀ arg ∈ args, arg.Proper := by
  induction args with
  | nil => exact ⟨fun _ => nofun, fun _ => trivial⟩
  | cons arg rest ih => rw [AllProper, ih, List.forall_mem_cons]

theorem Stmt.allProper_iff {stmts : List Stmt} : AllProper stmts ↔ ∀ stmt ∈ stmts, stmt.Proper := by
  induction stmts with
  | nil => exact ⟨fun _ => nofun, fun _ => trivial⟩
  | cons stmt rest ih => rw [AllProper, ih, List.forall_mem_cons]

def Feed.tokens (feed : Feed) : List Token := feed.left.map Lexeme.token

namespace Grammar

/-! ### What parsers yield -/

/-- What the parser finds here satisfies `post`, and what is left behind it can come from a source. -/
def YieldsAt {α : Type} (feed : Feed) (parser : Parser α) (post : α → Prop) : Prop :=
  ∀ found after, parser feed = .ok (found, after) → post found ∧ Sourced after.tokens

def Yields {α : Type} (parser : Parser α) (post : α → Prop) : Prop :=
  ∀ feed, Sourced feed.tokens → YieldsAt feed parser post

section Combinators

variable {α β : Type} {parser : Parser α} {next : α → Parser β} {middle : α → Prop} {post : β → Prop}

/-- A chain that succeeds succeeds link by link. -/
theorem chain_ok {feed after : Feed} {found : β}
    (succeeded : (parser >>= next) feed = .ok (found, after)) :
    ∃ part between, parser feed = .ok (part, between) ∧ next part between = .ok (found, after) := by
  obtain ⟨⟨part, between⟩, ran, succeeded⟩ := bind_ok succeeded
  exact ⟨part, between, ran, succeeded⟩

theorem YieldsAt.bind {feed : Feed} (first : YieldsAt feed parser middle)
    (second : ∀ found, middle found → Yields (next found) post) :
    YieldsAt feed (parser >>= next) post := by
  intro found after succeeded
  obtain ⟨part, between, ran, succeeded⟩ := chain_ok succeeded
  obtain ⟨holds, sourced⟩ := first part between ran
  exact second part holds between sourced found after succeeded

theorem Yields.bind (first : Yields parser middle)
    (second : ∀ found, middle found → Yields (next found) post) : Yields (parser >>= next) post :=
  fun feed sourced => (first feed sourced).bind second

theorem Yields.pure {found : β} (holds : post found) : Yields (pure found : Parser β) post := by
  rintro feed sourced _ _ ⟨⟩
  exact ⟨holds, sourced⟩

theorem Yields.ite {condition : Prop} [Decidable condition] {yes no : Parser β}
    (first : condition → Yields yes post) (second : ¬condition → Yields no post) :
    Yields (if condition then yes else no) post := by
  split
  · exact first ‹_›
  · exact second ‹_›

theorem Yields.mono {weaker : α → Prop} (yields : Yields parser middle)
    (implies : ∀ found, middle found → weaker found) : Yields parser weaker := by
  intro feed sourced found after succeeded
  obtain ⟨holds, behind⟩ := yields feed sourced found after succeeded
  exact ⟨implies found holds, behind⟩

theorem refuse_yields {complaint : Complaint} : Yields (refuse complaint) post := by
  rintro feed sourced _ _ ⟨⟩

theorem refuseAt_yields {complaint : Complaint} {span : Text.Span} :
    Yields (refuseAt complaint span) post := by
  rintro feed sourced _ _ ⟨⟩

end Combinators

theorem peek_yields : Yields peek (fun _ => True) := by
  rintro feed sourced _ _ ⟨⟩
  exact ⟨trivial, sourced⟩

theorem lastStop_yields : Yields lastStop (fun _ => True) := by
  rintro feed sourced _ _ ⟨⟩
  exact ⟨trivial, sourced⟩

theorem advance_yields : Yields advance (fun _ => True) := by
  rintro ⟨left, stop⟩ sourced _ _ succeeded
  cases left with
  | nil =>
    cases succeeded
    exact ⟨trivial, sourced⟩
  | cons lexeme rest =>
    cases succeeded
    exact ⟨trivial, sourced.2.2⟩

theorem eat_yields (token : Token) : Yields (eat token) (fun _ => True) := by
  refine .bind peek_yields fun _ _ => .ite (fun _ => ?_) (fun _ => .pure trivial)
  exact .bind advance_yields fun _ _ => .pure trivial

theorem expect_yields (token : Token) (what : String) : Yields (expect token what) (fun _ => True) := by
  rintro ⟨left, stop⟩ sourced _ _ succeeded
  cases left with
  | nil => cases succeeded
  | cons lexeme rest =>
    unfold expect at succeeded
    dsimp only at succeeded
    split at succeeded
    · cases succeeded
      exact ⟨trivial, sourced.2.2⟩
    · cases succeeded

theorem endLine_yields : Yields endLine (fun _ => True) :=
  .bind (expect_yields _ _) fun _ _ => .pure trivial

theorem expectIdent_yields (what : String) :
    Yields (expectIdent what) (fun found => IsName found.1) := by
  rintro ⟨left, stop⟩ sourced _ _ succeeded
  unfold expectIdent at succeeded
  dsimp only at succeeded
  split at succeeded
  · next name span rest =>
    cases succeeded
    obtain ⟨legible | mark, -, behind⟩ := sourced
    · exact ⟨legible, behind⟩
    · exact absurd mark (by simp)
  · cases succeeded

/-! ### Repetitions -/

section Repetitions

variable {α : Type} {parser : Parser α} {post : α → Prop}

theorem commaSeparated_yields (yields : Yields parser post) (fuel : Nat) :
    Yields (commaSeparated parser fuel) (fun found => found ≠ [] ∧ ∀ member ∈ found, post member) := by
  induction fuel with
  | zero => exact refuse_yields
  | succ fuel ih =>
    refine .bind yields fun first holds => .bind (eat_yields _) fun _ _ => .ite (fun _ => ?_) fun _ => ?_
    · refine .bind ih fun others hold => .pure ⟨List.cons_ne_nil first others, ?_⟩
      exact List.forall_mem_cons.mpr ⟨holds, hold.2⟩
    · exact .pure ⟨List.cons_ne_nil first [], List.forall_mem_singleton.mpr holds⟩

theorem untilDedent_yields (yields : Yields parser post) (fuel : Nat) :
    Yields (untilDedent parser fuel) (fun found => ∀ member ∈ found, post member) := by
  induction fuel with
  | zero => exact refuse_yields
  | succ fuel ih =>
    refine .bind (eat_yields _) fun _ _ => .ite (fun _ => .pure nofun) fun _ => ?_
    refine .bind yields fun first holds => .bind ih fun others hold => .pure ?_
    exact List.forall_mem_cons.mpr ⟨holds, hold⟩

theorem eat_other {token : Token} {feed after : Feed} {taken : Bool}
    (other : feed.tokens.head? ≠ some token) (succeeded : eat token feed = .ok (taken, after)) :
    taken = false ∧ after = feed := by
  obtain ⟨next, between, peeked, succeeded⟩ := chain_ok succeeded
  cases peeked
  unfold Feed.tokens at other
  rw [← List.head?_map, if_neg other] at succeeded
  cases succeeded
  exact ⟨rfl, rfl⟩

/-- A block that does not end at once has members. -/
theorem untilDedent_ne_nil {feed after : Feed} {found : List α} {fuel : Nat}
    (going : feed.tokens.head? ≠ some .dedent)
    (succeeded : untilDedent parser fuel feed = .ok (found, after)) : found ≠ [] := by
  cases fuel with
  | zero => cases succeeded
  | succ fuel =>
    obtain ⟨taken, between, ate, ran⟩ := chain_ok succeeded
    obtain ⟨rfl, rfl⟩ := eat_other going ate
    rw [if_neg Bool.false_ne_true] at ran
    obtain ⟨first, beyond, -, ran⟩ := chain_ok ran
    obtain ⟨others, end_, -, ran⟩ := chain_ok ran
    cases ran
    exact List.cons_ne_nil first others

end Repetitions

/-! ### Declarations -/

theorem type_yields (fuel : Nat) : Yields (type fuel) TypeExpr.Proper := by
  induction fuel with
  | zero => exact refuse_yields
  | succ fuel ih =>
    refine .bind (expectIdent_yields _) fun ⟨name, span⟩ isName => .bind (eat_yields _) fun _ _ => ?_
    have build (args : List TypeExpr) (proper : ∀ arg ∈ args, arg.Proper) :
        Yields (do return ⟨name, args, ⟨span.start, ← lastStop⟩⟩) TypeExpr.Proper :=
      .bind lastStop_yields fun _ _ => .pure ⟨isName, TypeExpr.allProper_iff.mpr proper⟩
    refine .ite (fun _ => ?_) fun _ => .bind (.pure rfl) (by rintro _ rfl; exact build [] nofun)
    refine .bind (commaSeparated_yields ih fuel) fun args proper => ?_
    refine .bind (expect_yields _ _) fun _ _ => .bind (.pure rfl) ?_
    rintro _ rfl
    exact build args proper.2

theorem fieldLine_yields (fuel : Nat) : Yields (fieldLine fuel) Field.Proper :=
  .bind (type_yields fuel) fun _ proper => .bind (expectIdent_yields _) fun _ isName =>
    .bind endLine_yields fun _ _ => .pure ⟨proper, isName⟩

theorem component_yields (fuel : Nat) : Yields (component fuel) ComponentDecl.Proper := by
  refine .bind (expect_yields _ _) fun start _ => ?_
  refine .bind (expectIdent_yields _) fun ⟨name, span⟩ isName => ?_
  refine .bind (eat_yields _) fun _ _ => .ite (fun _ => ?_) fun _ => ?_
  · exact .bind (type_yields fuel) fun _ proper => .bind lastStop_yields fun _ _ =>
      .bind endLine_yields fun _ _ => .pure ⟨isName, proper⟩
  · refine .bind endLine_yields fun _ _ => .bind (eat_yields _) fun _ _ => ?_
    have build (lines : List Field) (proper : ∀ field ∈ lines, field.Proper) :
        Yields (do return ⟨name, .fields lines, ⟨start.start, ← lastStop⟩⟩) ComponentDecl.Proper :=
      .bind lastStop_yields fun _ _ => .pure ⟨isName, proper⟩
    refine .ite (fun _ => ?_) fun _ => .bind (.pure rfl) (by rintro _ rfl; exact build [] nofun)
    exact .bind (untilDedent_yields (fieldLine_yields fuel) fuel) build

/-! ### Events -/

structure EventParts.Proper (parts : EventParts) : Prop where
  roles : ∀ role ∈ parts.roles, role.Proper
  payload : ∀ field ∈ parts.payload, field.Proper

theorem EventParts.proper_none : EventParts.none.Proper := ⟨nofun, nofun⟩

theorem EventParts.Proper.addRole {parts : EventParts} (proper : parts.Proper) {role : RoleDecl}
    (roleProper : role.Proper) : (parts.addRole role).Proper :=
  ⟨List.forall_mem_append.mpr ⟨proper.roles, List.forall_mem_singleton.mpr roleProper⟩, proper.payload⟩

theorem roleOfType_yields {head : TypeExpr} (proper : head.Proper) (present : head.args ≠ []) :
    Yields (roleOfType head) (fun role => role.Proper ∧ role.name.isSome) := by
  unfold roleOfType
  split
  · exact refuseAt_yields
  · obtain ⟨name, args, span⟩ := head
    refine .pure ⟨⟨?_, ?_, ?_⟩, rfl⟩
    · rintro _ ⟨⟩
      exact proper.1
    · intro component member
      obtain ⟨⟨argName, inner, place⟩, inside, rfl⟩ := List.mem_map.mp member
      exact (TypeExpr.allProper_iff.mp proper.2 _ inside).1
    · exact fun empty => present (List.map_eq_nil_iff.mp empty)

theorem payload_yields {head : TypeExpr} (proper : head.Proper) {parts : EventParts}
    (partsProper : parts.Proper) :
    Yields (payload head parts) (fun found => found.Proper ∧ found.roles = parts.roles) := by
  refine .ite (fun _ => refuseAt_yields) fun _ => .bind (expectIdent_yields _) fun _ isName => ?_
  refine .pure ⟨⟨partsProper.roles, ?_⟩, rfl⟩
  rintro _ ⟨⟩
  exact ⟨proper, isName⟩

theorem atIdent_yields : Yields atIdent (fun _ => True) := by
  refine .bind peek_yields fun next _ => ?_
  split
  · exact .pure trivial
  · exact .pure trivial

theorem bareComponents_yields (fuel : Nat) :
    Yields (bareComponents fuel) (fun found => ∀ component ∈ found, IsName component) := by
  induction fuel with
  | zero => exact refuse_yields
  | succ fuel ih =>
    refine .bind (eat_yields _) fun _ _ => .ite (fun _ => ?_) fun _ => .pure nofun
    exact .bind (expectIdent_yields _) fun _ isName => .bind ih fun _ others =>
      .pure (List.forall_mem_cons.mpr ⟨isName, others⟩)

theorem eventLine_yields (fuel : Nat) {parts : EventParts} (partsProper : parts.Proper) :
    Yields (eventLine fuel parts) EventParts.Proper := by
  refine .bind (type_yields fuel) fun head proper => .bind atIdent_yields fun _ _ => ?_
  refine .ite (fun _ => (payload_yields proper partsProper).mono fun _ => And.left) fun _ => ?_
  refine .ite (fun _ => ?_) fun present => ?_
  · refine .bind (bareComponents_yields fuel) fun others areNames => .bind lastStop_yields fun _ _ => ?_
    obtain ⟨name, args, span⟩ := head
    refine .pure (partsProper.addRole ⟨nofun, ?_, List.cons_ne_nil _ _⟩)
    exact List.forall_mem_cons.mpr ⟨proper.1, areNames⟩
  · exact .bind (roleOfType_yields proper (List.isEmpty_iff.not.mp present)) fun _ roleProper =>
      .pure (partsProper.addRole roleProper.1)

theorem eventLines_yields (lineFuel fuel : Nat) {parts : EventParts} (partsProper : parts.Proper) :
    Yields (eventLines lineFuel fuel parts) EventParts.Proper := by
  induction fuel generalizing parts with
  | zero => exact refuse_yields
  | succ fuel ih =>
    refine .bind (eat_yields _) fun _ _ => .ite (fun _ => .pure partsProper) fun _ => ?_
    exact .bind (eventLine_yields lineFuel partsProper) fun _ proper =>
      .bind endLine_yields fun _ _ => ih proper

def EventParts.Heads (parts : EventParts) : Prop := parts.Proper ∧ Named parts.roles

theorem headerPart_yields (fuel : Nat) {parts : EventParts} (heads : parts.Heads) :
    Yields (headerPart fuel parts) EventParts.Heads := by
  refine .bind (type_yields fuel) fun head proper => .bind atIdent_yields fun _ _ => ?_
  refine .ite (fun _ => (payload_yields proper heads.1).mono ?_) fun _ => ?_
  · rintro found ⟨foundProper, same⟩
    exact ⟨foundProper, same ▸ heads.2⟩
  · refine .ite (fun _ => refuse_yields) fun present => ?_
    refine .bind (roleOfType_yields proper (List.isEmpty_iff.not.mp present)) ?_
    rintro role ⟨roleProper, named⟩
    refine .pure ⟨heads.1.addRole roleProper, ?_⟩
    exact List.forall_mem_append.mpr ⟨heads.2, List.forall_mem_singleton.mpr named⟩

theorem headerParts_yields (partFuel fuel : Nat) {parts : EventParts} (heads : parts.Heads) :
    Yields (headerParts partFuel fuel parts) EventParts.Heads := by
  induction fuel generalizing parts with
  | zero => exact refuse_yields
  | succ fuel ih =>
    exact .bind (headerPart_yields partFuel heads) fun _ found =>
      .bind (eat_yields _) fun _ _ => .ite (fun _ => ih found) fun _ => .pure found

theorem eventHeader_yields (fuel : Nat) {name : String} (isName : IsName name) :
    Yields (eventHeader fuel name) (fun decl => decl.Proper ∧ Named decl.roles) := by
  have none : EventParts.none.Heads := ⟨EventParts.proper_none, nofun⟩
  refine .bind (expect_yields _ _) fun start _ => .bind (eat_yields _) fun _ _ => ?_
  have build (parts : EventParts) (heads : parts.Heads) :
      Yields (do return ⟨name, parts.roles, parts.payload, ⟨start.start, ← lastStop⟩⟩)
        (fun decl : EventDecl => decl.Proper ∧ Named decl.roles) :=
    .bind lastStop_yields fun _ _ => .pure ⟨⟨isName, heads.1.roles, heads.1.payload⟩, heads.2⟩
  refine .ite (fun _ => .bind (.pure none) build) fun _ => ?_
  exact .bind (headerParts_yields fuel fuel none) fun parts heads =>
    .bind (expect_yields _ _) fun _ _ => .bind (.pure heads) build

theorem event_yields (fuel : Nat) : Yields (event fuel) EventDecl.Proper := by
  refine .bind (expect_yields _ _) fun start _ => ?_
  refine .bind (expectIdent_yields _) fun ⟨name, span⟩ isName => ?_
  refine .bind peek_yields fun _ _ => .ite (fun _ => ?_) fun _ => ?_
  · refine .bind (eventHeader_yields fuel isName) fun decl proper => .bind endLine_yields fun _ _ => ?_
    exact .pure ⟨proper.1.name, proper.1.roles, proper.1.payload⟩
  · refine .bind endLine_yields fun _ _ => .bind (eat_yields _) fun _ _ => ?_
    have build (parts : EventParts) (proper : parts.Proper) :
        Yields (do return ⟨name, parts.roles, parts.payload, ⟨start.start, ← lastStop⟩⟩)
          EventDecl.Proper :=
      .bind lastStop_yields fun _ _ => .pure ⟨isName, proper.roles, proper.payload⟩
    refine .ite (fun _ => ?_) fun _ => .bind (.pure EventParts.proper_none) build
    exact .bind (eventLines_yields fuel fuel EventParts.proper_none) build

/-! ### Expressions -/

theorem proper_literal {token : Token} {value : Value} (literal : literal? token = some value)
    (legible : token.Legible) (span : Text.Span) : (Expr.literal value span).Proper := by
  have same : literalTokens value = [token] := by
    unfold literal? at literal
    split at literal
    all_goals
      cases literal
      try rfl
  rw [Expr.Proper, same]
  exact ⟨List.cons_ne_nil _ _, List.forall_mem_singleton.mpr legible⟩

/-- Three numbers make a literal, and any other components a vector that is none. -/
theorem proper_ofComponents {x y z : Expr} (first : x.Proper) (second : y.Proper) (third : z.Proper)
    (span : Text.Span) : (Expr.ofComponents x y z span).Proper := by
  generalize same : Expr.ofComponents x y z span = found
  unfold Expr.ofComponents at same
  split at same
  · cases same
    have number {n : Float} {place : Text.Span} (proper : (Expr.literal (.number n) place).Proper) :
        (Token.number n).Legible :=
      proper.2 _ (List.mem_singleton_self _)
    refine ⟨List.cons_ne_nil _ _, ?_⟩
    simp only [literalTokens, enclosed, commas, List.forall_mem_cons, List.forall_mem_append]
    exact ⟨⟨trivial, ⟨number first, nofun⟩, trivial, ⟨number second, nofun⟩, trivial, number third,
      nofun⟩, trivial, nofun⟩
  · next other =>
    cases same
    refine ⟨?_, first, second, third⟩
    unfold Expr.ofComponents
    split
    · exact (other _ _ _ _ _ _ rfl rfl rfl).elim
    · rfl

section Expressions

variable {expr : Parser Expr} (yields : Yields expr Expr.Proper)
include yields

theorem arguments_yields (fuel : Nat) :
    Yields (arguments expr fuel) (fun args => ∀ arg ∈ args, arg.Proper) := by
  refine .bind (eat_yields _) fun _ _ => .ite (fun _ => .pure nofun) fun _ => ?_
  exact .bind (commaSeparated_yields yields fuel) fun args proper =>
    .bind (expect_yields _ _) fun _ _ => .pure proper.2

theorem parenthesized_yields (start : Nat) : Yields (parenthesized expr start) Expr.Proper := by
  refine .bind yields fun x first => .bind (eat_yields _) fun _ _ => .ite (fun _ => ?_) fun _ => ?_
  · exact .bind yields fun y second => .bind (expect_yields _ _) fun _ _ => .bind yields fun z third =>
      .bind (expect_yields _ _) fun _ _ => .bind lastStop_yields fun _ _ =>
        .pure (proper_ofComponents first second third _)
  · exact .bind (expect_yields _ _) fun _ _ => .pure first

theorem primary_yields (fuel : Nat) : Yields (primary expr fuel) Expr.Proper := by
  rintro ⟨left, stop⟩ sourced found after succeeded
  cases left with
  | nil => cases succeeded
  | cons lexeme rest =>
    obtain ⟨token, span⟩ := lexeme
    obtain ⟨legible, -, behind⟩ := sourced
    unfold primary at succeeded
    dsimp only at succeeded
    cases literal : literal? token with
    | some value =>
      rw [literal] at succeeded
      cases succeeded
      refine ⟨proper_literal literal ?_ span, behind⟩
      rcases legible with legible | mark
      · exact legible
      · have none : ∀ mark ∈ [Token.newline, .indent, .dedent], literal? mark = none := by decide
        rw [none token mark] at literal
        cases literal
    | none =>
      rw [literal] at succeeded
      dsimp only at succeeded
      split at succeeded
      · next name =>
        have isName : IsName name := legible.resolve_right (by simp)
        have call : Yields (do
            if ← eatSymbol .opening then
              let args ← arguments expr fuel
              return .call name args ⟨span.start, ← lastStop⟩
            else return .var name span : Parser Expr) Expr.Proper := by
          refine .bind (eat_yields _) fun _ _ => .ite (fun _ => ?_) fun _ => .pure isName
          exact .bind (arguments_yields yields fuel) fun args proper =>
            .bind lastStop_yields fun _ _ => .pure ⟨isName, Expr.allProper_iff.mpr proper⟩
        exact call ⟨rest, span.stop⟩ behind found after succeeded
      · exact parenthesized_yields yields _ ⟨rest, span.stop⟩ behind found after succeeded
      · cases succeeded

theorem prefixed_yields (fuel : Nat) : Yields (prefixed expr fuel) Expr.Proper := by
  induction fuel with
  | zero => exact refuse_yields
  | succ fuel ih =>
    rintro ⟨left, stop⟩ sourced found after succeeded
    unfold prefixed at succeeded
    cases left with
    | nil => exact yields _ sourced found after succeeded
    | cons lexeme rest =>
      dsimp only at succeeded
      split at succeeded
      · exact yields _ sourced found after succeeded
      · obtain ⟨⟨operand, between⟩, ran, succeeded⟩ := bind_ok succeeded
        cases succeeded
        exact ih ⟨rest, lexeme.span.stop⟩ sourced.2.2 operand _ ran

theorem chain_yields (rank fuel : Nat) {left : Expr} (proper : left.Proper) :
    Yields (chain expr rank fuel left) Expr.Proper := by
  induction fuel generalizing left with
  | zero => exact refuse_yields
  | succ fuel ih =>
    refine .bind peek_yields fun next _ => ?_
    split
    · exact .pure proper
    · exact .bind advance_yields fun _ _ => .bind yields fun right other => ih ⟨proper, other⟩

theorem ladder_yields (fuel : Nat) (ranks : List Nat) :
    Yields (ranks.foldl (fun operand rank => joined operand fuel rank) expr) Expr.Proper := by
  induction ranks generalizing expr with
  | nil => exact yields
  | cons rank rest ih => exact ih (.bind yields fun left proper => chain_yields yields rank fuel proper)

end Expressions

theorem fields_yields (fuel : Nat) {base : Expr} (proper : base.Proper) :
    Yields (fields fuel base) Expr.Proper := by
  induction fuel generalizing base with
  | zero => exact refuse_yields
  | succ fuel ih =>
    refine .bind (eat_yields _) fun _ _ => .ite (fun _ => ?_) fun _ => .pure proper
    exact .bind (expectIdent_yields _) fun _ isName => ih ⟨proper, isName⟩

theorem expr_yields (fuel : Nat) : Yields (expr fuel) Expr.Proper := by
  induction fuel with
  | zero => exact refuse_yields
  | succ fuel ih =>
    apply ladder_yields
    apply prefixed_yields
    exact .bind (primary_yields ih fuel) fun base proper => fields_yields _ proper

/-! ### Statements -/

theorem block_yields {stmt : Parser Stmt} (yields : Yields stmt Stmt.Proper) (fuel : Nat) :
    Yields (block stmt fuel) (fun stmts => stmts ≠ [] ∧ Stmt.AllProper stmts) := by
  rintro ⟨left, stop⟩ sourced found after succeeded
  obtain ⟨span, inside, expected, succeeded⟩ := chain_ok succeeded
  cases left with
  | nil => cases expected
  | cons lexeme rest =>
    unfold expect at expected
    dsimp only at expected
    split at expected
    · next marked =>
      cases expected
      obtain ⟨-, going, behind⟩ := sourced
      obtain ⟨proper, sourced⟩ :=
        untilDedent_yields yields fuel ⟨rest, lexeme.span.stop⟩ behind found after succeeded
      have present := @untilDedent_ne_nil _ _ ⟨rest, lexeme.span.stop⟩ _ _ _ (going marked) succeeded
      exact ⟨⟨present, Stmt.allProper_iff.mpr proper⟩, sourced⟩
    · cases expected

theorem type_ok {fuel : Nat} {feed after : Feed} {found : TypeExpr}
    (succeeded : type fuel feed = .ok (found, after)) :
    ∃ span rest, feed.left = ⟨.ident found.name, span⟩ :: rest ∧
      ((rest.map Lexeme.token).head? ≠ some (.symbol .less) → found.args = []) := by
  cases fuel with
  | zero => cases succeeded
  | succ fuel =>
    obtain ⟨left, stop⟩ := feed
    obtain ⟨⟨name, span⟩, between, named, ran⟩ := chain_ok succeeded
    unfold expectIdent at named
    dsimp only at named
    split at named
    · next found span rest =>
      cases named
      obtain ⟨taken, behind, ate, ran⟩ := chain_ok ran
      dsimp only at ran
      cases taken with
      | true =>
        rw [if_pos rfl] at ran
        obtain ⟨args, _, -, ran⟩ := chain_ok ran
        obtain ⟨_, _, -, ran⟩ := chain_ok ran
        obtain ⟨_, _, ⟨⟩, ran⟩ := chain_ok ran
        obtain ⟨_, _, ⟨⟩, ran⟩ := chain_ok ran
        cases ran
        refine ⟨span, rest, rfl, fun plain => ?_⟩
        cases (@eat_other _ ⟨rest, span.stop⟩ _ _ plain ate).1
      | false =>
        rw [if_neg Bool.false_ne_true] at ran
        obtain ⟨_, _, ⟨⟩, ran⟩ := chain_ok ran
        obtain ⟨_, _, ⟨⟩, ran⟩ := chain_ok ran
        cases ran
        exact ⟨span, rest, rfl, fun _ => rfl⟩
    · cases named

theorem type_declares {fuel : Nat} {feed after between : Feed} {found : TypeExpr}
    (declares : atDeclaration feed = .ok (true, between))
    (succeeded : type fuel feed = .ok (found, after)) : found.Declares := by
  obtain ⟨span, rest, starts, plain⟩ := type_ok succeeded
  unfold atDeclaration at declares
  split at declares
  · next name place other otherPlace behind shape =>
    rw [starts] at shape
    obtain ⟨-, rfl⟩ := List.cons.inj shape
    exact .inl (plain nofun)
  · next place otherPlace behind shape =>
    rw [starts] at shape
    obtain ⟨same, -⟩ := List.cons.inj shape
    exact .inr (Token.ident.inj (congrArg Lexeme.token same))
  · cases declares

theorem place_proper {value : Expr} {target : Place} (assignable : value.asPlace? = some target)
    (proper : value.Proper) : target.Proper :=
  match value with
  | .var name span => by
    cases assignable
    exact ⟨proper, nofun⟩
  | .field base name span => by
    obtain ⟨place, below, rfl⟩ := Option.map_eq_some_iff.mp assignable
    have inner := place_proper below proper.1
    refine ⟨inner.root, ?_⟩
    exact List.forall_mem_append.mpr ⟨inner.path, List.forall_mem_singleton.mpr proper.2⟩

theorem declaration_yields {fuel : Nat} {feed between : Feed} (sourced : Sourced feed.tokens)
    (declares : atDeclaration feed = .ok (true, between)) :
    YieldsAt feed (declaration fuel) Stmt.Proper := by
  have declared : YieldsAt feed (type fuel) (fun found => found.Proper ∧ found.Declares) := by
    intro found after succeeded
    obtain ⟨proper, behind⟩ := type_yields fuel feed sourced found after succeeded
    exact ⟨⟨proper, type_declares declares succeeded⟩, behind⟩
  refine declared.bind fun declared proper => .bind (expectIdent_yields _) fun ⟨name, span⟩ isName => ?_
  exact .bind (expect_yields _ _) fun _ _ => .bind (expr_yields fuel) fun value valueProper =>
    .bind endLine_yields fun _ _ => .pure ⟨proper.1, proper.2, isName, valueProper⟩

theorem plainStmt_yields (fuel : Nat) : Yields (plainStmt fuel) Stmt.Proper := by
  refine .bind (expr_yields fuel) fun value proper => .bind peek_yields fun _ _ => ?_
  refine .ite (fun _ => ?_) fun _ => .bind endLine_yields fun _ _ => .pure proper
  split
  · exact refuseAt_yields
  · next target assignable =>
    exact .bind advance_yields fun _ _ => .bind (expr_yields fuel) fun assigned other =>
      .bind endLine_yields fun _ _ => .pure ⟨place_proper assignable proper, other⟩

theorem emission_yields (fuel : Nat) : Yields (emission fuel) Stmt.Proper := by
  refine .bind (expect_yields _ _) fun start _ => ?_
  refine .bind (expectIdent_yields _) fun ⟨name, span⟩ isName => ?_
  exact .bind (expect_yields _ _) fun _ _ => .bind (arguments_yields (expr_yields fuel) fuel)
    fun args proper => .bind lastStop_yields fun _ _ => .bind endLine_yields fun _ _ =>
      .pure ⟨isName, Expr.allProper_iff.mpr proper⟩

theorem condition_yields (keyword : Keyword) (what : String) (fuel : Nat) :
    Yields (condition keyword what fuel) (fun found => found.1.Proper) :=
  .bind (expect_yields _ _) fun _ _ => .bind (expr_yields fuel) fun _ proper =>
    .bind endLine_yields fun _ _ => .pure proper

theorem simple_yields (fuel : Nat) :
    Yields (do if ← atDeclaration then declaration fuel else plainStmt fuel) Stmt.Proper := by
  intro feed sourced found after succeeded
  obtain ⟨taken, between, looked, ran⟩ := chain_ok succeeded
  have stays : between = feed := by
    unfold atDeclaration at looked
    split at looked
    all_goals
      cases looked
      rfl
  subst stays
  cases taken with
  | true => exact declaration_yields sourced looked found after ran
  | false => exact plainStmt_yields fuel between sourced found after ran

theorem stmt_yields (exprFuel fuel : Nat) : Yields (stmt exprFuel fuel) Stmt.Proper := by
  induction fuel with
  | zero => exact refuse_yields
  | succ fuel ih =>
    refine .bind peek_yields fun next _ => ?_
    split
    · refine .bind (condition_yields _ _ _) fun ⟨value, span⟩ proper => ?_
      refine .bind (block_yields ih _) fun yes holds => .bind (eat_yields _) fun _ _ => ?_
      have build (no : List Stmt) (others : Stmt.AllProper no) :
          Yields (pure (.branch value yes no span)) Stmt.Proper :=
        .pure ⟨proper, holds.1, holds.2, others⟩
      refine .ite (fun _ => ?_) fun _ => .bind (.pure rfl) (by rintro _ rfl; exact build [] trivial)
      refine .bind peek_yields fun _ _ => .ite (fun _ => ?_) fun _ => ?_
      · refine .bind ih fun chained other => .bind (.pure rfl) ?_
        rintro _ rfl
        exact build [chained] ⟨other, trivial⟩
      · exact .bind endLine_yields fun _ _ => .bind (block_yields ih _) fun no others =>
          build no others.2
    · exact .bind (condition_yields _ _ _) fun ⟨value, span⟩ proper =>
        .bind (block_yields ih _) fun body holds => .pure ⟨proper, holds⟩
    · exact emission_yields exprFuel
    · exact simple_yields exprFuel

/-! ### Scripts -/

theorem param_yields (fuel : Nat) :
    Yields (param fuel) (fun role => role.Proper ∧ role.name.isSome) :=
  .bind (type_yields fuel) fun _ proper => .ite (fun _ => refuseAt_yields) fun present =>
    roleOfType_yields proper (List.isEmpty_iff.not.mp present)

theorem system_yields (fuel : Nat) : Yields (system fuel) SystemDecl.Proper := by
  refine .bind (expect_yields _ _) fun start _ => ?_
  refine .bind (expectIdent_yields _) fun ⟨name, span⟩ isName => ?_
  refine .bind (expect_yields _ _) fun _ _ => .bind (eat_yields _) fun _ _ => ?_
  extract_lets build
  have built (params : List RoleDecl) (proper : ∀ role ∈ params, role.Proper ∧ role.name.isSome) :
      Yields (build params) SystemDecl.Proper := by
    refine .bind (expect_yields _ _) fun _ _ => .bind (expectIdent_yields _) fun ⟨_, _⟩ heard => ?_
    refine .bind (eventHeader_yields fuel heard) fun listener listens => ?_
    exact .bind lastStop_yields fun _ _ => .bind endLine_yields fun _ _ => .bind (block_yields (stmt_yields fuel fuel) fuel)
      fun body holds => .pure ⟨isName, fun role member => (proper role member).1,
        fun role member => (proper role member).2, listens.1, listens.2, holds.1, holds.2⟩
  refine .ite (fun _ => .bind (.pure rfl) (by rintro _ rfl; exact built [] nofun)) fun _ => ?_
  refine .bind (commaSeparated_yields (param_yields fuel) fuel) fun params proper => ?_
  refine .bind (expect_yields _ _) fun _ _ => .bind (.pure rfl) ?_
  rintro _ rfl
  exact built params proper.2

theorem items_yields (itemFuel fuel : Nat) :
    Yields (items itemFuel fuel) (fun found => ∀ item ∈ found, item.Proper) := by
  induction fuel with
  | zero => exact refuse_yields
  | succ fuel ih =>
    refine .bind peek_yields fun next _ => ?_
    split
    · exact .pure nofun
    · exact .bind advance_yields fun _ _ => ih
    · exact .bind (component_yields itemFuel) fun decl proper => .bind ih fun others hold =>
        .pure (List.forall_mem_cons.mpr ⟨proper, hold⟩)
    · exact .bind (event_yields itemFuel) fun decl proper => .bind ih fun others hold =>
        .pure (List.forall_mem_cons.mpr ⟨proper, hold⟩)
    · exact .bind (system_yields itemFuel) fun decl proper => .bind ih fun others hold =>
        .pure (List.forall_mem_cons.mpr ⟨proper, hold⟩)
    · exact refuse_yields

end Grammar

/-- What a source is parsed as is proper, item by item. -/
theorem parse_proper {source : String} {tree : Tree} (parsed : parse source = .ok tree) :
    ∀ item ∈ tree.items, item.Proper := by
  unfold parse at parsed
  split at parsed
  · cases parsed
  · next lexemes lexed =>
    split at parsed
    · cases parsed
    · next found built =>
      cases parsed
      obtain ⟨⟨items, after⟩, read, same⟩ := bind_ok built
      cases same
      exact (Grammar.items_yields _ _ _ (lex_sourced lexed) items after read).1

end Stagecraft.Script
