import Stagecraft.Proofs.Script.ReadingBodies

/-!
Precedence: expressions with no more parentheses than the ranks of their operators demand. Operators between
operands are left-associative, those in front of one are tighter, and fields are the tightest. Whatever the
grammar can find is found again from its tokens with just these parentheses.
-/

namespace Stagecraft.Script

open Text (Span)

/-! ### Ranks -/

def precedence : List (List BinaryOp) :=
  [[.or], [.and], [.equal, .notEqual], [.less, .greater, .lessEqual, .greaterEqual], [.add, .sub],
    [.mul, .div, .mod]]

def BinaryOp.tightness (op : BinaryOp) : Nat := precedence.findIdx (op ∈ ·)

def signTightness : Nat := precedence.length

def pathTightness : Nat := signTightness + 1

def Expr.tightness : Expr → Nat
  | .binary op _ _ _ => op.tightness
  | .unary _ _ _ => signTightness
  | .field _ _ _ => pathTightness
  | .literal _ _ | .var _ _ | .call _ _ _ | .vector _ _ _ _ => pathTightness + 1

def BinaryOp.spellings : BinaryOp → List Token
  | and => [.keyword .and_, .symbol .andAnd]
  | or => [.keyword .or_, .symbol .orOr]
  | op => [op.token]

def UnaryOp.spellings : UnaryOp → List Token
  | neg => [.symbol .minus]
  | not => [.keyword .not_, .symbol .bang]

def Token.Continues (token : Token) : Prop :=
  (∃ op : BinaryOp, token ∈ op.spellings) ∨ token = .symbol .dot ∨ token = .symbol .opening

/-- The tokens of an expression where one of at least the given tightness is expected: in parentheses if it
is looser, and else without. The operand on the right of an operator has to be tighter than the operator. -/
inductive Renders : Nat → Expr → List Token → Prop
  | literal (level : Nat) (value : Value) (span : Span) :
      Renders level (.literal value span) (literalTokens value)
  | var (level : Nat) (name : String) (span : Span) : Renders level (.var name span) [.ident name]
  | call (level : Nat) (name : String) (span : Span) {parts : List (Expr × List Token)}
      (each : ∀ part ∈ parts, Renders 0 part.1 part.2) :
      Renders level (.call name (parts.map Prod.fst) span)
        (.ident name :: enclosed (commas (parts.map Prod.snd)))
  | vector (level : Nat) (span : Span) {x y z : Expr} {xs ys zs : List Token} (first : Renders 0 x xs)
      (second : Renders 0 y ys) (third : Renders 0 z zs) :
      Renders level (.vector x y z span) (enclosed (commas [xs, ys, zs]))
  | field {level : Nat} (tight : level ≤ pathTightness) {base : Expr} {tokens : List Token}
      (inside : Renders pathTightness base tokens) (name : String) (span : Span) :
      Renders level (.field base name span) (tokens ++ [.symbol .dot, .ident name])
  | unary {level : Nat} (tight : level ≤ signTightness) {op : UnaryOp} {token : Token}
      (spelled : token ∈ op.spellings) {operand : Expr} {tokens : List Token}
      (inside : Renders signTightness operand tokens) (span : Span) :
      Renders level (.unary op operand span) (token :: tokens)
  | binary {level : Nat} {op : BinaryOp} (tight : level ≤ op.tightness) {token : Token}
      (spelled : token ∈ op.spellings) {left right : Expr} {before behind : List Token}
      (first : Renders op.tightness left before) (second : Renders (op.tightness + 1) right behind)
      (span : Span) : Renders level (.binary op left right span) (before ++ token :: behind)
  | enclosed {level : Nat} {written : Expr} (loose : written.tightness < level) {tokens : List Token}
      (inside : Renders 0 written tokens) : Renders level written (enclosed tokens)

/-- The grammar joins operators in the order of their tightness. -/
theorem BinaryOp.tightness_eq_rank (op : BinaryOp) : op.tightness = op.rank := by
  cases op <;> rfl

/-! ### Every expression can be rendered -/

theorem Renders.exists_of_own {written : Expr}
    (own : ∀ level, level ≤ written.tightness → ∃ tokens, Renders level written tokens) (level : Nat) :
    ∃ tokens, Renders level written tokens := by
  rcases Nat.lt_or_ge written.tightness level with loose | tight
  · obtain ⟨tokens, inside⟩ := own 0 (Nat.zero_le _)
    exact ⟨_, .enclosed loose inside⟩
  · exact own level tight

theorem BinaryOp.exists_spelling (op : BinaryOp) : ∃ token, token ∈ op.spellings := by
  cases op <;> exact ⟨_, List.mem_cons_self⟩

theorem UnaryOp.exists_spelling (op : UnaryOp) : ∃ token, token ∈ op.spellings := by
  cases op <;> exact ⟨_, List.mem_cons_self⟩

mutual

theorem exists_renders : (written : Expr) → (level : Nat) → ∃ tokens, Renders level written tokens
  | .literal value span, level => ⟨_, .literal level value span⟩
  | .var name span, level => ⟨_, .var level name span⟩
  | .call name args span, level => by
    obtain ⟨parts, rfl, each⟩ := exists_parts args
    exact ⟨_, .call level name span each⟩
  | .vector x y z span, level => by
    obtain ⟨xs, first⟩ := exists_renders x 0
    obtain ⟨ys, second⟩ := exists_renders y 0
    obtain ⟨zs, third⟩ := exists_renders z 0
    exact ⟨_, .vector level span first second third⟩
  | .field base name span, level => by
    obtain ⟨tokens, inside⟩ := exists_renders base pathTightness
    exact Renders.exists_of_own (fun level tight => ⟨_, .field tight inside name span⟩) level
  | .unary op operand span, level => by
    obtain ⟨token, spelled⟩ := op.exists_spelling
    obtain ⟨tokens, inside⟩ := exists_renders operand signTightness
    exact Renders.exists_of_own (fun level tight => ⟨_, .unary tight spelled inside span⟩) level
  | .binary op left right span, level => by
    obtain ⟨token, spelled⟩ := op.exists_spelling
    obtain ⟨before, first⟩ := exists_renders left op.tightness
    obtain ⟨behind, second⟩ := exists_renders right (op.tightness + 1)
    exact Renders.exists_of_own (fun level tight => ⟨_, .binary tight spelled first second span⟩) level
termination_by structural written => written

theorem exists_parts : (args : List Expr) → ∃ parts : List (Expr × List Token),
    parts.map Prod.fst = args ∧ ∀ part ∈ parts, Renders 0 part.1 part.2
  | [] => ⟨[], rfl, nofun⟩
  | arg :: rest => by
    obtain ⟨tokens, here⟩ := exists_renders arg 0
    obtain ⟨parts, rfl, each⟩ := exists_parts rest
    exact ⟨(arg, tokens) :: parts, rfl, List.forall_mem_cons.mpr ⟨here, each⟩⟩
termination_by structural args => args

end

namespace Grammar

/-! ### Spellings -/

theorem binaryOp?_spelled {op : BinaryOp} {token : Token} (spelled : token ∈ op.spellings) :
    binaryOp? token = some op := by
  have all : ∀ token ∈ op.spellings, binaryOp? token = some op := by cases op <;> decide
  exact all token spelled

theorem spelled_of_binaryOp? {op : BinaryOp} {token : Token} (found : binaryOp? token = some op) :
    token ∈ op.spellings := by
  unfold binaryOp? at found
  split at found
  all_goals
    cases found
    try decide

theorem unaryOp?_spelled {op : UnaryOp} {token : Token} (spelled : token ∈ op.spellings) :
    unaryOp? token = some op := by
  have all : ∀ token ∈ op.spellings, unaryOp? token = some op := by cases op <;> decide
  exact all token spelled

theorem closes_of_not_continues {rest : List Token} (ends : ∀ token ∈ rest.head?, ¬token.Continues) :
    Closes rest := by
  refine ⟨⟨fun dot => ends _ dot (.inr (.inl rfl)), fun opens => ends _ opens (.inr (.inr rfl))⟩, ?_⟩
  cases head : rest.head? with
  | none => rfl
  | some token =>
    cases found : binaryOp? token with
    | none => exact found
    | some op => exact (ends token head (.inl ⟨op, spelled_of_binaryOp? found⟩)).elim

/-- A rendered expression starts with no closing parenthesis, and one as tight as a field with no operator
either. -/
theorem renders_starts {level : Nat} {written : Expr} {tokens : List Token}
    (renders : Renders level written tokens) (proper : written.Proper) :
    ∃ first rest, tokens = first :: rest ∧ first ≠ .symbol .closing ∧
      (pathTightness ≤ level → first.heads = true) := by
  have apart {token : Token} (heads : token.heads = true) : token ≠ .symbol .closing := by
    rintro rfl
    cases heads
  induction renders with
  | literal level value span =>
    obtain ⟨first, rest, same, heads⟩ := Expr.tokens_cons (.literal value span) proper
    exact ⟨first, rest, same, apart heads, fun _ => heads⟩
  | var => exact ⟨_, _, rfl, nofun, fun _ => rfl⟩
  | call => exact ⟨_, _, rfl, nofun, fun _ => rfl⟩
  | vector => exact ⟨_, _, rfl, nofun, fun _ => rfl⟩
  | enclosed => exact ⟨_, _, rfl, nofun, fun _ => rfl⟩
  | field tight inside name span ih =>
    obtain ⟨first, rest, rfl, -, heads⟩ := ih proper.1
    have heads := heads (Nat.le_refl _)
    exact ⟨first, _, rfl, apart heads, fun _ => heads⟩
  | @unary level tight op token spelled operand tokens inside span ih =>
    refine ⟨token, tokens, rfl, ?_, fun high => absurd (Nat.le_trans high tight) (by decide)⟩
    rintro rfl
    cases unaryOp?_spelled spelled
  | @binary level op tight token spelled left right before behind first second span ih =>
    obtain ⟨head, rest, rfl, other, -⟩ := ih proper.1
    refine ⟨head, _, rfl, other, fun high => ?_⟩
    have low := op.rank_lt
    rw [← op.tightness_eq_rank] at low
    exact absurd (Nat.le_trans high tight) (Nat.not_le.mpr (Nat.lt_trans low (by decide)))

/-! ### Rungs -/

def rung (fuel level : Nat) : Parser Expr :=
  ladder (fuel + 1) ([5, 4, 3, 2, 1, 0].take (signTightness - level)) (prefixed (atom fuel) (fuel + 1))

theorem rung_joins (fuel : Nat) {level : Nat} (inside : level < signTightness) :
    rung fuel level = joined (rung fuel (level + 1)) (fuel + 1) level :=
  match level, inside with
  | 0, _ | 1, _ | 2, _ | 3, _ | 4, _ | 5, _ => rfl

def Looser (level : Nat) (rest : List Token) : Prop :=
  ∀ op, rest.head?.bind binaryOp? = some op → op.rank < level

def Stands (fuel level : Nat) (written : Expr) (tokens : List Token) : Prop :=
  ∀ rest, Detached rest → Looser level rest →
    Reads (rung fuel level) (tokens ++ rest) rest (fun found => found.bare = written.bare)

def Leads (fuel level : Nat) (written : Expr) (tokens : List Token) : Prop :=
  ∀ rest after post, Detached rest → Looser (level + 1) rest →
    (∀ more found, fuel + 2 ≤ more + tokens.length → found.bare = written.bare →
      Reads (chain (rung fuel (level + 1)) level more found) rest after post) →
    Reads (rung fuel level) (tokens ++ rest) after post

def TakesSigns (fuel : Nat) (written : Expr) (tokens : List Token) : Prop :=
  ∀ more rest, tokens.length ≤ more → Detached rest →
    Reads (prefixed (atom fuel) more) (tokens ++ rest) rest (fun found => found.bare = written.bare)

def TakesFields (fuel : Nat) (written : Expr) (tokens : List Token) : Prop :=
  ∀ rest after post, rest.head? ≠ some (.symbol .opening) →
    (∀ more found, fuel + 2 ≤ more + tokens.length → found.bare = written.bare →
      Reads (fields more found) rest after post) →
    Reads (atom fuel) (tokens ++ rest) after post

section Climbing

variable {fuel level : Nat} {written : Expr} {tokens : List Token}

theorem Leads.stands (leads : Leads fuel level written tokens) (enough : tokens.length ≤ fuel + 1) :
    Stands fuel level written tokens := by
  intro rest apart looser
  have within : Looser (level + 1) rest := fun op here => Nat.lt_succ_of_lt (looser op here)
  refine leads rest rest _ apart within fun more found count same => ?_
  obtain ⟨more, rfl⟩ : ∃ fewer, more = fewer + 1 := ⟨more - 1, by omega⟩
  exact chain_stops (fun op here => Nat.ne_of_lt (looser op here)) same

theorem Stands.leads (stands : Stands fuel (level + 1) written tokens) (inside : level < signTightness)
    (present : tokens ≠ []) : Leads fuel level written tokens := by
  intro rest after post apart looser goes
  have some_ := List.length_pos_of_ne_nil present
  rw [rung_joins fuel inside]
  exact (stands rest apart looser).bind fun found same => goes (fuel + 1) found (by omega) same

theorem Stands.below (enough : tokens.length ≤ fuel + 1) (present : tokens ≠ []) :
    ∀ gap, level + gap ≤ signTightness → Stands fuel (level + gap) written tokens →
      Stands fuel level written tokens
  | 0, _, stands => stands
  | gap + 1, bound, stands => Stands.below enough present gap (by omega)
      ((stands.leads (Nat.lt_of_succ_le bound) present).stands enough)

theorem TakesSigns.stands (takes : TakesSigns fuel written tokens) (enough : tokens.length ≤ fuel + 1) :
    Stands fuel signTightness written tokens :=
  fun rest apart _ => takes (fuel + 1) rest enough apart

theorem TakesFields.signs (takes : TakesFields fuel written tokens) {first : Token} {others : List Token}
    (starts : tokens = first :: others) (heads : first.heads = true) (enough : tokens.length ≤ fuel + 1) :
    TakesSigns fuel written tokens := by
  intro more rest count apart
  have reads : Reads (atom fuel) (tokens ++ rest) rest (fun found => found.bare = written.bare) := by
    refine takes rest rest _ apart.2 fun more found count same => ?_
    obtain ⟨more, rfl⟩ : ∃ fewer, more = fewer + 1 := ⟨more - 1, by omega⟩
    exact .skipped apart.1 (.pure same)
  subst starts
  obtain ⟨more, rfl⟩ : ∃ fewer, more = fewer + 1 := ⟨more - 1, by rw [List.length_cons] at count; omega⟩
  exact prefixed_passes (unaryOp?_of_heads heads) reads

theorem TakesFields.of_primary (present : tokens ≠ [])
    (reads : ∀ rest : List Token, rest.head? ≠ some (.symbol .opening) →
      Reads (primary (expr fuel) fuel) (tokens ++ rest) rest (fun found => found.bare = written.bare)) :
    TakesFields fuel written tokens := by
  intro rest after post apart goes
  have some_ := List.length_pos_of_ne_nil present
  exact (reads rest apart).bind fun found same => goes (fuel + 1) found (by omega) same

end Climbing

/-! ### Rendered expressions -/

structure Spoken (fuel level : Nat) (written : Expr) (tokens : List Token) : Prop where
  stands : level ≤ signTightness → Stands fuel level written tokens
  leads : level < signTightness → Leads fuel level written tokens
  signs : level = signTightness → TakesSigns fuel written tokens
  fields : level = pathTightness → TakesFields fuel written tokens

namespace Spoken

variable {fuel level : Nat} {written : Expr} {tokens : List Token}

theorem of_stands {own : Nat} (stands : Stands fuel own written tokens) (below : level < own)
    (bound : own ≤ signTightness) (enough : tokens.length ≤ fuel + 1) (present : tokens ≠ []) :
    Spoken fuel level written tokens := by
  obtain ⟨gap, rfl⟩ := Nat.exists_eq_add_of_le (Nat.succ_le_of_lt below)
  have inside : level < signTightness := Nat.lt_of_lt_of_le below bound
  have leads := (Stands.below enough present gap bound stands).leads inside present
  refine ⟨fun _ => leads.stands enough, fun _ => leads, fun same => ?_, fun same => ?_⟩
  · exact absurd same (Nat.ne_of_lt inside)
  · exact absurd same (Nat.ne_of_lt (Nat.lt_succ_of_lt inside))

theorem of_leads {own : Nat} (leads : Leads fuel own written tokens) (below : level ≤ own)
    (bound : own < signTightness) (enough : tokens.length ≤ fuel + 1) (present : tokens ≠ []) :
    Spoken fuel level written tokens := by
  rcases Nat.lt_or_eq_of_le below with looser | rfl
  · exact of_stands (leads.stands enough) looser (Nat.le_of_lt bound) enough present
  · refine ⟨fun _ => leads.stands enough, fun _ => leads, fun same => ?_, fun same => ?_⟩
    · exact absurd same (Nat.ne_of_lt bound)
    · exact absurd same (Nat.ne_of_lt (Nat.lt_succ_of_lt bound))

theorem of_signs (takes : TakesSigns fuel written tokens) (below : level ≤ signTightness)
    (enough : tokens.length ≤ fuel + 1) (present : tokens ≠ []) : Spoken fuel level written tokens := by
  rcases Nat.lt_or_eq_of_le below with looser | rfl
  · exact of_stands (takes.stands enough) looser (Nat.le_refl _) enough present
  · exact ⟨fun _ => takes.stands enough, fun less => absurd less (Nat.lt_irrefl _), fun _ => takes,
      fun same => absurd same (Nat.ne_of_lt (Nat.lt_succ_self _))⟩

theorem of_fields (takes : TakesFields fuel written tokens) (below : level ≤ pathTightness)
    (enough : tokens.length ≤ fuel + 1) {first : Token} {others : List Token}
    (starts : tokens = first :: others) (heads : first.heads = true) :
    Spoken fuel level written tokens := by
  have present : tokens ≠ [] := starts ▸ List.cons_ne_nil _ _
  rcases Nat.lt_or_eq_of_le below with looser | rfl
  · exact of_signs (takes.signs starts heads enough) (Nat.le_of_lt_succ looser) enough present
  · exact ⟨fun less => absurd less (Nat.not_succ_le_self _),
      fun less => absurd (Nat.le_of_lt less) (Nat.not_succ_le_self _),
      fun same => absurd same.symm (Nat.ne_of_lt (Nat.lt_succ_self _)), fun _ => takes⟩

/-- Where anything is expected, what follows only has to end the expression. -/
theorem readable (spoken : ∀ fuel, tokens.length ≤ fuel + 1 → Spoken fuel 0 written tokens)
    (enough : tokens.length ≤ fuel) (present : tokens ≠ []) : ReadableAs (expr fuel) written tokens := by
  have some_ := List.length_pos_of_ne_nil present
  obtain ⟨fuel, rfl⟩ : ∃ fewer, fuel = fewer + 1 := ⟨fuel - 1, by omega⟩
  intro rest closes
  refine (spoken fuel enough).stands (Nat.zero_le _) rest closes.1 fun op here => ?_
  rw [closes.2] at here
  cases here

end Spoken

theorem spoken_number (n : Float) {fuel : Nat} :
    Spoken fuel 0 (.literal (.number n) nowhere) [.number n] :=
  .of_fields (.of_primary (List.cons_ne_nil _ _) fun _ _ => primary_literal rfl nowhere) (Nat.zero_le _)
    (Nat.succ_le_succ (Nat.zero_le _)) rfl rfl

theorem literal_reads {value : Value} {span : Span} (proper : (Expr.literal value span).Proper)
    {fuel : Nat} (enough : (literalTokens value).length ≤ fuel + 1) (rest : List Token) :
    Reads (primary (expr fuel) fuel) (literalTokens value ++ rest) rest
      (fun found => found.bare = (Expr.literal value span).bare) := by
  have present := proper.1
  cases value with
  | number | text => exact primary_literal rfl span
  | boolean b => cases b <;> exact primary_literal rfl span
  | vector v =>
    rw [literalTokens, length_enclosed] at enough
    have number (n : Float) : ReadableAs (expr fuel) (.literal (.number n) nowhere) [.number n] := by
      refine Spoken.readable (fun _ _ => spoken_number n) ?_ (List.cons_ne_nil _ _)
      rw [List.length_singleton]
      omega
    rw [literalTokens, enclosed_append]
    exact primary_parenthesized fun start => vector_reads (number v.x) (number v.y) (number v.z) start span
  | _ => exact absurd rfl present

/-- With as much fuel as there are tokens, a rendered expression is found again. -/
theorem renders_spoken {level : Nat} {written : Expr} {tokens : List Token}
    (renders : Renders level written tokens) : level ≤ pathTightness → written.Proper →
      ∀ fuel, tokens.length ≤ fuel + 1 → Spoken fuel level written tokens := by
  have nonempty {level : Nat} {written : Expr} {tokens : List Token}
      (renders : Renders level written tokens) (proper : written.Proper) : tokens ≠ [] := by
    obtain ⟨first, rest, same, -⟩ := renders_starts renders proper
    exact same ▸ List.cons_ne_nil _ _
  induction renders with
  | literal level value span =>
    intro below proper fuel enough
    obtain ⟨first, rest, same, heads⟩ := Expr.tokens_cons (.literal value span) proper
    exact .of_fields (.of_primary proper.1 fun rest _ => literal_reads proper enough rest) below enough same
      heads
  | var level name span =>
    intro below proper fuel enough
    exact .of_fields (.of_primary (List.cons_ne_nil _ _) fun rest apart => primary_var apart span) below
      enough rfl rfl
  | @call level name span parts each ih =>
    intro below proper fuel enough
    have whole := enough
    rw [List.length_cons, length_enclosed] at enough
    have count := count_le_commas (parts.map Prod.snd)
    rw [List.length_map] at count
    have partProper : ∀ part ∈ parts, part.1.Proper :=
      fun part inside => Expr.allProper_iff.mp proper.2 part.1 (List.mem_map_of_mem inside)
    have starts : ∀ part ∈ parts, ∃ first more, part.2 = first :: more ∧ first ≠ .symbol .closing := by
      intro part inside
      obtain ⟨first, more, same, other, -⟩ := renders_starts (each part inside) (partProper part inside)
      exact ⟨first, more, same, other⟩
    have readable : ∀ part ∈ parts, ReadableAs (expr fuel) part.1 part.2 := by
      intro part inside
      have short := length_le_commas (List.mem_map_of_mem inside : part.2 ∈ parts.map Prod.snd)
      exact Spoken.readable (ih part inside (Nat.zero_le _) (partProper part inside)) (by omega)
        (nonempty (each part inside) (partProper part inside))
    refine .of_fields (.of_primary (List.cons_ne_nil _ _) fun rest _ => ?_) below whole rfl rfl
    rw [List.cons_append, enclosed_append]
    refine primary_call ((arguments_reads starts readable (by omega)).mono fun found same => ?_) span
    rw [same, List.map_map]
    rfl
  | @vector level span x y z xs ys zs first second third ihX ihY ihZ =>
    intro below proper fuel enough
    obtain ⟨plain, properX, properY, properZ⟩ := proper
    have whole := enough
    simp only [length_enclosed, commas, List.length_append, List.length_cons] at enough
    refine .of_fields (.of_primary (List.cons_ne_nil _ _) fun rest _ => ?_) below whole rfl rfl
    rw [enclosed_append, ← plain]
    refine primary_parenthesized fun start => vector_reads ?_ ?_ ?_ start span
    · exact Spoken.readable (ihX (Nat.zero_le _) properX) (by omega) (nonempty first properX)
    · exact Spoken.readable (ihY (Nat.zero_le _) properY) (by omega) (nonempty second properY)
    · exact Spoken.readable (ihZ (Nat.zero_le _) properZ) (by omega) (nonempty third properZ)
  | @field level tight base tokens inside name span ih =>
    intro below proper fuel enough
    have whole := enough
    rw [List.length_append, List.length_cons, List.length_singleton] at enough
    obtain ⟨first, rest, same, -, heads⟩ := renders_starts inside proper.1
    have takes := (ih (Nat.le_refl _) proper.1 fuel (by omega)).fields rfl
    refine .of_fields (fun rest after post apart goes => ?_) below whole (congrArg (· ++ _) same)
      (heads (Nat.le_refl _))
    rw [List.append_assoc]
    have plain : (Token.symbol .dot :: Token.ident name :: rest).head? ≠ some (.symbol .opening) := by
      rintro ⟨⟩
    refine takes _ after post plain fun more found count sameBase => ?_
    obtain ⟨more, rfl⟩ : ∃ fewer, more = fewer + 1 := ⟨more - 1, by omega⟩
    refine .taken (.bind (expectIdent_reads name _ _) ?_)
    rintro ⟨_, place⟩ rfl
    refine goes more _ ?_ ?_
    · rw [List.length_append, List.length_cons, List.length_singleton]
      omega
    · rw [Expr.bare, Expr.bare, sameBase]
  | @unary level tight op token spelled operand tokens inside span ih =>
    intro below proper fuel enough
    have whole := enough
    rw [List.length_cons] at enough
    have takes := (ih (by decide) proper fuel (by omega)).signs rfl
    refine .of_signs (fun more rest count apart => ?_) tight whole (List.cons_ne_nil _ _)
    rw [List.length_cons] at count
    obtain ⟨more, rfl⟩ : ∃ fewer, more = fewer + 1 := ⟨more - 1, by omega⟩
    exact prefixed_reads (unaryOp?_spelled spelled)
      (takes more rest (Nat.le_of_succ_le_succ count) apart) span
  | @binary level op tight token spelled left right before behind first second span ihLeft ihRight =>
    intro below proper fuel enough
    have whole := enough
    rw [List.length_append, List.length_cons] at enough
    have low : op.tightness < signTightness := op.tightness_eq_rank ▸ op.rank_lt
    have leads := (ihLeft (Nat.le_of_lt (Nat.lt_succ_of_lt low)) proper.1 fuel (by omega)).leads low
    have stands := (ihRight (Nat.le_succ_of_le low) proper.2 fuel (by omega)).stands low
    refine .of_leads (fun rest after post apart looser goes => ?_) tight low whole (by simp)
    have detached : Detached (token :: (behind ++ rest)) := by
      have operator := binaryOp?_spelled spelled
      constructor
      all_goals
        rintro ⟨⟩
        cases operator
    have here : Looser (op.tightness + 1) (token :: (behind ++ rest)) := by
      intro other found
      rw [List.head?_cons, Option.bind_some, binaryOp?_spelled spelled] at found
      cases found
      exact op.tightness_eq_rank ▸ Nat.lt_succ_self _
    rw [List.append_assoc, List.cons_append]
    refine leads _ after post detached here fun more leftFound count leftSame => ?_
    obtain ⟨more, rfl⟩ : ∃ fewer, more = fewer + 1 := ⟨more - 1, by omega⟩
    have reads := stands rest apart looser
    rw [op.tightness_eq_rank] at reads goes ⊢
    refine chain_takes (binaryOp?_spelled spelled) reads fun rightFound rightSame => ?_
    refine goes more _ ?_ (join_bare leftSame rightSame span)
    rw [List.length_append, List.length_cons]
    omega
  | @enclosed level written loose tokens inside ih =>
    intro below proper fuel enough
    have whole := enough
    rw [length_enclosed] at enough
    have readable := Spoken.readable (ih (Nat.zero_le _) proper) (show tokens.length ≤ fuel by omega)
      (nonempty inside proper)
    refine .of_fields (.of_primary (List.cons_ne_nil _ _) fun rest _ => ?_) below whole rfl rfl
    rw [enclosed_append]
    exact primary_parenthesized fun start =>
      parenthesized_reads start (readable _ (closes_of_mem _ (by decide)))

end Grammar

/-! ### Found again -/

/-- The grammar finds the expression somewhere among the lexemes of a source. -/
def Expr.Found (written : Expr) : Prop :=
  ∃ source lexemes, lex source = .ok lexemes ∧ ∃ fuel feed after,
    feed.left <:+ lexemes ∧ Grammar.expr fuel feed = .ok (written, after)

theorem Sourced.suffix {behind tokens : List Token} (sourced : Sourced tokens)
    (inside : behind <:+ tokens) : Sourced behind := by
  induction tokens with
  | nil => exact List.suffix_nil.mp inside ▸ sourced
  | cons token rest ih =>
    rcases List.suffix_cons_iff.mp inside with rfl | later
    · exact sourced
    · exact ih sourced.2.2 later

theorem Expr.Found.proper {written : Expr} (found : written.Found) : written.Proper := by
  obtain ⟨source, lexemes, lexed, fuel, feed, after, inside, read⟩ := found
  have sourced : Sourced feed.tokens := (lex_sourced lexed).suffix (inside.map Lexeme.token)
  exact (Grammar.expr_yields fuel feed sourced written after read).1

/-- Every expression that the grammar can find can be rendered; and however its operators are spelled, what
is rendered is read as the expression again, up to whatever does not continue it. -/
theorem rendered_found_again {written : Expr} (found : written.Found) :
    (∃ tokens, Renders 0 written tokens) ∧
      ∀ tokens, Renders 0 written tokens → ∀ rest : List Token,
        (∀ token ∈ rest.head?, ¬token.Continues) → ∀ fuel, tokens.length ≤ fuel →
          Grammar.Reads (Grammar.expr fuel) (tokens ++ rest) rest
            (fun other => other.bare = written.bare) := by
  refine ⟨exists_renders written 0, fun tokens renders rest ends fuel enough => ?_⟩
  have proper := found.proper
  obtain ⟨first, others, same, -⟩ := Grammar.renders_starts renders proper
  exact Grammar.Spoken.readable (Grammar.renders_spoken renders (Nat.zero_le _) proper) enough
    (same ▸ List.cons_ne_nil _ _) rest (Grammar.closes_of_not_continues ends)

/-- What is found in `a - (b - c).x or !d`, rendered with other spellings and read up to a comma. -/
theorem margin_found_again :
    let inner := Expr.binary .sub (.var "b" ⟨5, 6⟩) (.var "c" ⟨9, 10⟩) ⟨5, 10⟩
    let margin := Expr.binary .or
      (.binary .sub (.var "a" ⟨0, 1⟩) (.field inner "x" ⟨5, 13⟩) ⟨0, 13⟩)
      (.unary .not (.var "d" ⟨18, 19⟩) ⟨17, 19⟩) ⟨0, 19⟩
    let tokens : List Token := [.ident "a", .symbol .minus, .symbol .opening, .ident "b", .symbol .minus,
      .ident "c", .symbol .closing, .symbol .dot, .ident "x", .symbol .orOr, .keyword .not_, .ident "d"]
    margin.Found ∧ Renders 0 margin tokens ∧ ¬Token.Continues (.symbol .comma) ∧
      Grammar.Reads (Grammar.expr 12) (tokens ++ [.symbol .comma]) [.symbol .comma]
        (fun other => other.bare = margin.bare) := by
  intro inner margin tokens
  let lexemes : List Lexeme := [⟨.ident "a", ⟨0, 1⟩⟩, ⟨.symbol .minus, ⟨2, 3⟩⟩,
    ⟨.symbol .opening, ⟨4, 5⟩⟩, ⟨.ident "b", ⟨5, 6⟩⟩, ⟨.symbol .minus, ⟨7, 8⟩⟩, ⟨.ident "c", ⟨9, 10⟩⟩,
    ⟨.symbol .closing, ⟨10, 11⟩⟩, ⟨.symbol .dot, ⟨11, 12⟩⟩, ⟨.ident "x", ⟨12, 13⟩⟩,
    ⟨.keyword .or_, ⟨14, 16⟩⟩, ⟨.symbol .bang, ⟨17, 18⟩⟩, ⟨.ident "d", ⟨18, 19⟩⟩, ⟨.newline, ⟨19, 19⟩⟩]
  have lexed : lex "a - (b - c).x or !d" = .ok lexemes := by decide +kernel
  have found : margin.Found :=
    ⟨_, lexemes, lexed, 12, ⟨lexemes, 0⟩, ⟨[⟨.newline, ⟨19, 19⟩⟩], 19⟩, List.suffix_refl _, rfl⟩
  have parenthesized : Renders pathTightness inner _ :=
    .enclosed (by decide) (.binary (by decide) (.head _) (.var _ _ _) (.var _ _ _) _)
  have renders : Renders 0 margin tokens :=
    .binary (by decide) (.tail _ (.head _))
      (.binary (by decide) (.head _) (.var _ _ _) (.field (by decide) parenthesized _ _) _)
      (.unary (by decide) (.head _) (.var _ _ _) _) _
  have ends : ¬Token.Continues (.symbol .comma) := by
    rintro (⟨op, spelled⟩ | same | same)
    · cases Grammar.binaryOp?_spelled spelled
    · cases same
    · cases same
  refine ⟨found, renders, ends, (rendered_found_again found).2 tokens renders _ ?_ 12 (by decide)⟩
  rintro _ ⟨⟩
  exact ends

end Stagecraft.Script
