import Stagecraft.Proofs.Script.Propriety
import Stagecraft.Proofs.Script.Seams

/-!
Logical lines: the tokens of a source come line by line, each line behind the marks of its indentation and with its
parentheses closed, and every block that starts also ends. The grammar relies on this without looking.
-/

namespace Stagecraft.Script

def Token.IsMark (token : Token) : Prop := token ∈ [.newline, .indent, .dedent]

instance : DecidablePred Token.IsMark :=
  fun token => inferInstanceAs (Decidable (token ∈ [.newline, .indent, .dedent]))

theorem Token.Legible.not_isMark {token : Token} (legible : token.Legible) : ¬token.IsMark := by
  intro mark
  unfold IsMark at mark
  simp only [List.mem_cons, List.not_mem_nil, or_false] at mark
  rcases mark with rfl | rfl | rfl
  all_goals exact legible

/-- Behind `level` openings the tokens never close more than is open, and all of it in the end. -/
structure ClosesFrom (opening closing : Token) (level : Nat) (tokens : List Token) : Prop where
  ahead : ∀ front, front <+: tokens → front.count closing ≤ level + front.count opening
  even : tokens.count closing = level + tokens.count opening

def Balanced (opening closing : Token) (tokens : List Token) : Prop := ClosesFrom opening closing 0 tokens

structure LineBody (tokens : List Token) : Prop where
  present : tokens ≠ []
  plain : ∀ token ∈ tokens, ¬token.IsMark
  balanced : Balanced (.symbol .opening) (.symbol .closing) tokens

/-- A line with the marks of its indentation: one block starts in front of it, or any number of blocks end. -/
inductive LogicalLine : List Token → Prop
  | deeper {body : List Token} (stands : LineBody body) : LogicalLine (.indent :: body ++ [.newline])
  | level (closed : Nat) {body : List Token} (stands : LineBody body) :
      LogicalLine (List.replicate closed .dedent ++ body ++ [.newline])

/-! ### Counting -/

section Counting

variable {opening closing : Token} {level : Nat} {tokens : List Token}

theorem ClosesFrom.nil : ClosesFrom opening closing 0 [] where
  ahead front inside := by
    rw [List.prefix_nil.mp inside]
    exact Nat.zero_le _
  even := rfl

theorem ClosesFrom.cons {token : Token} {inner : Nat}
    (step : inner + [token].count closing = level + [token].count opening)
    (rest : ClosesFrom opening closing inner tokens) : ClosesFrom opening closing level (token :: tokens) := by
  have split (target : Token) (others : List Token) :
      (token :: others).count target = [token].count target + others.count target := by
    rw [← List.singleton_append, List.count_append]
  constructor
  · intro front inside
    rcases List.prefix_cons_iff.mp inside with rfl | ⟨behind, rfl, within⟩
    · exact Nat.zero_le _
    · have fits := rest.ahead behind within
      rw [split closing, split opening]
      omega
  · have even := rest.even
    rw [split closing, split opening]
    omega

theorem ClosesFrom.skip {front : List Token} (other : opening ∉ front ∧ closing ∉ front)
    (rest : ClosesFrom opening closing level tokens) : ClosesFrom opening closing level (front ++ tokens) := by
  induction front with
  | nil => exact rest
  | cons token others ih =>
    simp only [List.mem_cons, not_or] at other
    refine .cons ?_ (ih ⟨other.1.2, other.2.2⟩)
    rw [List.count_singleton, List.count_singleton, if_neg (by simpa using Ne.symm other.2.1),
      if_neg (by simpa using Ne.symm other.1.1)]

end Counting

/-- A token in a line leaves as many parentheses open as the lexer counts. -/
theorem depthBehind_step {depth inner : Nat} {token : Token} (counts : depthBehind depth token = some inner) :
    inner + [token].count (.symbol .closing) = depth + [token].count (.symbol .opening) := by
  unfold depthBehind Cursor.countParens? at counts
  split at counts
  · cases counts
    rfl
  · split at counts
    · cases counts
    · cases counts
      have less : depth - 1 + 1 = depth := Nat.sub_add_cancel (Nat.one_le_iff_ne_zero.mpr ‹_›)
      exact less
  · next noOpening noClosing =>
    cases counts
    have apart (symbol : Symbol) (other : token ≠ .symbol symbol) : [token].count (.symbol symbol) = 0 := by
      rw [List.count_singleton, if_neg (by simpa using other)]
    rw [apart .opening noOpening, apart .closing noClosing]

/-! ### Lines -/

/-- The tokens come line by line where `level` blocks are open in front of them, and all blocks end. -/
inductive Laid : (level : Nat) → List Token → Prop
  | done (level : Nat) : Laid level (List.replicate level .dedent)
  | deeper {level : Nat} {body rest : List Token} (stands : LineBody body) (behind : Laid (level + 1) rest) :
      Laid level (.indent :: body ++ .newline :: rest)
  | level {level : Nat} (closed : Nat) {body rest : List Token} (stands : LineBody body)
      (behind : Laid level rest) : Laid (level + closed) (List.replicate closed .dedent ++ body ++ .newline :: rest)

namespace Laid

variable {level : Nat} {tokens : List Token}

theorem lines (laid : Laid level tokens) : ∃ (lines : List (List Token)) (closed : Nat),
    tokens = lines.flatten ++ List.replicate closed .dedent ∧ ∀ line ∈ lines, LogicalLine line := by
  induction laid with
  | done level => exact ⟨[], level, rfl, List.forall_mem_nil _⟩
  | @deeper level body rest stands behind ih =>
    obtain ⟨lines, closed, rfl, every⟩ := ih
    refine ⟨(.indent :: body ++ [.newline]) :: lines, closed, ?_, List.forall_mem_cons.mpr ⟨.deeper stands, every⟩⟩
    simp
  | @level level here body rest stands behind ih =>
    obtain ⟨lines, closed, rfl, every⟩ := ih
    refine ⟨(List.replicate here .dedent ++ body ++ [.newline]) :: lines, closed, ?_,
      List.forall_mem_cons.mpr ⟨.level here stands, every⟩⟩
    simp

theorem closesFrom_dedents (closed : Nat) (rest : ClosesFrom .indent .dedent level tokens) :
    ClosesFrom .indent .dedent (level + closed) (List.replicate closed .dedent ++ tokens) := by
  induction closed with
  | zero => exact rest
  | succ closed ih => exact .cons rfl ih

/-- Of the blocks none ends that is not open, and all end. -/
theorem closesFrom (laid : Laid level tokens) : ClosesFrom .indent .dedent level tokens := by
  have line {level : Nat} {body rest : List Token} (stands : LineBody body)
      (behind : ClosesFrom .indent .dedent level rest) :
      ClosesFrom .indent .dedent level (body ++ .newline :: rest) := by
    have other (mark : Token) (isMark : mark.IsMark) : mark ∉ body := fun member => stands.plain mark member isMark
    exact .skip ⟨other .indent (by decide), other .dedent (by decide)⟩ (.cons rfl behind)
  induction laid with
  | done level =>
    have none : ClosesFrom .indent .dedent 0 [] := .nil
    have all := closesFrom_dedents level none
    rwa [Nat.zero_add, List.append_nil] at all
  | deeper stands behind ih => exact .cons rfl (line stands ih)
  | level closed stands behind ih =>
    rw [List.append_assoc]
    exact closesFrom_dedents closed (line stands ih)

end Laid

/-- The marks in front of a line start one block or end any number of them. -/
theorem layoutMarks?_counts {width : Nat} {blocks inner : List Nat} {marks : List Token}
    (layout : layoutMarks? width blocks = some (marks, inner)) :
    (marks = [.indent] ∧ inner.length = blocks.length + 1) ∨
      ∃ closed, marks = List.replicate closed .dedent ∧ blocks.length = inner.length + closed := by
  have all (blocks : List Nat) :
      blocks.length = (closeBlocks width blocks).2.length + (closeBlocks width blocks).1 := by
    induction blocks with
    | nil => rfl
    | cons block outer ih =>
      unfold closeBlocks
      split
      · exact congrArg (· + 1) ih
      · rfl
  unfold layoutMarks? at layout
  dsimp only at layout
  split at layout
  · cases layout
    exact .inl ⟨rfl, rfl⟩
  · split at layout
    · cases layout
      exact .inr ⟨_, rfl, all blocks⟩
    · cases layout

def StartsToken (chars : List Char) : Prop := ∃ c more, chars = c :: more ∧ Opens c

theorem StartsToken.dropWhile_eq {chars more : List Char} {c : Char} (starts : StartsToken chars)
    (shape : chars.dropWhile isLineBlank = c :: more) : Opens c := by
  obtain ⟨first, others, rfl, opens⟩ := starts
  rw [List.dropWhile_cons, isLineBlank_of_opens opens] at shape
  obtain ⟨rfl, -⟩ := List.cons.inj shape
  exact opens

def GoesOn (level depth : Nat) (midLine : Bool) (tokens : List Token) : Prop :=
  ∃ body rest, tokens = body ++ .newline :: rest ∧ (midLine = false → body ≠ []) ∧
    (∀ token ∈ body, ¬token.IsMark) ∧ ClosesFrom (.symbol .opening) (.symbol .closing) depth body ∧
    Laid level rest

theorem goesOn_newline {level : Nat} {rest : List Token} (behind : Laid level rest) :
    GoesOn level 0 true (.newline :: rest) :=
  ⟨[], rest, rfl, nofun, nofun, .nil, behind⟩

/-- What is read comes in logical lines, also from within one. -/
theorem Tokenizes.laid {blocks : List Nat} {depth : Nat} {midLine lineStart : Bool} {chars : List Char}
    {tokens : List Token} (reads : Tokenizes blocks depth midLine lineStart chars tokens) :
    (lineStart = true → depth = 0 → midLine = false → Laid blocks.length tokens) ∧
      (lineStart = false → midLine = true ∨ StartsToken chars → GoesOn blocks.length depth midLine tokens) := by
  -- Where the line has no token yet, one comes next: only `token` remains of the cases within a line.
  have begun {midLine : Bool} {chars more : List Char} {c : Char} (going : midLine = true ∨ StartsToken chars)
      (shape : chars.dropWhile isLineBlank = c :: more) (mute : ¬Opens c) : midLine = true :=
    going.resolve_right fun starts => mute (starts.dropWhile_eq shape)
  induction reads with
  | done blocks midLine lineStart =>
    refine ⟨fun _ _ fresh => ?_, fun _ going => ?_⟩
    · subst fresh
      exact .done _
    · obtain rfl : midLine = true := going.resolve_right fun ⟨c, more, shape, _⟩ => nomatch shape
      exact goesOn_newline (.done _)
  | @trailing chars blocks midLine blank =>
    refine ⟨nofun, fun _ going => ?_⟩
    obtain rfl : midLine = true := going.resolve_right fun ⟨c, more, shape, opens⟩ => by
      rw [shape, List.dropWhile_cons, isLineBlank_of_opens opens] at blank
      cases blank
    exact goesOn_newline (.done _)
  | blank _ _ _ ih => exact ⟨ih.1, nofun⟩
  | line shape opens layout _ ih =>
    refine ⟨fun _ closed fresh => ?_, nofun⟩
    subst closed fresh
    obtain ⟨body, rest, rfl, present, plain, balanced, behind⟩ := ih.2 rfl (.inr ⟨_, _, rfl, opens⟩)
    have stands : LineBody body := ⟨present rfl, plain, balanced⟩
    rcases layoutMarks?_counts layout with ⟨rfl, deeper⟩ | ⟨closed, rfl, level⟩
    · rw [deeper] at behind
      exact .deeper stands behind
    · rw [level, ← List.append_assoc]
      exact .level closed stands behind
  | comment shape _ ih =>
    refine ⟨nofun, fun _ going => ?_⟩
    have within := begun going shape (by decide)
    exact ih.2 rfl (.inl within)
  | newline shape _ ih =>
    refine ⟨nofun, fun _ going => ?_⟩
    obtain rfl := begun going shape (by decide)
    exact goesOn_newline (ih.1 rfl rfl rfl)
  | inside shape opened _ ih =>
    refine ⟨nofun, fun _ going => ?_⟩
    have within := begun going shape (by decide)
    exact ih.2 rfl (.inl within)
  | @token _ _ _ _ _ _ _ _ token _ shape opens scan counts _ ih =>
    refine ⟨nofun, fun _ _ => ?_⟩
    obtain ⟨body, rest, rfl, -, plain, balanced, behind⟩ := ih.2 rfl (.inl rfl)
    have stands := (scanToken_legible scan).not_isMark
    exact ⟨token :: body, rest, rfl, fun _ => List.cons_ne_nil _ _, List.forall_mem_cons.mpr ⟨stands, plain⟩,
      .cons (depthBehind_step counts) balanced, behind⟩

theorem lex_laid {source : String} {lexemes : List Lexeme} (read : lex source = .ok lexemes) :
    Laid 0 (lexemes.map Lexeme.token) :=
  (tokenizes_of_lexFrom read).laid.1 rfl rfl rfl

/-! ### Blocks -/

theorem Sourced.behind {front rest : List Token} (sourced : Sourced (front ++ rest)) : Sourced rest := by
  induction front with
  | nil => exact sourced
  | cons token others ih => exact ih sourced.2.2

structure Orderly (lexemes : List Lexeme) : Prop where
  /-- The tokens are logical lines and the ends of the blocks that are still open. -/
  lines : ∃ (lines : List (List Token)) (closed : Nat),
    lexemes.map Lexeme.token = lines.flatten ++ List.replicate closed .dedent ∧ ∀ line ∈ lines, LogicalLine line
  nested : Balanced .indent .dedent (lexemes.map Lexeme.token)
  /-- No block ends where it starts. -/
  present : ∀ front behind, lexemes.map Lexeme.token = front ++ .indent :: behind →
    behind.head? ≠ some .dedent
  /-- So the grammar finds no block without statements. -/
  blocks : ∀ taken left, lexemes = taken ++ left → ∀ exprFuel stmtFuel fuel stop found after,
    Grammar.block (Grammar.stmt exprFuel stmtFuel) fuel ⟨left, stop⟩ = .ok (found, after) → found ≠ []

theorem lex_orderly {source : String} {lexemes : List Lexeme} (read : lex source = .ok lexemes) :
    Orderly lexemes where
  lines := (lex_laid read).lines
  nested := (lex_laid read).closesFrom
  present front behind split := by
    have sourced := lex_sourced read
    rw [split] at sourced
    exact sourced.behind.2.1 rfl
  blocks taken left split exprFuel stmtFuel fuel stop found after succeeded := by
    have sourced := lex_sourced read
    rw [split, List.map_append] at sourced
    have yields := Grammar.block_yields (Grammar.stmt_yields exprFuel stmtFuel) fuel
    exact (yields ⟨left, stop⟩ sourced.behind found after succeeded).1.1

/-- A call that goes on behind a comment, in a block that ends with the source. -/
theorem torch_orderly :
    let lexemes : List Lexeme :=
      [⟨.ident "dusk", ⟨0, 4⟩⟩, ⟨.newline, ⟨4, 5⟩⟩, ⟨.indent, ⟨5, 6⟩⟩, ⟨.ident "burn", ⟨6, 10⟩⟩,
        ⟨.symbol .opening, ⟨10, 11⟩⟩, ⟨.ident "torch", ⟨18, 23⟩⟩, ⟨.symbol .closing, ⟨23, 24⟩⟩,
        ⟨.newline, ⟨24, 24⟩⟩, ⟨.dedent, ⟨24, 24⟩⟩]
    lex "dusk\n\tburn( # on\n\ttorch)" = .ok lexemes ∧ Orderly lexemes := by
  intro lexemes
  have read : lex "dusk\n\tburn( # on\n\ttorch)" = .ok lexemes := by decide +kernel
  exact ⟨read, lex_orderly read⟩

end Stagecraft.Script
