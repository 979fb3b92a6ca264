import Mathlib.Data.List.DropRight
import Stagecraft.Proofs.Script.Scanning

/-!
Legibility: what any source is read as could be written again. Every token has a text of its own or marks
the layout, and no block is without lines.
-/

namespace Stagecraft.Script

/-! ### Single tokens -/

theorem legible_of_scanNumber {c : Char} (digit : c.isDigit = true) (rest : List Char) :
    (scanNumber (c :: rest)).1.Legible := by
  have digits (chars : List Char) : ∀ d ∈ chars.takeWhile Char.isDigit, d.isDigit = true :=
    fun d member => List.mem_takeWhile_imp member
  have whole : (c :: rest).takeWhile Char.isDigit = c :: rest.takeWhile Char.isDigit := by
    rw [List.takeWhile_cons, digit]
    rfl
  have legible (fraction : List Char) (digitsBehind : ∀ d ∈ fraction, d.isDigit = true) :
      (Token.number
        (Decimal.Numeral.fixed ((c :: rest).takeWhile Char.isDigit) fraction)).Legible := by
    have nothing : Stops (fun d => d.isDigit || d == '.') [] := by simp [Stops]
    have read := scanNumber_numeral (digits (c :: rest)) digitsBehind nothing
    rw [List.append_nil] at read
    obtain ⟨others, starts⟩ : ∃ others,
        numeral ((c :: rest).takeWhile Char.isDigit) fraction = c :: others := by
      rw [numeral, whole]
      split
      · exact ⟨_, rfl⟩
      · exact ⟨_, rfl⟩
    rw [starts] at read
    exact ⟨_, c, others, rfl, digit, read⟩
  unfold scanNumber
  dsimp only
  split
  · split
    · exact legible [] (by simp)
    · exact legible _ (digits _)
  · exact legible [] (by simp)

theorem legible_ofWord {c : Char} {others : List Char} (starts : startsWord c = true)
    (continues : ∀ d ∈ others, continuesWord d = true) :
    (Token.ofWord (String.ofList (c :: others))).Legible := by
  unfold Token.ofWord
  split
  · trivial
  · next free => exact ⟨⟨c, others, rfl, starts, continues⟩, free⟩

theorem scanToken_legible {c : Char} {rest : List Char} {token : Token} {length : Nat}
    (scan : scanToken c rest = .ok (token, length)) : token.Legible := by
  unfold scanToken at scan
  dsimp only at scan
  split at scan
  · split at scan
    · cases scan
      intro d member
      rw [String.toList_ofList] at member
      have inside := List.mem_takeWhile_imp member
      exact of_decide_eq_true inside
    · cases scan
  · split at scan
    · next digit =>
      cases scan
      exact legible_of_scanNumber digit rest
    · split at scan
      · next starts =>
        cases scan
        exact legible_ofWord starts (fun d member => List.mem_takeWhile_imp member)
      · split at scan
        · cases scan
          trivial
        · split at scan
          · cases scan
            trivial
          · cases scan

/-! ### Sources -/

/-- Tokens that a source can have: each is legible or a mark of layout, and no block ends where it
starts. -/
def Sourced : List Token → Prop
  | [] => True
  | token :: rest =>
    (token.Legible ∨ token ∈ [.newline, .indent, .dedent]) ∧
      (token = .indent → rest.head? ≠ some .dedent) ∧ Sourced rest

namespace Sourced

theorem cons_of_legible {token : Token} {rest : List Token} (legible : token.Legible)
    (sourced : Sourced rest) : Sourced (token :: rest) := by
  refine ⟨.inl legible, ?_, sourced⟩
  rintro rfl
  exact legible.elim

theorem newline {rest : List Token} (sourced : Sourced rest) : Sourced (.newline :: rest) :=
  ⟨.inr (by decide), nofun, sourced⟩

theorem dedents {rest : List Token} (sourced : Sourced rest) (count : Nat) :
    Sourced (List.replicate count .dedent ++ rest) := by
  induction count with
  | zero => exact sourced
  | succ count ih => exact ⟨.inr (by decide), nofun, ih⟩

/-- The marks in front of a line start no block that ends at once. -/
theorem marks {width : Nat} {blocks inner : List Nat} {marks rest : List Token}
    (layout : layoutMarks? width blocks = some (marks, inner)) (sourced : Sourced rest)
    (going : rest.head? ≠ some .dedent) : Sourced (marks ++ rest) := by
  unfold layoutMarks? at layout
  dsimp only at layout
  split at layout
  · cases layout
    exact ⟨.inr (by decide), fun _ => going, sourced⟩
  · split at layout
    · cases layout
      exact sourced.dedents _
    · cases layout

end Sourced

theorem lexFrom_head {cursor : Cursor} {chars : List Char} {lexemes : List Lexeme}
    (going : ¬endsLine (chars.dropWhile isLineBlank) = true)
    (succeeded : lexFrom cursor false chars = .ok lexemes) :
    (lexemes.map Lexeme.token).head? ≠ some .dedent := by
  rw [lexFrom] at succeeded
  split at succeeded
  · next empty =>
    rw [List.isEmpty_iff.mp empty] at going
    exact absurd rfl going
  · dsimp only at succeeded
    rw [if_neg Bool.false_ne_true] at succeeded
    split at succeeded
    · next nothing =>
      rw [nothing] at going
      exact absurd rfl going
    · next c rest shape =>
      rw [shape] at going
      rw [if_neg (by rintro rfl; exact going rfl), if_neg (by rintro rfl; exact going rfl)] at succeeded
      split at succeeded
      · cases succeeded
      · next token length scan =>
        split at succeeded
        · cases succeeded
        · obtain ⟨behind, -, all⟩ := bind_ok succeeded
          cases all
          rintro ⟨⟩
          exact (scanToken_legible scan).elim

theorem finish_sourced {cursor : Cursor} {lexemes : List Lexeme}
    (succeeded : finish cursor = .ok lexemes) : Sourced (lexemes.map Lexeme.token) := by
  unfold finish at succeeded
  dsimp only at succeeded
  split at succeeded
  · cases succeeded
    have nothing : Sourced [] := trivial
    have closing := nothing.dedents cursor.blocks.length
    rw [List.append_nil] at closing
    rw [List.map_append, List.map_map, Function.comp_def, List.map_const']
    split
    · exact closing.newline
    · exact closing
  · cases succeeded

theorem lexFrom_sourced {cursor : Cursor} {lineStart : Bool} {chars : List Char} :
    ∀ {lexemes : List Lexeme}, lexFrom cursor lineStart chars = .ok lexemes →
      Sourced (lexemes.map Lexeme.token) := by
  fun_induction lexFrom cursor lineStart chars
  case case1 | case5 => exact finish_sourced
  case case3 | case9 | case10 => nofun
  case case2 ih | case6 ih | case8 ih => exact ih
  case case4 going _ _ _ layout ih =>
    intro lexemes succeeded
    obtain ⟨behind, read, all⟩ := bind_ok succeeded
    cases all
    rw [← List.dropWhile_idempotent isLineBlank] at going
    rw [List.map_append, List.map_map, Function.comp_def, List.map_id']
    exact (ih read).marks layout (lexFrom_head going read)
  case case7 ih =>
    intro lexemes succeeded
    obtain ⟨behind, read, all⟩ := bind_ok succeeded
    cases all
    exact (ih read).newline
  case case11 scan _ _ _ ih =>
    intro lexemes succeeded
    obtain ⟨behind, read, all⟩ := bind_ok succeeded
    cases all
    exact (ih read).cons_of_legible (scanToken_legible scan)

/-- What a source is read as could be written. -/
theorem lex_sourced {source : String} {lexemes : List Lexeme} (succeeded : lex source = .ok lexemes) :
    Sourced (lexemes.map Lexeme.token) :=
  lexFrom_sourced succeeded

end Stagecraft.Script
