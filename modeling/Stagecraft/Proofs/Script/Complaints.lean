import Stagecraft.Proofs.Script.Sites
import Stagecraft.Proofs.Script.Spans

/-!
Complaints: what a script that cannot be parsed is told. The text that was found is that of a token, or the end of the
source, and the line and column are where it starts. Where a token is looked up by the offset at which it starts, no
mark of the layout is taken for it.
-/

namespace Stagecraft.Script

open Text (Boundary byteSize lineColumn)

/-! ### Tokens that start where a mark stands -/

theorem blocksOpen_dedents (before piece : List Char) (closed : Nat) :
    blocksOpen ((List.replicate closed .dedent).map (placed before piece)) = -closed := by
  induction closed with
  | zero => rfl
  | succ closed ih =>
    rw [List.replicate_succ, List.map_cons, blocksOpen, ih]
    change -1 + -(closed : Int) = _
    omega

theorem Piece.level {blocks inner : List Nat} {before piece behind : List Char} {tokens : List Token}
    (here : Piece blocks before piece behind tokens inner) :
    (inner.length : Int) = blocks.length + blocksOpen (tokens.map (placed before piece)) := by
  cases here with
  | blank | comment | veiled | newline => exact (Int.add_zero _).symm
  | marks _ layout =>
    rcases layoutMarks?_counts layout with ⟨rfl, count⟩ | ⟨closed, rfl, count⟩
    · rw [count]
      rfl
    · rw [blocksOpen_dedents]
      omega
  | token _ scan =>
    have plain := Token.weight_of_not_isMark (scanToken_legible scan).not_isMark
    rw [List.map_singleton, blocksOpen_singleton, placed, plain, Int.add_zero]

theorem Piece.closes {blocks inner : List Nat} {before behind : List Char} {tokens : List Token}
    (here : Piece blocks before [] behind tokens inner) (indented : Indented blocks) :
    inner = [] ∧ tokens = List.replicate blocks.length .dedent := by
  cases here with
  | marks _ layout =>
    have flat : indentWidth [] = 0 := rfl
    rw [flat, layoutMarks?, if_neg (Nat.not_lt_zero _), indented.closeBlocks] at layout
    cases layout
    exact ⟨rfl, rfl⟩

theorem Piece.indented {blocks inner : List Nat} {before piece behind : List Char} {tokens : List Token}
    (here : Piece blocks before piece behind tokens inner) (indented : Indented blocks) : Indented inner := by
  cases here with
  | marks _ layout => exact indented.layout layout
  | blank | comment | veiled | newline | token => exact indented

namespace Pieces

variable {blocks : List Nat} {before chars : List Char} {lexemes : List Lexeme}

end Pieces

end Stagecraft.Script
