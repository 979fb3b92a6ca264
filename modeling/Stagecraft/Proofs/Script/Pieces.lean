import Stagecraft.Proofs.Script.Lines

/-!
Pieces: the lexer cuts a source into pieces. Each piece is passed over or becomes lexemes with its place. What is
passed over are blanks, ends of lines and comments, and lines that start with a null character: only such a line is
dropped though it may say something.
-/

namespace Stagecraft.Script

open Text (Span byteSize)

def AtLineStart (before : List Char) : Prop := Blank (before.reverse.takeWhile (· ≠ '\n'))

/-- What becomes of a piece of the source between `before` and `behind`: the tokens that the lexer makes of it, and
the blocks that are open then. -/
inductive Piece : (blocks : List Nat) → (before piece behind : List Char) → List Token → (inner : List Nat) → Prop
  | blank {blocks : List Nat} {before behind : List Char} {c : Char} (blank : c ∈ [' ', '\t', '\r', '\n']) :
      Piece blocks before [c] behind [] blocks
  | comment {blocks : List Nat} {before text behind : List Char} (inside : '\n' ∉ text) :
      Piece blocks before ('#' :: text) behind [] blocks
  | veiled {blocks : List Nat} {before text behind : List Char} (starts : AtLineStart before)
      (inside : '\n' ∉ text) : Piece blocks before ('\x00' :: text) behind [] blocks
  | marks {blocks inner : List Nat} {before blanks behind : List Char} {marks : List Token} (blank : Blank blanks)
      (layout : layoutMarks? (indentWidth blanks) blocks = some (marks, inner)) :
      Piece blocks before blanks behind marks inner
  | newline {blocks : List Nat} {before behind : List Char} : Piece blocks before ['\n'] behind [.newline] blocks
  | token {blocks : List Nat} {before text behind : List Char} {c : Char} {token : Token} (opens : Opens c)
      (scan : scanToken c (text ++ behind) = .ok (token, text.length)) :
      Piece blocks before (c :: text) behind [token] blocks

def placed (before piece : List Char) (token : Token) : Lexeme := ⟨token, ⟨byteSize before, byteSize (before ++ piece)⟩⟩

/-- The characters behind `before` fall into pieces, which become these lexemes. The end of the source completes a
line and ends the open blocks. -/
inductive Pieces : (blocks : List Nat) → (before chars : List Char) → List Lexeme → Prop
  | done {blocks : List Nat} {before : List Char} {marks : List Token}
      (layout : ∀ mark ∈ marks, mark ∈ [.newline, .dedent]) : Pieces blocks before [] (marks.map (placed before []))
  | more {blocks inner : List Nat} {before piece behind : List Char} {tokens : List Token} {lexemes : List Lexeme}
      (here : Piece blocks before piece behind tokens inner) (rest : Pieces inner (before ++ piece) behind lexemes) :
      Pieces blocks before (piece ++ behind) (tokens.map (placed before piece) ++ lexemes)

/-! ### The lexer cuts pieces -/

theorem atLineStart_nil : AtLineStart [] := nofun

theorem atLineStart_newline (before : List Char) : AtLineStart (before ++ ['\n']) := by
  unfold AtLineStart
  rw [List.reverse_append]
  exact nofun

theorem AtLineStart.blank {before text : List Char} (starts : AtLineStart (before ++ text)) (inside : '\n' ∉ text) :
    Blank text := by
  have within : ∀ c ∈ text.reverse, decide (c ≠ '\n') = true := by
    intro c member
    exact decide_eq_true fun line => inside (line ▸ List.mem_reverse.mp member)
  unfold AtLineStart at starts
  rw [List.reverse_append, List.takeWhile_append_of_pos within] at starts
  exact fun c member => starts c (List.mem_append_left _ (List.mem_reverse.mpr member))

theorem AtLineStart.append {before blanks : List Char} (starts : AtLineStart before) (blank : Blank blanks) :
    AtLineStart (before ++ blanks) := by
  have within : ∀ c ∈ blanks.reverse, decide (c ≠ '\n') = true := by
    intro c member
    refine decide_eq_true fun line => ?_
    have absent := blank c (List.mem_reverse.mp member)
    exact absurd (line ▸ absent) (by decide)
  unfold AtLineStart at *
  rw [List.reverse_append, List.takeWhile_append_of_pos within]
  intro c member
  rcases List.mem_append.mp member with here | front
  · exact blank c (List.mem_reverse.mp here)
  · exact starts c front

theorem blank_takeWhile (chars : List Char) : Blank (chars.takeWhile isLineBlank) :=
  fun c member => (isLineBlank_iff c).mp (List.mem_takeWhile_imp member)

theorem not_mem_takeWhile_line (chars : List Char) : '\n' ∉ chars.takeWhile (· ≠ '\n') := by
  intro member
  have inside := List.mem_takeWhile_imp member
  exact of_decide_eq_true inside rfl

theorem eq_newline_of_dropWhile {chars more : List Char} {c : Char}
    (shape : chars.dropWhile (· ≠ '\n') = c :: more) : c = '\n' := by
  have present : chars.dropWhile (· ≠ '\n') ≠ [] := shape ▸ List.cons_ne_nil c more
  have outside := List.head_dropWhile_not (· ≠ '\n') present
  simp only [shape, List.head_cons] at outside
  simpa using outside

namespace Pieces

variable {blocks : List Nat} {before behind : List Char} {lexemes : List Lexeme}

theorem passed {piece : List Char} (here : Piece blocks before piece behind [] blocks)
    (rest : Pieces blocks (before ++ piece) behind lexemes) : Pieces blocks before (piece ++ behind) lexemes :=
  .more here rest

theorem blanks {blanks : List Char} (blank : Blank blanks) (rest : Pieces blocks (before ++ blanks) behind lexemes) :
    Pieces blocks before (blanks ++ behind) lexemes := by
  induction blanks generalizing before with
  | nil =>
    rw [List.append_nil] at rest
    exact rest
  | cons c others ih =>
    obtain ⟨here, more⟩ := List.forall_mem_cons.mp blank
    rw [← List.singleton_append, ← List.append_assoc] at rest
    change Pieces blocks before ([c] ++ (others ++ behind)) lexemes
    exact passed (.blank (List.mem_append_left ['\n'] here)) (ih more rest)

theorem afterBlanks {chars more : List Char} (shape : chars.dropWhile isLineBlank = more)
    (rest : Pieces blocks (before ++ chars.takeWhile isLineBlank) more lexemes) :
    Pieces blocks before chars lexemes := by
  have whole : chars.takeWhile isLineBlank ++ more = chars := shape ▸ List.takeWhile_append_dropWhile
  rw [← whole]
  exact .blanks (blank_takeWhile chars) rest

/-- A line that is passed over as a whole: it is empty, a comment, or hidden. -/
theorem idleLine {left : List Char} (starts : AtLineStart before) (idle : endsLine left = true)
    (rest : Pieces blocks (before ++ left.takeWhile (· ≠ '\n') ++ (left.dropWhile (· ≠ '\n')).take 1)
      ((left.dropWhile (· ≠ '\n')).drop 1) lexemes) : Pieces blocks before left lexemes := by
  have ended : Pieces blocks (before ++ left.takeWhile (· ≠ '\n')) (left.dropWhile (· ≠ '\n')) lexemes := by
    cases shape : left.dropWhile (· ≠ '\n') with
    | nil =>
      rw [shape, List.take_nil, List.drop_nil, List.append_nil] at rest
      exact rest
    | cons c more =>
      obtain rfl := eq_newline_of_dropWhile shape
      rw [shape] at rest
      have line : Piece blocks (before ++ left.takeWhile (· ≠ '\n')) ['\n'] more [] blocks := .blank (by decide)
      exact .passed line rest
  cases left with
  | nil =>
    rw [List.takeWhile_nil, List.append_nil] at ended
    exact ended
  | cons c others =>
    have whole := List.takeWhile_append_dropWhile (p := fun d => decide (d ≠ '\n')) (l := others)
    have inside := not_mem_takeWhile_line others
    have mute : c = '\n' ∨ c = '#' ∨ c = '\x00' := by simpa [endsLine, or_assoc] using idle
    rcases mute with rfl | rfl | rfl
    · rw [List.takeWhile_cons_of_neg (by decide), List.append_nil] at ended
      exact ended
    · have cut : Pieces blocks before (('#' :: others.takeWhile (· ≠ '\n')) ++ others.dropWhile (· ≠ '\n')) lexemes :=
        .passed (.comment inside) ended
      rwa [List.cons_append, whole] at cut
    · have cut : Pieces blocks before (('\x00' :: others.takeWhile (· ≠ '\n')) ++ others.dropWhile (· ≠ '\n'))
          lexemes := .passed (.veiled starts inside) ended
      rwa [List.cons_append, whole] at cut

end Pieces

theorem Cursor.pass_offset {cursor : Cursor} {before : List Char} (here : cursor.offset = byteSize before)
    (chars : List Char) : (cursor.pass chars).offset = byteSize (before ++ chars) := by
  rw [Text.byteSize_append, ← here]
  rfl

theorem finish_pieces {cursor : Cursor} {before : List Char} (here : cursor.offset = byteSize before)
    {lexemes : List Lexeme} (finished : finish cursor = .ok lexemes) : Pieces cursor.blocks before [] lexemes := by
  unfold finish at finished
  dsimp only at finished
  split at finished
  · cases finished
    have place : placed before [] = fun token => ⟨token, ⟨cursor.offset, cursor.offset⟩⟩ := by
      funext token
      rw [placed, List.append_nil, here]
    have dedents : ∀ mark ∈ cursor.blocks.map fun _ => Token.dedent, mark ∈ [Token.newline, .dedent] := by
      intro mark member
      obtain ⟨_, -, rfl⟩ := List.mem_map.mp member
      decide
    split
    · have closing : ∀ mark ∈ Token.newline :: cursor.blocks.map fun _ => Token.dedent,
          mark ∈ [Token.newline, .dedent] := List.forall_mem_cons.mpr ⟨by decide, dedents⟩
      have pieces : Pieces cursor.blocks before [] _ := .done closing
      rwa [place, List.map_cons, List.map_map] at pieces
    · have pieces : Pieces cursor.blocks before [] _ := .done dedents
      rwa [place, List.map_map] at pieces
  · cases finished

/-- The lexer cuts what is left of a source into pieces. -/
theorem pieces_of_lexFrom {cursor : Cursor} {lineStart : Bool} {chars : List Char} :
    ∀ {lexemes : List Lexeme} {before : List Char}, lexFrom cursor lineStart chars = .ok lexemes →
      cursor.offset = byteSize before → (lineStart = true → chars ≠ [] → AtLineStart before) →
      Pieces cursor.blocks before chars lexemes := by
  have within {claim : Prop} : false = true → claim := (absurd · Bool.false_ne_true)
  fun_induction lexFrom cursor lineStart chars
  case case1 cursor lineStart chars empty =>
    intro lexemes before finished here _
    rw [List.isEmpty_iff.mp empty]
    exact finish_pieces here finished
  case case2 cursor chars present after ends line left ih =>
    intro lexemes before succeeded here starts
    have begins := (starts rfl (mt List.isEmpty_iff.mpr present)).append (blank_takeWhile chars)
    refine .afterBlanks rfl (.idleLine begins ends ?_)
    refine ih succeeded (Cursor.pass_offset (Cursor.pass_offset (Cursor.pass_offset here _) _) _) fun _ more => ?_
    cases shape : left with
    | nil =>
      rw [shape] at more
      exact absurd rfl more
    | cons c others =>
      obtain rfl := eq_newline_of_dropWhile shape
      change AtLineStart (_ ++ left.take 1)
      rw [shape]
      exact atLineStart_newline _
  case case4 cursor chars present after going span marks inner layout ih =>
    intro lexemes before succeeded here starts
    obtain ⟨behind, read, all⟩ := bind_ok succeeded
    cases all
    have place : span = ⟨byteSize before, byteSize (before ++ chars.takeWhile isLineBlank)⟩ := by
      rw [← Cursor.pass_offset here, ← here]
    have rest := ih read (Cursor.pass_offset here _) within
    have pieces := Pieces.more (.marks (blank_takeWhile chars) layout) rest
    rw [List.takeWhile_append_dropWhile] at pieces
    rw [place]
    exact pieces
  case case5 cursor chars present after other shape =>
    intro lexemes before finished here _
    exact .afterBlanks shape (finish_pieces (Cursor.pass_offset here _) finished)
  case case6 cursor chars present after other rest shape ih =>
    intro lexemes before succeeded here _
    have whole := List.takeWhile_append_dropWhile (p := fun d => decide (d ≠ '\n')) (l := rest)
    have behind := ih succeeded (Cursor.pass_offset (Cursor.pass_offset (Cursor.pass_offset here _) _) _) within
    rw [List.append_assoc, List.singleton_append] at behind
    have pieces := Pieces.passed (.comment (not_mem_takeWhile_line rest)) behind
    rw [List.cons_append, whole] at pieces
    exact .afterBlanks shape pieces
  case case7 cursor chars present after other rest closed shape _ next ih =>
    intro lexemes before succeeded here _
    obtain ⟨behind, read, all⟩ := bind_ok succeeded
    cases all
    have rest := ih read (Cursor.pass_offset (Cursor.pass_offset here _) _) fun _ _ => atLineStart_newline _
    have pieces := Pieces.more .newline rest
    rw [List.map_singleton, List.singleton_append, List.singleton_append, placed,
      ← Cursor.pass_offset (Cursor.pass_offset here _), ← Cursor.pass_offset here] at pieces
    exact .afterBlanks shape pieces
  case case8 cursor chars present after other rest opened shape _ next ih =>
    intro lexemes before succeeded here _
    have behind := ih succeeded (Cursor.pass_offset (Cursor.pass_offset here _) _) within
    have pieces := Pieces.passed (.blank (by decide)) behind
    exact .afterBlanks shape pieces
  case case11 cursor chars present after other c rest shape comment newline token length scan next inner counts ih =>
    intro lexemes before succeeded here _
    obtain ⟨behind, read, all⟩ := bind_ok succeeded
    cases all
    rw [countParens?_eq] at counts
    obtain ⟨short, -⟩ := scanToken_level scan counts
    have text := List.take_append_drop length rest
    have size : (rest.take length).length = length := List.length_take_of_le short
    have later := ih read (Cursor.pass_offset (Cursor.pass_offset here _) _) within
    have cut : scanToken c (rest.take length ++ rest.drop length) = .ok (token, (rest.take length).length) := by
      rw [text, size, scan]
    have pieces := Pieces.more (.token (opens_of_scanToken shape comment newline scan) cut) later
    rw [List.cons_append, text, List.map_singleton, List.singleton_append, placed,
      ← Cursor.pass_offset (Cursor.pass_offset here _), ← Cursor.pass_offset here] at pieces
    exact .afterBlanks shape pieces
  case case3 | case9 | case10 =>
    intro _ _ failed
    cases failed

theorem pieces_of_lex {source : String} {lexemes : List Lexeme} (read : lex source = .ok lexemes) :
    Pieces [] [] source.toList lexemes :=
  pieces_of_lexFrom read rfl fun _ _ => atLineStart_nil

/-! ### What is passed over -/

def Outside (lexemes : List Lexeme) (offset : Nat) : Prop :=
  ∀ lexeme ∈ lexemes, ¬(lexeme.span.start ≤ offset ∧ offset < lexeme.span.stop)

instance (lexemes : List Lexeme) (offset : Nat) : Decidable (Outside lexemes offset) :=
  inferInstanceAs (Decidable (∀ _ ∈ _, _))

/-- The character `c` behind `before` belongs to a comment: it is a `#` outside all lexemes, or behind one on its
line. -/
def Commented (lexemes : List Lexeme) (before : List Char) (c : Char) : Prop :=
  ∃ front text, before ++ [c] = front ++ '#' :: text ∧ '\n' ∉ text ∧ Outside lexemes (byteSize front)

/-- The character `c` behind `before` is a null character at the start of a line, or behind one on its line. -/
def Veiled (before : List Char) (c : Char) : Prop :=
  ∃ front text, before ++ [c] = front ++ '\x00' :: text ∧ '\n' ∉ text ∧ AtLineStart front

/-- Where no lexeme covers the character `c` behind `before`, nothing is lost. -/
def Negligible (lexemes : List Lexeme) (before : List Char) (c : Char) : Prop :=
  c ∈ [' ', '\t', '\r', '\n'] ∨ Commented lexemes before c

theorem not_mem_of_scanToken {c : Char} {text behind : List Char} {token : Token}
    (scan : scanToken c (text ++ behind) = .ok (token, text.length)) : '\n' ∉ text := by
  intro member
  obtain ⟨front, more, rfl⟩ := List.append_of_mem member
  have ends : EndsLine ('\n' :: more ++ behind) := by
    rintro _ ⟨⟩
    rfl
  rw [List.append_assoc, ends.scanToken_append] at scan
  -- One open parenthesis more than needed, so that the token can be counted whatever it is.
  obtain ⟨inner, counts⟩ : ∃ inner, depthBehind 1 token = some inner := by
    unfold depthBehind Cursor.countParens?
    split
    · exact ⟨2, rfl⟩
    · exact ⟨0, rfl⟩
    · exact ⟨1, rfl⟩
  obtain ⟨short, -⟩ := scanToken_level scan counts
  rw [List.length_append, List.length_cons] at short
  omega

namespace Pieces

variable {blocks : List Nat} {before chars : List Char} {lexemes : List Lexeme}

/-- Nothing starts in front of what is cut. -/
theorem le_start (pieces : Pieces blocks before chars lexemes) :
    ∀ lexeme ∈ lexemes, byteSize before ≤ lexeme.span.start := by
  induction pieces with
  | done =>
    intro lexeme member
    obtain ⟨mark, -, rfl⟩ := List.mem_map.mp member
    exact Nat.le_refl _
  | more here rest ih =>
    refine List.forall_mem_append.mpr ⟨fun lexeme member => ?_, fun lexeme member => ?_⟩
    · obtain ⟨token, -, rfl⟩ := List.mem_map.mp member
      exact Nat.le_refl _
    · have later := ih lexeme member
      rw [Text.byteSize_append] at later
      omega

theorem outside (pieces : Pieces blocks before chars lexemes) {offset : Nat} (ahead : offset < byteSize before) :
    Outside lexemes offset := by
  intro lexeme member covers
  have start := pieces.le_start lexeme member
  omega

end Pieces

theorem outside_placed (before piece behind : List Char) (tokens : List Token) :
    Outside (tokens.map (placed before piece)) (byteSize (before ++ piece ++ behind)) := by
  intro lexeme member covers
  obtain ⟨token, -, rfl⟩ := List.mem_map.mp member
  have past := covers.2
  rw [Text.byteSize_append (before ++ piece)] at past
  exact absurd past (by simp [placed])

theorem byteSize_lt_append (before : List Char) {more : List Char} (present : more ≠ []) :
    byteSize before < byteSize (before ++ more) := by
  have wide := Text.byteSize_pos present
  rw [Text.byteSize_append]
  omega

theorem append_cases {α : Type} {first second within after : List α} {c : α}
    (split : first ++ second = within ++ c :: after) :
    (∃ more, first = within ++ c :: more) ∨ ∃ later, within = first ++ later ∧ second = later ++ c :: after := by
  rcases List.append_eq_append_iff.mp split with ⟨later, same, left⟩ | ⟨inside, same, left⟩
  · exact .inr ⟨later, same, left⟩
  · cases inside with
    | nil =>
      rw [List.append_nil] at same
      rw [List.nil_append] at left
      exact .inr ⟨[], by rw [same, List.append_nil], by rw [List.nil_append, ← left]⟩
    | cons d more =>
      obtain ⟨rfl, -⟩ := List.cons.inj left
      exact .inl ⟨more, same⟩

/-- A character that becomes part of no lexeme is a blank, or on a line behind one of the signs that hide it. -/
theorem Piece.passes {blocks inner : List Nat} {before piece behind within more : List Char} {tokens : List Token}
    {c : Char} (here : Piece blocks before piece behind tokens inner) (inside : piece = within ++ c :: more) :
    c ∈ [' ', '\t', '\r', '\n'] ∨ tokens ≠ [] ∨ tokens = [] ∧ ∃ sign text, within ++ [c] = sign :: text ∧
      '\n' ∉ text ∧ (sign = '#' ∨ sign = '\x00' ∧ AtLineStart before) := by
  have cut {sign : Char} {text : List Char} (line : '\n' ∉ text) (same : sign :: text = within ++ c :: more) :
      ∃ others, within ++ [c] = sign :: others ∧ '\n' ∉ others := by
    have starts : within ++ [c] <+: sign :: text := ⟨more, by rw [same, List.append_assoc, List.singleton_append]⟩
    rcases List.prefix_cons_iff.mp starts with none | ⟨others, taken, left⟩
    · exact absurd none (List.append_ne_nil_of_right_ne_nil _ (List.cons_ne_nil c []))
    · exact ⟨others, taken, fun member => line (left.subset member)⟩
  have member : c ∈ piece := inside ▸ List.mem_append_right within (List.mem_cons_self ..)
  cases here with
  | blank blank => exact .inl (List.mem_singleton.mp member ▸ blank)
  | comment line =>
    obtain ⟨others, taken, left⟩ := cut line inside
    exact .inr (.inr ⟨rfl, '#', others, taken, left, .inl rfl⟩)
  | veiled starts line =>
    obtain ⟨others, taken, left⟩ := cut line inside
    exact .inr (.inr ⟨rfl, '\x00', others, taken, left, .inr ⟨rfl, starts⟩⟩)
  | marks blank _ => exact .inl (List.mem_append_left ['\n'] (blank c member))
  | newline => exact .inr (.inl (List.cons_ne_nil _ _))
  | token _ _ => exact .inr (.inl (List.cons_ne_nil _ _))

namespace Pieces

variable {blocks : List Nat} {before chars : List Char} {lexemes : List Lexeme}

theorem accounts (pieces : Pieces blocks before chars lexemes) {within after : List Char} {c : Char}
    (split : chars = within ++ c :: after) (outside : Outside lexemes (byteSize (before ++ within))) :
    c ∈ [' ', '\t', '\r', '\n'] ∨ ∃ front sign text, within ++ [c] = front ++ sign :: text ∧ '\n' ∉ text ∧
      (sign = '#' ∧ Outside lexemes (byteSize (before ++ front)) ∨
        sign = '\x00' ∧ AtLineStart (before ++ front)) := by
  induction pieces generalizing within with
  | done => exact absurd split.symm (List.append_ne_nil_of_right_ne_nil _ (List.cons_ne_nil c after))
  | @more blocks inner before piece behind tokens lexemes here rest ih =>
    rcases append_cases split with ⟨more, inside⟩ | ⟨later, rfl, left⟩
    · rcases here.passes inside with blank | some | ⟨rfl, sign, text, cut, line, hides⟩
      · exact .inl blank
      · obtain ⟨token, others, rfl⟩ := List.exists_cons_of_ne_nil some
        have within_ : byteSize (before ++ within) < byteSize (before ++ piece) := by
          rw [inside, ← List.append_assoc]
          exact byteSize_lt_append _ (List.cons_ne_nil c more)
        have start : byteSize before ≤ byteSize (before ++ within) := by
          rw [Text.byteSize_append]
          exact Nat.le_add_right _ _
        exact absurd ⟨start, within_⟩ (outside _ (List.mem_cons_self ..))
      · refine .inr ⟨[], sign, text, cut, line, ?_⟩
        rw [List.append_nil]
        refine hides.imp (fun comment => ⟨comment, ?_⟩) id
        refine rest.outside (byteSize_lt_append before ?_)
        rw [inside]
        exact List.append_ne_nil_of_right_ne_nil _ (List.cons_ne_nil c more)
    · rw [← List.append_assoc] at outside
      have behind_ : Outside lexemes (byteSize (before ++ piece ++ later)) :=
        fun lexeme member => outside lexeme (List.mem_append_right _ member)
      refine (ih left behind_).imp_right ?_
      rintro ⟨front, sign, text, cut, line, hides⟩
      refine ⟨piece ++ front, sign, text, ?_, line, ?_⟩
      · rw [List.append_assoc, cut, List.append_assoc]
      · rw [← List.append_assoc]
        refine hides.imp_left (And.imp_right fun comment => ?_)
        exact List.forall_mem_append.mpr ⟨outside_placed before piece front tokens, comment⟩

theorem null_outside (pieces : Pieces blocks before chars lexemes) {within after : List Char}
    (split : chars = within ++ '\x00' :: after) (starts : AtLineStart (before ++ within)) :
    Outside lexemes (byteSize (before ++ within)) := by
  induction pieces generalizing within with
  | done => exact absurd split.symm (List.append_ne_nil_of_right_ne_nil _ (List.cons_ne_nil _ after))
  | @more blocks inner before piece behind tokens lexemes here rest ih =>
    rcases append_cases split with ⟨more, inside⟩ | ⟨later, rfl, left⟩
    · have ahead : Outside lexemes (byteSize (before ++ within)) := by
        refine rest.outside ?_
        rw [inside, ← List.append_assoc]
        exact byteSize_lt_append _ (List.cons_ne_nil _ more)
      -- What becomes lexemes holds no null character, or starts with something that is no blank.
      have none (member : '\x00' ∉ piece) : False :=
        member (inside ▸ List.mem_append_right within (List.mem_cons_self ..))
      cases here with
      | blank => exact ahead
      | comment => exact ahead
      | veiled => exact ahead
      | marks blank _ => exact (none fun member => absurd (blank _ member) (by decide)).elim
      | newline => exact (none (by decide)).elim
      | @token _ _ _ c _ opens scan =>
        cases within with
        | nil =>
          obtain ⟨rfl, -⟩ := List.cons.inj inside
          exact absurd opens (by decide)
        | cons d others =>
          obtain ⟨rfl, same⟩ := List.cons.inj inside
          have line : '\n' ∉ c :: others := by
            rintro member
            rcases List.mem_cons.mp member with rfl | member
            · exact absurd opens (by decide)
            · exact not_mem_of_scanToken scan (same ▸ List.mem_append_left _ member)
          have blank := starts.blank line c (List.mem_cons_self ..)
          have visible := isLineBlank_of_opens opens
          rw [(isLineBlank_iff c).mpr blank] at visible
          cases visible
    · rw [← List.append_assoc] at starts ⊢
      exact List.forall_mem_append.mpr ⟨outside_placed before piece later tokens, ih left starts⟩

end Pieces

theorem AtLineStart.not_commented {before : List Char} (starts : AtLineStart before) {c : Char} (other : c ≠ '#')
    {lexemes : List Lexeme} : ¬Commented lexemes before c := by
  rintro ⟨front, text, cut, line, -⟩
  rcases append_cases cut with ⟨more, rfl⟩ | ⟨later, -, last⟩
  · rw [List.append_assoc, List.cons_append] at cut
    obtain ⟨-, rfl⟩ := List.cons.inj (List.append_cancel_left cut)
    have inside : '\n' ∉ '#' :: more := by
      rintro member
      rcases List.mem_cons.mp member with sign | member
      · cases sign
      · exact line (List.mem_append_left _ member)
    exact absurd (starts.blank inside '#' (List.mem_cons_self ..)) (by decide)
  · cases later with
    | nil => exact other (List.cons.inj last).1
    | cons d others =>
      exact absurd (List.cons.inj last).2.symm (List.append_ne_nil_of_right_ne_nil _ (List.cons_ne_nil _ _))

def Lossless (source : String) (lexemes : List Lexeme) : Prop :=
  ∀ before c after, source.toList = before ++ c :: after → Outside lexemes (byteSize before) →
    Negligible lexemes before c

/-- Of a source that is read, whatever is outside the lexemes is negligible, or behind a null character at the start
of a line. So nothing is lost exactly if no line starts with one. -/
theorem lex_accounts {source : String} {lexemes : List Lexeme} (read : lex source = .ok lexemes) :
    (∀ before c after, source.toList = before ++ c :: after → Outside lexemes (byteSize before) →
      Negligible lexemes before c ∨ Veiled before c) ∧
    (Lossless source lexemes ↔ ¬∃ before after, source.toList = before ++ '\x00' :: after ∧ AtLineStart before) := by
  have pieces := pieces_of_lex read
  have accounts : ∀ before c after, source.toList = before ++ c :: after → Outside lexemes (byteSize before) →
      Negligible lexemes before c ∨ Veiled before c := by
    intro before c after split outside
    rcases pieces.accounts split outside with blank | ⟨front, sign, text, cut, line, ⟨rfl, apart⟩ | ⟨rfl, starts⟩⟩
    · exact .inl (.inl blank)
    · exact .inl (.inr ⟨front, text, cut, line, apart⟩)
    · exact .inr ⟨front, text, cut, line, starts⟩
  refine ⟨accounts, fun lossless => ?_, fun none before c after split outside => ?_⟩
  · rintro ⟨before, after, split, starts⟩
    rcases lossless before '\x00' after split (pieces.null_outside split starts) with blank | comment
    · exact absurd blank (by decide)
    · exact starts.not_commented (by decide) comment
  · refine (accounts before c after split outside).resolve_right ?_
    rintro ⟨front, text, cut, -, starts⟩
    refine none ⟨front, text ++ after, ?_, starts⟩
    rw [split, ← List.singleton_append, ← List.append_assoc, cut, List.append_assoc, List.cons_append]

theorem lit_torch_lossless :
    let lexemes : List Lexeme := [⟨.ident "torch", ⟨0, 5⟩⟩, ⟨.text "#1", ⟨6, 10⟩⟩, ⟨.newline, ⟨18, 19⟩⟩]
    lex "torch \"#1\" # # lit\n" = .ok lexemes ∧ Lossless "torch \"#1\" # # lit\n" lexemes := by
  intro lexemes
  have read : lex "torch \"#1\" # # lit\n" = .ok lexemes := by decide +kernel
  refine ⟨read, (lex_accounts read).2.mpr ?_⟩
  rintro ⟨before, after, split, -⟩
  have member : '\x00' ∈ "torch \"#1\" # # lit\n".toList := split ▸ List.mem_append_right _ (List.mem_cons_self ..)
  exact absurd member (by decide +kernel)

/-- Behind a null character a declaration is dropped, and the source is read as if it were empty. -/
theorem veiled_torch_is_lost :
    lex "\x00torch\n" = .ok [] ∧ ¬Lossless "\x00torch\n" [] := by
  refine ⟨by decide +kernel, fun lossless => ?_⟩
  rcases lossless ['\x00'] 't' "orch\n".toList (by decide +kernel) nofun with blank | ⟨front, text, cut, -, -⟩
  · exact absurd blank (by decide)
  · have member : '#' ∈ ['\x00'] ++ ['t'] := cut ▸ List.mem_append_right _ (List.mem_cons_self ..)
    exact absurd member (by decide)

end Stagecraft.Script
