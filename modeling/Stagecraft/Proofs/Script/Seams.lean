import Stagecraft.Proofs.Script.Legibility

/-!
Seams: one source behind another. Where the first one ends with a line, nothing is read across the seam: its
open blocks are closed by the first line of the second one, and all tokens are those of the two by themselves.
-/

namespace Stagecraft.Script

/-! ### What is read, wherever it stands -/

/-- How characters are read as tokens, wherever in a source they stand. -/
inductive Tokenizes : (blocks : List Nat) → (depth : Nat) → (midLine lineStart : Bool) → List Char →
    List Token → Prop
  | done (blocks : List Nat) (midLine lineStart : Bool) : Tokenizes blocks 0 midLine lineStart []
      ((if midLine then [.newline] else []) ++ List.replicate blocks.length .dedent)
  | trailing {chars : List Char} (blocks : List Nat) (midLine : Bool)
      (blank : chars.dropWhile isLineBlank = []) : Tokenizes blocks 0 midLine false chars
        ((if midLine then [.newline] else []) ++ List.replicate blocks.length .dedent)
  | blank {blocks : List Nat} {depth : Nat} {midLine : Bool} {chars : List Char} {tokens : List Token}
      (present : chars ≠ []) (ends : endsLine (chars.dropWhile isLineBlank) = true)
      (rest : Tokenizes blocks depth midLine true
        (((chars.dropWhile isLineBlank).dropWhile (· ≠ '\n')).drop 1) tokens) :
      Tokenizes blocks depth midLine true chars tokens
  | line {blocks inner : List Nat} {depth : Nat} {midLine : Bool} {chars more : List Char} {c : Char}
      {marks tokens : List Token} (shape : chars.dropWhile isLineBlank = c :: more) (opens : Opens c)
      (layout : layoutMarks? (indentWidth (chars.takeWhile isLineBlank)) blocks = some (marks, inner))
      (rest : Tokenizes inner depth midLine false (c :: more) tokens) :
      Tokenizes blocks depth midLine true chars (marks ++ tokens)
  | comment {blocks : List Nat} {depth : Nat} {midLine : Bool} {chars more : List Char}
      {tokens : List Token} (shape : chars.dropWhile isLineBlank = '#' :: more)
      (rest : Tokenizes blocks depth midLine false (more.dropWhile (· ≠ '\n')) tokens) :
      Tokenizes blocks depth midLine false chars tokens
  | newline {blocks : List Nat} {midLine : Bool} {chars more : List Char} {tokens : List Token}
      (shape : chars.dropWhile isLineBlank = '\n' :: more) (rest : Tokenizes blocks 0 false true more tokens) :
      Tokenizes blocks 0 midLine false chars (.newline :: tokens)
  | inside {blocks : List Nat} {depth : Nat} {midLine : Bool} {chars more : List Char}
      {tokens : List Token} (shape : chars.dropWhile isLineBlank = '\n' :: more) (opened : depth ≠ 0)
      (rest : Tokenizes blocks depth midLine false more tokens) :
      Tokenizes blocks depth midLine false chars tokens
  | token {blocks : List Nat} {depth inner length : Nat} {midLine : Bool} {chars more : List Char}
      {c : Char} {token : Token} {tokens : List Token} (shape : chars.dropWhile isLineBlank = c :: more)
      (opens : Opens c) (scan : scanToken c more = .ok (token, length))
      (counts : depthBehind depth token = some inner)
      (rest : Tokenizes blocks inner true false (more.drop length) tokens) :
      Tokenizes blocks depth midLine false chars (token :: tokens)

theorem not_isLineBlank_of_dropWhile {chars more : List Char} {c : Char}
    (shape : chars.dropWhile isLineBlank = c :: more) : isLineBlank c = false := by
  have present : chars.dropWhile isLineBlank ≠ [] := shape ▸ List.cons_ne_nil c more
  have outside := List.head_dropWhile_not isLineBlank present
  simpa [shape] using outside

theorem opens_of_going {chars more : List Char} {c : Char} (shape : chars.dropWhile isLineBlank = c :: more)
    (going : ¬endsLine (c :: more) = true) : Opens c := by
  have visible := not_isLineBlank_of_dropWhile shape
  simp_all [Opens, endsLine, isLineBlank]

theorem opens_of_scanToken {chars more : List Char} {c : Char} {found : Token × Nat}
    (shape : chars.dropWhile isLineBlank = c :: more) (comment : c ≠ '#') (newline : c ≠ '\n')
    (scan : scanToken c more = .ok found) : Opens c := by
  apply opens_of_going shape
  rintro ends
  obtain rfl : c = '\x00' := by simpa [endsLine, comment, newline] using ends
  have nothing : more.head?.bind (Symbol.ofPair? '\x00') = none := by
    cases more <;> rfl
  unfold scanToken at scan
  rw [nothing] at scan
  cases scan

theorem finish_tokens {cursor : Cursor} {lexemes : List Lexeme} (finished : finish cursor = .ok lexemes) :
    cursor.depth = 0 ∧ lexemes.map Lexeme.token =
      (if cursor.midLine then [.newline] else []) ++ List.replicate cursor.blocks.length .dedent := by
  unfold finish at finished
  dsimp only at finished
  split at finished
  · next closed =>
    cases finished
    refine ⟨closed, ?_⟩
    rw [List.map_append, List.map_map, Function.comp_def, List.map_const']
    split <;> rfl
  · cases finished

/-- What the lexer reads is read so wherever it stands. -/
theorem tokenizes_of_lexFrom {cursor : Cursor} {lineStart : Bool} {chars : List Char} :
    ∀ {lexemes : List Lexeme}, lexFrom cursor lineStart chars = .ok lexemes →
      Tokenizes cursor.blocks cursor.depth cursor.midLine lineStart chars (lexemes.map Lexeme.token) := by
  fun_induction lexFrom cursor lineStart chars
  case case1 empty =>
    intro lexemes finished
    obtain ⟨closed, same⟩ := finish_tokens finished
    rw [List.isEmpty_iff.mp empty, closed, same]
    exact .done _ _ _
  case case2 present _ ends _ _ ih =>
    intro lexemes succeeded
    exact .blank (mt List.isEmpty_iff.mpr present) ends (ih succeeded)
  case case4 chars _ _ going _ marks inner layout ih =>
    intro lexemes succeeded
    obtain ⟨behind, read, all⟩ := bind_ok succeeded
    cases all
    rw [List.map_append, List.map_map, Function.comp_def, List.map_id']
    cases shape : chars.dropWhile isLineBlank with
    | nil => exact absurd (shape ▸ rfl) going
    | cons c more =>
      rw [shape] at going ih read
      exact .line shape (opens_of_going shape going) layout (ih read)
  case case5 other shape =>
    intro lexemes finished
    obtain ⟨closed, same⟩ := finish_tokens finished
    obtain rfl : _ = false := Bool.not_eq_true _ ▸ other
    rw [same]
    exact closed ▸ .trailing _ _ shape
  case case6 other rest shape ih =>
    intro lexemes succeeded
    obtain rfl : _ = false := Bool.not_eq_true _ ▸ other
    exact .comment shape (ih succeeded)
  case case7 other rest closed shape _ _ ih =>
    intro lexemes succeeded
    obtain rfl : _ = false := Bool.not_eq_true _ ▸ other
    obtain ⟨behind, read, all⟩ := bind_ok succeeded
    cases all
    exact closed ▸ .newline shape (closed ▸ ih read)
  case case8 other rest opened shape _ _ ih =>
    intro lexemes succeeded
    obtain rfl : _ = false := Bool.not_eq_true _ ▸ other
    exact .inside shape opened (ih succeeded)
  case case11 other c rest shape comment newline token length scan _ inner counts ih =>
    intro lexemes succeeded
    obtain rfl : _ = false := Bool.not_eq_true _ ▸ other
    obtain ⟨behind, read, all⟩ := bind_ok succeeded
    cases all
    rw [countParens?_eq] at counts
    exact .token shape (opens_of_scanToken shape comment newline scan) scan counts (ih read)
  case case3 | case9 | case10 =>
    intro _ failed
    cases failed

theorem finish_ok (offset : Nat) (blocks : List Nat) (midLine : Bool) :
    ∃ lexemes, finish ⟨offset, blocks, 0, midLine⟩ = .ok lexemes ∧ lexemes.map Lexeme.token =
      (if midLine then [.newline] else []) ++ List.replicate blocks.length .dedent := by
  refine ⟨_, rfl, ?_⟩
  rw [List.map_append, List.map_map, Function.comp_def, List.map_const']
  cases midLine <;> rfl

theorem Tokenizes.lexes {blocks : List Nat} {depth : Nat} {midLine lineStart : Bool} {chars : List Char}
    {tokens : List Token} (reads : Tokenizes blocks depth midLine lineStart chars tokens) :
    Lexes blocks depth midLine lineStart chars tokens := by
  induction reads with
  | done blocks midLine lineStart =>
    intro offset
    rw [lexFrom, if_pos List.isEmpty_nil]
    exact finish_ok offset blocks midLine
  | @trailing chars blocks midLine blank =>
    intro offset
    rw [lexFrom]
    split
    · exact finish_ok offset blocks midLine
    · dsimp only
      rw [if_neg Bool.false_ne_true]
      split
      · exact finish_ok _ blocks midLine
      · next shape => exact absurd (blank.symm.trans shape) nofun
  | blank present ends _ ih =>
    intro offset
    rw [lexFrom, if_neg (mt List.isEmpty_iff.mp present)]
    dsimp only
    rw [if_pos rfl, if_pos ends]
    exact ih _
  | @line _ _ _ _ _ _ _ marks _ shape opens layout _ ih =>
    intro offset
    rw [lexFrom_line shape opens layout]
    obtain ⟨lexemes, read, same⟩ := ih _
    dsimp only [Cursor.pass]
    rw [read]
    refine ⟨_, rfl, ?_⟩
    rw [List.map_append, List.map_map, same]
    exact congrArg (· ++ _) (List.map_id marks)
  | @comment _ _ _ chars more _ shape _ ih =>
    intro offset
    rw [lexFrom, if_neg (by rintro empty; rw [List.isEmpty_iff.mp empty] at shape; cases shape)]
    dsimp only
    rw [if_neg Bool.false_ne_true]
    split
    · next empty => exact absurd (shape.symm.trans empty) nofun
    · next same =>
      obtain ⟨rfl, rfl⟩ := List.cons.inj (shape.symm.trans same)
      rw [if_pos rfl]
      exact ih _
  | newline shape _ ih =>
    intro offset
    rw [lexFrom_newline shape rfl]
    obtain ⟨lexemes, read, same⟩ := ih _
    dsimp only [Cursor.pass]
    rw [read]
    exact ⟨_, rfl, congrArg (Token.newline :: ·) same⟩
  | inside shape opened _ ih =>
    intro offset
    rw [lexFrom, if_neg (by rintro empty; rw [List.isEmpty_iff.mp empty] at shape; cases shape)]
    dsimp only
    rw [if_neg Bool.false_ne_true]
    split
    · next empty => exact absurd (shape.symm.trans empty) nofun
    · next same =>
      obtain ⟨rfl, rfl⟩ := List.cons.inj (shape.symm.trans same)
      rw [if_neg (by decide), if_pos rfl, if_neg opened]
      exact ih _
  | token shape opens scan counts _ ih =>
    intro offset
    rw [lexFrom_token shape opens scan ((countParens?_eq _ _).trans counts)]
    obtain ⟨lexemes, read, same⟩ := ih _
    dsimp only [Cursor.pass]
    rw [read]
    exact ⟨_, rfl, congrArg (_ :: ·) same⟩

/-! ### Lines that end -/

def Ended (chars : List Char) : Prop := chars.getLast? = some '\n'

namespace Ended

variable {chars : List Char} {p : Char → Bool}

theorem ne_nil (ended : Ended chars) : chars ≠ [] := by
  rintro rfl
  cases ended

theorem mem (ended : Ended chars) : '\n' ∈ chars := List.mem_of_getLast? ended

theorem one_lt_length {c : Char} (ended : Ended chars) (starts : chars.head? = some c) (other : c ≠ '\n') :
    1 < chars.length := by
  cases chars with
  | nil => cases starts
  | cons d rest =>
    cases starts
    cases rest with
    | nil =>
      cases ended
      exact absurd rfl other
    | cons e rest => exact Nat.succ_lt_succ (Nat.zero_lt_succ rest.length)

theorem tail {c : Char} (ended : Ended (c :: chars)) (other : c ≠ '\n') : Ended chars := by
  cases chars with
  | nil =>
    cases ended
    exact absurd rfl other
  | cons d rest => exact ended

theorem tail_or_nil {c : Char} (ended : Ended (c :: chars)) : chars = [] ∨ Ended chars := by
  cases chars with
  | nil => exact .inl rfl
  | cons d rest => exact .inr ended

theorem dropWhile (ended : Ended chars) (stop : p '\n' = false) : Ended (chars.dropWhile p) := by
  induction chars with
  | nil => exact ended
  | cons c rest ih =>
    rw [List.dropWhile_cons]
    split
    · next taken => exact ih (ended.tail (by rintro rfl; rw [stop] at taken; cases taken))
    · exact ended

theorem dropWhile_append (ended : Ended chars) (stop : p '\n' = false) (more : List Char) :
    (chars ++ more).dropWhile p = chars.dropWhile p ++ more := by
  rw [List.dropWhile_append, if_neg (mt List.isEmpty_iff.mp (ended.dropWhile stop).ne_nil)]

theorem takeWhile_append (ended : Ended chars) (stop : p '\n' = false) (more : List Char) :
    (chars ++ more).takeWhile p = chars.takeWhile p := by
  rw [List.takeWhile_append, if_neg]
  intro whole
  have all := (List.takeWhile_prefix p).eq_of_length whole
  have taken := List.mem_takeWhile_imp (all.symm ▸ ended.mem)
  rw [stop] at taken
  cases taken

theorem drop (ended : Ended chars) {n : Nat} (short : n < chars.length) : Ended (chars.drop n) := by
  rw [Ended, List.getLast?_drop, if_neg (Nat.not_le_of_lt short), ended]

theorem takeWhile_lt (ended : Ended chars) (stop : p '\n' = false) :
    (chars.takeWhile p).length < chars.length := by
  have whole := congrArg List.length (List.takeWhile_append_dropWhile (p := p) (l := chars))
  have left := List.length_pos_of_ne_nil (ended.dropWhile stop).ne_nil
  rw [List.length_append] at whole
  omega

theorem scanNumber_append (ended : Ended chars) (more : List Char) :
    (scanNumber chars).2 < chars.length ∧ scanNumber (chars ++ more) = scanNumber chars := by
  have stop : Char.isDigit '\n' = false := rfl
  have short := ended.takeWhile_lt stop
  have whole := congrArg List.length (List.takeWhile_append_dropWhile (p := Char.isDigit) (l := chars))
  have rest := ended.dropWhile stop
  rw [List.length_append] at whole
  unfold scanNumber
  rw [ended.takeWhile_append stop, ended.dropWhile_append stop]
  cases left : chars.dropWhile Char.isDigit with
  | nil => exact absurd left rest.ne_nil
  | cons c behind =>
    rw [left] at rest whole
    by_cases point : c = '.'
    · subst point
      have fraction := rest.tail (by decide)
      have inside := fraction.takeWhile_lt stop
      simp only [List.cons_append, fraction.takeWhile_append stop]
      rw [List.length_cons] at whole
      refine ⟨?_, trivial⟩
      split
      · exact short
      · dsimp only
        omega
    · rw [List.cons_append]
      split
      · next same => exact absurd (List.cons.inj same).1 point
      · split
        · next same => exact absurd (List.cons.inj same).1 point
        · exact ⟨short, rfl⟩

/-- No token reaches beyond the line. -/
theorem scanToken_append {c : Char} (ended : Ended chars) {token : Token} {length : Nat}
    (scan : scanToken c chars = .ok (token, length)) (more : List Char) :
    length < chars.length ∧ scanToken c (chars ++ more) = .ok (token, length) := by
  have first (more : List Char) : (chars ++ more).head? = chars.head? := by
    rw [List.head?_append_of_ne_nil _ ended.ne_nil]
  unfold scanToken at scan ⊢
  dsimp only at scan ⊢
  split at scan
  · next quote =>
    have within := ended.takeWhile_lt (p := fun d => decide (d ≠ '"' ∧ d ≠ '\n')) (by decide)
    rw [if_pos quote, ended.takeWhile_append (by decide), List.drop_append_of_le_length within.le,
      List.head?_append_of_ne_nil _ (ended.drop within).ne_nil]
    split at scan
    · next closing =>
      cases scan
      have more := (ended.drop within).one_lt_length closing (by decide)
      rw [List.length_drop] at more
      rw [if_pos closing]
      exact ⟨by omega, rfl⟩
    · cases scan
  · next plain =>
    rw [if_neg plain]
    split at scan
    · next digit =>
      rw [if_pos digit]
      have whole : Ended (c :: chars) := by
        obtain ⟨d, rest, rfl⟩ := List.exists_cons_of_ne_nil ended.ne_nil
        exact ended
      obtain ⟨short, same⟩ := whole.scanNumber_append more
      rw [List.cons_append] at same
      rw [same]
      cases scan
      rw [List.length_cons] at short
      have present := List.length_pos_of_ne_nil ended.ne_nil
      exact ⟨by omega, rfl⟩
    · next other =>
      rw [if_neg other]
      split at scan
      · next starts =>
        rw [if_pos starts, ended.takeWhile_append (by decide)]
        cases scan
        exact ⟨ended.takeWhile_lt (by decide), rfl⟩
      · next symbol =>
        rw [if_neg symbol, first]
        split at scan
        · next pair =>
          cases scan
          obtain ⟨d, starts, known⟩ := Option.bind_eq_some_iff.mp pair
          refine ⟨ended.one_lt_length starts ?_, rfl⟩
          rintro rfl
          unfold Symbol.ofPair? at known
          split at known <;> simp_all
        · split at scan
          · cases scan
            exact ⟨List.length_pos_of_ne_nil ended.ne_nil, rfl⟩
          · cases scan

end Ended

theorem ended_drop_one {chars : List Char} (ended : Ended chars) :
    chars.drop 1 = [] ∨ Ended (chars.drop 1) := by
  cases chars with
  | nil => cases ended
  | cons c rest => exact ended.tail_or_nil

/-! ### Two sources -/

def Indented (blocks : List Nat) : Prop := ∀ block ∈ blocks, 0 < block

theorem Indented.layout {width : Nat} {blocks inner : List Nat} {marks : List Token}
    (indented : Indented blocks) (layout : layoutMarks? width blocks = some (marks, inner)) :
    Indented inner := by
  have kept : Indented (closeBlocks width blocks).2 := by
    clear layout
    induction blocks with
    | nil => exact nofun
    | cons block outer ih =>
      unfold closeBlocks
      split
      · exact ih (List.forall_mem_cons.mp indented).2
      · exact indented
  unfold layoutMarks? at layout
  dsimp only at layout
  split at layout
  · next deeper =>
    cases layout
    exact List.forall_mem_cons.mpr ⟨Nat.zero_lt_of_lt deeper, indented⟩
  · split at layout
    · cases layout
      exact kept
    · cases layout

/-- A line that is not indented closes every block. -/
theorem Indented.closeBlocks {blocks : List Nat} (indented : Indented blocks) :
    closeBlocks 0 blocks = (blocks.length, []) := by
  induction blocks with
  | nil => rfl
  | cons block outer ih =>
    obtain ⟨wide, others⟩ := List.forall_mem_cons.mp indented
    rw [Script.closeBlocks, if_pos wide, ih others]
    rfl

theorem Tokenizes.nil {blocks : List Nat} {depth : Nat} {midLine lineStart : Bool} {tokens : List Token}
    (reads : Tokenizes blocks depth midLine lineStart [] tokens) : depth = 0 ∧
      tokens = (if midLine then [.newline] else []) ++ List.replicate blocks.length .dedent := by
  cases reads with
  | done => exact ⟨rfl, rfl⟩
  | trailing => exact ⟨rfl, rfl⟩
  | blank present => exact absurd rfl present
  | line shape => cases shape
  | comment shape => cases shape
  | newline shape => cases shape
  | inside shape => cases shape
  | token shape => cases shape

/-- A source whose first line is not indented closes all blocks that are open in front of it. -/
theorem Tokenizes.behind {chars : List Char} {tokens : List Token}
    (reads : Tokenizes [] 0 false true chars tokens) (outset : tokens.head? ≠ some .indent) {blocks : List Nat}
    (indented : Indented blocks) :
    Tokenizes blocks 0 false true chars (List.replicate blocks.length .dedent ++ tokens) := by
  generalize none : [] = start, zero : 0 = depth, off : false = midLine, on : true = lineStart at reads
  induction reads with
  | done =>
    subst none
    subst off
    change Tokenizes blocks 0 false _ [] (List.replicate blocks.length .dedent ++ [])
    rw [List.append_nil]
    exact .done blocks false _
  | blank present ends _ ih =>
    subst zero
    subst off
    exact .blank present ends (ih outset none rfl rfl rfl)
  | @line start _ _ _ chars _ _ _ _ shape opens layout rest =>
    subst none
    subst off
    subst zero
    -- Only the marks in front of the line depend on the open blocks.
    unfold layoutMarks? at layout
    dsimp only at layout
    split at layout
    · cases layout
      exact absurd rfl outset
    · next narrow =>
      have flat : indentWidth (chars.takeWhile isLineBlank) = 0 := Nat.eq_zero_of_not_pos narrow
      rw [flat] at layout
      cases layout
      refine .line shape opens ?_ rest
      rw [flat, layoutMarks?, if_neg (Nat.not_lt_zero _), indented.closeBlocks]
      rfl
  | trailing | comment | newline | inside | token => cases on

theorem endsLine_append {chars : List Char} (present : chars ≠ []) (more : List Char) :
    endsLine (chars ++ more) = endsLine chars := by
  obtain ⟨c, rest, rfl⟩ := List.exists_cons_of_ne_nil present
  rfl

theorem Tokenizes.append {blocks : List Nat} {depth : Nat} {midLine lineStart : Bool} {chars more : List Char}
    {tokens others : List Token} (reads : Tokenizes blocks depth midLine lineStart chars tokens)
    (ended : Ended chars) (indented : Indented blocks) (fresh : lineStart = true → midLine = false)
    (next : Tokenizes [] 0 false true more others) (outset : others.head? ≠ some .indent) :
    Tokenizes blocks depth midLine lineStart (chars ++ more) (tokens ++ others) := by
  have stop : isLineBlank '\n' = false := rfl
  -- Where nothing is left behind the end of a line, the other source comes next.
  have across {blocks : List Nat} {tokens : List Token} (indented : Indented blocks)
      (last : Tokenizes blocks 0 false true [] tokens) :
      Tokenizes blocks 0 false true more (tokens ++ others) := by
    obtain ⟨-, rfl⟩ := last.nil
    exact next.behind outset indented
  induction reads with
  | done => cases ended
  | trailing _ _ blank => exact absurd blank (ended.dropWhile stop).ne_nil
  | @blank blocks depth midLine chars tokens present ends rest ih =>
    have left := ended.dropWhile stop
    have behind : Ended ((chars.dropWhile isLineBlank).dropWhile (· ≠ '\n')) := left.dropWhile rfl
    have joined := left.dropWhile_append (p := (· ≠ '\n')) rfl more
    obtain rfl : midLine = false := fresh rfl
    refine .blank (List.append_ne_nil_of_left_ne_nil present _) ?_ ?_
    · rw [ended.dropWhile_append stop, endsLine_append left.ne_nil, ends]
    · rw [ended.dropWhile_append stop, joined,
        List.drop_append_of_le_length (List.length_pos_of_ne_nil behind.ne_nil)]
      rcases ended_drop_one behind with nothing | ended
      · rw [nothing] at rest ⊢
        obtain ⟨rfl, -⟩ := rest.nil
        exact across indented rest
      · exact ih ended indented fresh
  | line shape opens layout _ ih =>
    have left := ended.dropWhile stop
    rw [shape] at left
    rw [List.append_assoc]
    rw [← ended.takeWhile_append stop more] at layout
    refine .line ?_ opens layout (ih left (indented.layout layout) (fun _ => ?_))
    · rw [ended.dropWhile_append stop, shape]
      rfl
    · exact fresh rfl
  | comment shape _ ih =>
    have left := ended.dropWhile stop
    rw [shape] at left
    have behind := left.tail (by decide)
    have joined := behind.dropWhile_append (p := (· ≠ '\n')) rfl more
    refine .comment (by rw [ended.dropWhile_append stop, shape, List.cons_append]) ?_
    rw [joined]
    exact ih (behind.dropWhile rfl) indented fresh
  | newline shape rest ih =>
    have left := ended.dropWhile stop
    rw [shape] at left
    refine .newline (by rw [ended.dropWhile_append stop, shape, List.cons_append]) ?_
    rcases left.tail_or_nil with rfl | ended
    · exact across indented rest
    · exact ih ended indented (fun _ => rfl)
  | inside shape opened rest ih =>
    have left := ended.dropWhile stop
    rw [shape] at left
    refine .inside (by rw [ended.dropWhile_append stop, shape, List.cons_append]) opened ?_
    rcases left.tail_or_nil with rfl | ended
    · exact absurd rest.nil.1 opened
    · exact ih ended indented fresh
  | token shape opens scan counts rest ih =>
    have left := ended.dropWhile stop
    rw [shape] at left
    have behind := left.tail (fun same => opens (by simp [same]))
    obtain ⟨short, again⟩ := behind.scanToken_append scan more
    refine .token (by rw [ended.dropWhile_append stop, shape, List.cons_append]) opens again counts ?_
    rw [List.drop_append_of_le_length short.le]
    exact ih (behind.drop short) indented nofun

/-- Two sources, the first of which ends with a line, have the tokens of both, unless the second one begins
with an indented line. -/
theorem lex_append {first second : String} {lexemes others : List Lexeme}
    (ends : first = "" ∨ ∃ lines, first = lines ++ "\n") (read : lex first = .ok lexemes)
    (readOther : lex second = .ok others) (outset : (others.map Lexeme.token).head? ≠ some .indent) :
    ∃ all, lex (first ++ second) = .ok all ∧
      all.map Lexeme.token = lexemes.map Lexeme.token ++ others.map Lexeme.token := by
  have one := tokenizes_of_lexFrom read
  have other := tokenizes_of_lexFrom readOther
  have joined : Tokenizes [] 0 false true (first ++ second).toList
      (lexemes.map Lexeme.token ++ others.map Lexeme.token) := by
    rw [String.toList_append]
    rcases ends with rfl | ⟨lines, rfl⟩
    · obtain ⟨-, nothing⟩ := Tokenizes.nil one
      rw [nothing]
      exact other
    · exact one.append (by simp [Ended]) nofun (fun _ => rfl) other outset
  exact joined.lexes 0

end Stagecraft.Script
