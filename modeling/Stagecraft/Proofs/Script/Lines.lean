import Stagecraft.Proofs.Positions
import Stagecraft.Proofs.Script.Seams

/-!
Lines: what is read of a line depends on its own characters and on how many parentheses are open in front of
it, and on nothing else. Where a line ends, the text behind it is read on from the parentheses that the line
leaves open.
-/

namespace Stagecraft.Script

open Text (byteSize)

def unplaced : Except LexFault (List Lexeme) → Except String (List Token)
  | .ok lexemes => .ok (lexemes.map Lexeme.token)
  | .error fault => .error fault.message

def Blank (chars : List Char) : Prop := ∀ c ∈ chars, c ∈ [' ', '\t', '\r']

instance (chars : List Char) : Decidable (Blank chars) :=
  List.decidableBAll (· ∈ [' ', '\t', '\r']) chars

/-- The line consists of blanks and perhaps a comment. -/
def Vacant (line : List Char) : Prop :=
  ∃ blanks comment, line = blanks ++ comment ∧ Blank blanks ∧ (∀ c ∈ comment.head?, c = '#') ∧
    '\n' ∉ comment

/-- How many parentheses are open behind the characters of a line. Those in texts and comments do not count. -/
def openBehind (depth : Nat) (inText : Bool) : List Char → Nat
  | [] => depth
  | c :: rest =>
    if inText then openBehind depth (c != '"') rest
    else if c = '"' then openBehind depth true rest
    else if c = '#' then depth
    else if c = '(' then openBehind (depth + 1) false rest
    else if c = ')' then openBehind (depth - 1) false rest
    else openBehind depth false rest

theorem unplaced_cons (lexeme : Lexeme) (outcome : Except LexFault (List Lexeme)) :
    unplaced (do let lexemes ← outcome; return lexeme :: lexemes) =
      (unplaced outcome).map (lexeme.token :: ·) := by
  cases outcome <;> rfl

theorem unplaced_append (first : List Lexeme) (outcome : Except LexFault (List Lexeme)) :
    unplaced (do let lexemes ← outcome; return first ++ lexemes) =
      (unplaced outcome).map (first.map Lexeme.token ++ ·) := by
  cases outcome with
  | error fault => rfl
  | ok lexemes => exact congrArg Except.ok List.map_append

theorem isLineBlank_iff (c : Char) : isLineBlank c = true ↔ c ∈ [' ', '\t', '\r'] := by
  simp [isLineBlank, or_assoc]

theorem Blank.isLineBlank {chars : List Char} (blank : Blank chars) :
    ∀ c ∈ chars, isLineBlank c = true :=
  fun c member => (isLineBlank_iff c).mpr (blank c member)

theorem exists_blanks (line : List Char) :
    ∃ blanks text, line = blanks ++ text ∧ Blank blanks ∧ ∀ c ∈ text.head?, isLineBlank c = false := by
  refine ⟨_, _, List.takeWhile_append_dropWhile.symm,
    fun c member => (isLineBlank_iff c).mp (List.mem_takeWhile_imp member), fun c head => ?_⟩
  obtain ⟨more, shape⟩ := List.head?_eq_some_iff.mp head
  exact not_isLineBlank_of_dropWhile shape

/-! ### Tokens of a line -/

section Tokens

def EndsLine (behind : List Char) : Prop := ∀ c ∈ behind.head?, c = '\n'

variable {behind : List Char} (ends : EndsLine behind) {p : Char → Bool}
include ends

theorem EndsLine.stops (stop : p '\n' = false) : Stops p behind := by
  intro c head
  rw [ends c head, stop]

theorem EndsLine.takeWhile_append (stop : p '\n' = false) (chars : List Char) :
    (chars ++ behind).takeWhile p = chars.takeWhile p := by
  rw [List.takeWhile_append]
  split
  · next whole =>
    have all := (List.takeWhile_prefix p).eq_of_length whole
    have none : ([] ++ behind).takeWhile p = [] := takeWhile_stops nofun (ends.stops stop)
    rw [List.nil_append] at none
    rw [none, List.append_nil, all]
  · rfl

theorem EndsLine.dropWhile_append (stop : p '\n' = false) (chars : List Char) :
    (chars ++ behind).dropWhile p = chars.dropWhile p ++ behind := by
  rw [List.dropWhile_append]
  split
  · next whole =>
    have all : ([] ++ behind).dropWhile p = behind := dropWhile_stops nofun (ends.stops stop)
    rw [List.nil_append] at all
    rw [all, List.isEmpty_iff.mp whole, List.nil_append]
  · rfl

theorem EndsLine.scanNumber_append (chars : List Char) : scanNumber (chars ++ behind) = scanNumber chars := by
  have stop : Char.isDigit '\n' = false := rfl
  unfold scanNumber
  rw [ends.takeWhile_append stop, ends.dropWhile_append stop]
  cases chars.dropWhile Char.isDigit with
  | nil =>
    rw [List.nil_append]
    split
    · cases ends _ rfl
    · rfl
  | cons c rest =>
    by_cases point : c = '.'
    · subst point
      simp only [List.cons_append, ends.takeWhile_append stop]
    · rw [List.cons_append]
      split
      · next same => exact absurd (List.cons.inj same).1 point
      · split
        · next same => exact absurd (List.cons.inj same).1 point
        · rfl

theorem EndsLine.scanToken_append (c : Char) (chars : List Char) :
    scanToken c (chars ++ behind) = scanToken c chars := by
  have head {other : Char} (apart : other ≠ '\n') (left : List Char) :
      (left ++ behind).head? = some other ↔ left.head? = some other := by
    cases left with
    | nil => exact iff_of_false (fun here => apart (ends other here)) nofun
    | cons d rest => rfl
  have pair : (chars ++ behind).head?.bind (Symbol.ofPair? c) = chars.head?.bind (Symbol.ofPair? c) := by
    cases chars with
    | cons d rest => rfl
    | nil =>
      cases behind with
      | nil => rfl
      | cons d rest =>
        rw [ends d rfl]
        change Symbol.ofPair? c '\n' = none
        unfold Symbol.ofPair?
        split <;> simp_all
  have whole : scanNumber (c :: (chars ++ behind)) = scanNumber (c :: chars) :=
    ends.scanNumber_append (c :: chars)
  have short (p : Char → Bool) : (chars.takeWhile p).length ≤ chars.length :=
    (List.takeWhile_prefix p).length_le
  unfold scanToken
  simp only [ends.takeWhile_append (p := fun d => decide (d ≠ '"' ∧ d ≠ '\n')) (by decide),
    ends.takeWhile_append (p := continuesWord) (by decide), List.drop_append_of_le_length (short _),
    head (show '"' ≠ '\n' by decide), whole, pair]

end Tokens

/-! ### Parentheses of a line -/

def Neutral (c : Char) : Prop := c ∉ ['"', '#', '(', ')']

instance : DecidablePred Neutral := fun c => inferInstanceAs (Decidable (c ∉ ['"', '#', '(', ')']))

theorem Blank.neutral {chars : List Char} (blank : Blank chars) : ∀ c ∈ chars, Neutral c :=
  fun c member => not_mem_of_all (by decide) (blank.isLineBlank c member)

theorem openBehind_neutral {chars : List Char} (neutral : ∀ c ∈ chars, Neutral c) (depth : Nat)
    (rest : List Char) : openBehind depth false (chars ++ rest) = openBehind depth false rest := by
  induction chars with
  | nil => rfl
  | cons c others ih =>
    obtain ⟨here, behind⟩ := List.forall_mem_cons.mp neutral
    simp only [Neutral, List.mem_cons, List.not_mem_nil, or_false, not_or] at here
    rw [List.cons_append, openBehind, if_neg Bool.false_ne_true, if_neg here.1, if_neg here.2.1,
      if_neg here.2.2.1, if_neg here.2.2.2, ih behind]

theorem openBehind_text {content : List Char} (inside : ∀ c ∈ content, c ≠ '"') (depth : Nat)
    (rest : List Char) :
    openBehind depth true (content ++ '"' :: rest) = openBehind depth false rest := by
  induction content with
  | nil => rfl
  | cons c others ih =>
    obtain ⟨here, behind⟩ := List.forall_mem_cons.mp inside
    rw [List.cons_append, openBehind, if_pos rfl, bne_iff_ne.mpr here, ih behind]

theorem drop_takeWhile (p : Char → Bool) (chars : List Char) :
    chars.drop (chars.takeWhile p).length = chars.dropWhile p := by
  induction chars with
  | nil => rfl
  | cons c rest ih =>
    rw [List.takeWhile_cons, List.dropWhile_cons]
    split
    · exact ih
    · rfl

theorem neutral_of_isDigit {c : Char} (digit : c.isDigit = true) : Neutral c :=
  not_mem_of_all (by decide) digit

theorem neutral_of_startsWord {c : Char} (starts : startsWord c = true) : Neutral c :=
  not_mem_of_all (by decide) starts

theorem neutral_of_continuesWord {c : Char} (continues : continuesWord c = true) : Neutral c :=
  not_mem_of_all (by decide) continues

theorem scanNumber_neutral {c : Char} (digit : c.isDigit = true) (rest : List Char) :
    ∃ n text behind, (scanNumber (c :: rest)).1 = .number n ∧ rest = text ++ behind ∧
      (scanNumber (c :: rest)).2 = text.length + 1 ∧ ∀ d ∈ text, Neutral d := by
  have digits (chars : List Char) : ∀ d ∈ chars.takeWhile Char.isDigit, Neutral d :=
    fun d member => neutral_of_isDigit (List.mem_takeWhile_imp member)
  have parts : rest = rest.takeWhile Char.isDigit ++ rest.dropWhile Char.isDigit :=
    List.takeWhile_append_dropWhile.symm
  unfold scanNumber
  rw [List.takeWhile_cons, List.dropWhile_cons, if_pos digit, if_pos digit]
  dsimp only
  split
  · next others point =>
    split
    · exact ⟨_, _, _, rfl, parts, rfl, digits rest⟩
    · rw [point] at parts
      refine ⟨_, rest.takeWhile Char.isDigit ++ '.' :: others.takeWhile Char.isDigit,
        others.dropWhile Char.isDigit, rfl, ?_, ?_, ?_⟩
      · rw [List.append_assoc, List.cons_append, List.takeWhile_append_dropWhile, ← parts]
      · simp only [List.length_append, List.length_cons]
        omega
      · refine List.forall_mem_append.mpr ⟨digits rest, List.forall_mem_cons.mpr ⟨by decide, digits others⟩⟩
  · exact ⟨_, _, _, rfl, parts, rfl, digits rest⟩

theorem depthBehind_ofWord (depth : Nat) (word : String) :
    depthBehind depth (Token.ofWord word) = some depth := by
  unfold Token.ofWord
  split <;> rfl

theorem Symbol.neutral_of_ofPair? {c d : Char} {symbol : Symbol} (known : ofPair? c d = some symbol)
    (depth : Nat) : (∀ e ∈ [c, d], Neutral e) ∧ depthBehind depth (.symbol symbol) = some depth := by
  unfold ofPair? at known
  split at known
  case h_7 => cases known
  all_goals
    cases known
    exact ⟨List.forall_mem_cons.mpr ⟨by decide, List.forall_mem_singleton.mpr (by decide)⟩, rfl⟩

theorem Symbol.openBehind_ofChar? {c : Char} {symbol : Symbol} (known : ofChar? c = some symbol)
    {depth inner : Nat} (counts : depthBehind depth (.symbol symbol) = some inner) (rest : List Char) :
    openBehind depth false (c :: rest) = openBehind inner false rest := by
  have plain (neutral : Neutral c) (same : depth = inner) :
      openBehind depth false (c :: rest) = openBehind inner false rest :=
    same ▸ openBehind_neutral (List.forall_mem_singleton.mpr neutral) depth rest
  unfold ofChar? at known
  split at known
  case h_12 =>
    cases known
    cases counts
    rfl
  case h_13 =>
    cases known
    unfold depthBehind Cursor.countParens? at counts
    dsimp only at counts
    split at counts
    · cases counts
    · cases counts
      rfl
  case h_14 => cases known
  all_goals
    cases known
    exact plain (by decide) (Option.some.inj counts)

/-- A closed text lies within the characters and leaves the parentheses as they are. -/
theorem openBehind_quoted {rest : List Char}
    (closing : (rest.drop (rest.takeWhile fun d => d ≠ '"' ∧ d ≠ '\n').length).head? = some '"') (depth : Nat) :
    (rest.takeWhile fun d => d ≠ '"' ∧ d ≠ '\n').length + 1 ≤ rest.length ∧
      openBehind depth true rest =
        openBehind depth false (rest.drop ((rest.takeWhile fun d => d ≠ '"' ∧ d ≠ '\n').length + 1)) := by
  have inside : ∀ d ∈ rest.takeWhile (fun d => decide (d ≠ '"' ∧ d ≠ '\n')), d ≠ '"' := by
    intro d member
    have taken := List.mem_takeWhile_imp member
    exact (of_decide_eq_true taken).1
  have parts := List.takeWhile_append_dropWhile (p := fun d => decide (d ≠ '"' ∧ d ≠ '\n')) (l := rest)
  rw [drop_takeWhile] at closing
  obtain ⟨behind, same⟩ := List.head?_eq_some_iff.mp closing
  rw [same] at parts
  have lengths := congrArg List.length parts
  rw [List.length_append, List.length_cons] at lengths
  have text := openBehind_text inside depth behind
  rw [parts] at text
  refine ⟨by omega, ?_⟩
  rw [text, ← List.drop_drop, drop_takeWhile, same]
  rfl

theorem scanToken_level {c : Char} {rest : List Char} {token : Token} {length : Nat}
    (scan : scanToken c rest = .ok (token, length)) {depth inner : Nat}
    (counts : depthBehind depth token = some inner) :
    length ≤ rest.length ∧
      openBehind depth false (c :: rest) = openBehind inner false (rest.drop length) := by
  unfold scanToken at scan
  dsimp only at scan
  split at scan
  · next quote =>
    split at scan
    · next closing =>
      cases scan
      cases counts
      obtain ⟨short, level⟩ := openBehind_quoted closing depth
      refine ⟨short, ?_⟩
      rw [openBehind, if_neg Bool.false_ne_true, if_pos quote, level]
    · cases scan
  · next quote =>
    have here : Neutral c → openBehind depth false (c :: rest) = openBehind depth false rest :=
      fun neutral => openBehind_neutral (List.forall_mem_singleton.mpr neutral) depth rest
    split at scan
    · next digit =>
      obtain ⟨n, text, behind, number, rfl, whole, neutral⟩ := scanNumber_neutral digit rest
      cases scan
      rw [number] at counts
      cases counts
      rw [whole, Nat.add_sub_cancel, List.drop_left, here (neutral_of_isDigit digit),
        openBehind_neutral neutral]
      exact ⟨by simp, rfl⟩
    · split at scan
      · next starts =>
        cases scan
        rw [depthBehind_ofWord] at counts
        cases counts
        have parts := List.takeWhile_append_dropWhile (p := continuesWord) (l := rest)
        have neutral : ∀ d ∈ rest.takeWhile continuesWord, Neutral d :=
          fun d member => neutral_of_continuesWord (List.mem_takeWhile_imp member)
        refine ⟨(List.takeWhile_prefix _).length_le, ?_⟩
        rw [here (neutral_of_startsWord starts), drop_takeWhile,
          ← openBehind_neutral neutral depth (rest.dropWhile continuesWord), parts]
      · split at scan
        · next symbol pair =>
          cases scan
          obtain ⟨d, starts, known⟩ := Option.bind_eq_some_iff.mp pair
          obtain ⟨more, rfl⟩ := List.head?_eq_some_iff.mp starts
          obtain ⟨neutral, plain⟩ := Symbol.neutral_of_ofPair? known depth
          rw [plain] at counts
          cases counts
          exact ⟨Nat.succ_le_succ (Nat.zero_le _), openBehind_neutral neutral depth more⟩
        · split at scan
          · next symbol single =>
            cases scan
            exact ⟨Nat.zero_le _, Symbol.openBehind_ofChar? single counts rest⟩
          · cases scan

/-! ### Steps of the lexer -/

theorem lexFrom_nil (cursor : Cursor) (lineStart : Bool) : lexFrom cursor lineStart [] = finish cursor := by
  rw [lexFrom]
  exact if_pos rfl

theorem Cursor.pass_append (cursor : Cursor) (first second : List Char) :
    cursor.pass (first ++ second) = (cursor.pass first).pass second := by
  simp only [Cursor.pass, Text.byteSize_append, Nat.add_assoc]

theorem lexFrom_blanks {cursor : Cursor} {blanks : List Char} (blank : Blank blanks) (chars : List Char) :
    lexFrom cursor false (blanks ++ chars) = lexFrom (cursor.pass blanks) false chars := by
  have taken : (blanks ++ chars).takeWhile isLineBlank = blanks ++ chars.takeWhile isLineBlank :=
    List.takeWhile_append_of_pos blank.isLineBlank
  have left : (blanks ++ chars).dropWhile isLineBlank = chars.dropWhile isLineBlank :=
    List.dropWhile_append_of_pos blank.isLineBlank
  have passed : cursor.pass ((blanks ++ chars).takeWhile isLineBlank) =
      (cursor.pass blanks).pass (chars.takeWhile isLineBlank) := by
    rw [taken, Cursor.pass_append]
  by_cases none : blanks ++ chars = []
  · obtain ⟨rfl, rfl⟩ := List.append_eq_nil_iff.mp none
    rfl
  -- Each side is unfolded by itself, so that the splits meet only its own cases.
  have present : ¬(blanks ++ chars).isEmpty = true := mt List.isEmpty_iff.mp none
  rw [lexFrom.eq_def (cursor.pass blanks)]
  dsimp only
  rw [if_neg Bool.false_ne_true]
  split
  · next nothing =>
    obtain rfl := List.isEmpty_iff.mp nothing
    rw [lexFrom.eq_def cursor, if_neg present]
    dsimp only
    rw [if_neg Bool.false_ne_true, passed]
    split
    · rfl
    · next shape => cases left.symm.trans shape
  · split
    · next empty =>
      rw [lexFrom.eq_def cursor, if_neg present]
      dsimp only
      rw [if_neg Bool.false_ne_true, passed]
      split
      · rfl
      · next shape => cases empty.symm.trans (left.symm.trans shape)
    · next c rest shape =>
      rw [lexFrom.eq_def cursor, if_neg present]
      dsimp only
      rw [if_neg Bool.false_ne_true, passed]
      split
      · next empty => cases shape.symm.trans (left.symm.trans empty)
      · next same =>
        obtain ⟨rfl, rfl⟩ := List.cons.inj (shape.symm.trans (left.symm.trans same))
        rfl

theorem lexFrom_comment (cursor : Cursor) (rest : List Char) :
    lexFrom cursor false ('#' :: rest) =
      lexFrom ((cursor.pass ['#']).pass (rest.takeWhile (· ≠ '\n'))) false
        (rest.dropWhile (· ≠ '\n')) := by
  have present : ¬('#' :: rest).isEmpty = true := Bool.false_ne_true
  rw [lexFrom, if_neg present]
  dsimp only
  rw [if_neg Bool.false_ne_true]
  rfl

theorem lexFrom_inside {cursor : Cursor} (opened : cursor.depth ≠ 0) (rest : List Char) :
    lexFrom cursor false ('\n' :: rest) = lexFrom (cursor.pass ['\n']) false rest := by
  have present : ¬('\n' :: rest).isEmpty = true := Bool.false_ne_true
  rw [lexFrom, if_neg present]
  dsimp only
  rw [if_neg Bool.false_ne_true]
  change (if cursor.depth = 0 then _ else _) = _
  rw [if_neg opened]
  rfl

theorem unplaced_scan (cursor : Cursor) {c : Char} (visible : isLineBlank c = false) (comment : c ≠ '#')
    (newline : c ≠ '\n') (rest : List Char) :
    unplaced (lexFrom cursor false (c :: rest)) =
      match scanToken c rest with
      | .error (issue, _) => .error issue.message
      | .ok (token, length) =>
        match depthBehind cursor.depth token with
        | none => .error LexIssue.unmatchedClosing.message
        | some inner =>
          (unplaced (lexFrom ⟨cursor.offset + byteSize (c :: rest.take length), cursor.blocks, inner, true⟩
            false (rest.drop length))).map (token :: ·) := by
  have shape : (c :: rest).dropWhile isLineBlank = c :: rest := by
    rw [List.dropWhile_cons, visible]
    rfl
  have none : (c :: rest).takeWhile isLineBlank = [] := by
    rw [List.takeWhile_cons, visible]
    rfl
  have present : ¬(c :: rest).isEmpty = true := Bool.false_ne_true
  rw [lexFrom, if_neg present, none]
  dsimp only
  rw [if_neg Bool.false_ne_true]
  split
  · next empty => cases shape.symm.trans empty
  · next same =>
    obtain ⟨rfl, rfl⟩ := List.cons.inj (shape.symm.trans same)
    rw [if_neg comment, if_neg newline]
    cases scanToken c rest with
    | error found => rfl
    | ok found =>
      obtain ⟨token, length⟩ := found
      dsimp only
      rw [countParens?_eq]
      change unplaced (match depthBehind cursor.depth token with | _ => _) = _
      cases depthBehind cursor.depth token with
      | none => rfl
      | some inner => exact unplaced_cons _ _

/-! ### Whole lines -/

/-- The rest of a line, up to its end, is read as `result`, whatever blocks are open, wherever it stands, and
whatever lines are behind it. -/
def LineReads (depth : Nat) (line : List Char) (result : Except String (List Token)) : Prop :=
  ∀ offset blocks midLine behind, EndsLine behind → ∃ reached,
    unplaced (lexFrom ⟨offset, blocks, depth, midLine⟩ false (line ++ behind)) = do
      let tokens ← result
      let others ← unplaced (lexFrom
        ⟨reached, blocks, openBehind depth false line, midLine || !tokens.isEmpty⟩ false behind)
      return tokens ++ others

/-- A vacant line is passed over, inside parentheses too. -/
theorem Vacant.passes {line : List Char} (vacant : Vacant line) {behind : List Char} (ends : EndsLine behind)
    (offset : Nat) (blocks : List Nat) (depth : Nat) (midLine : Bool) :
    ∃ reached, lexFrom ⟨offset, blocks, depth, midLine⟩ false (line ++ behind) =
      lexFrom ⟨reached, blocks, depth, midLine⟩ false behind := by
  obtain ⟨blanks, comment, rfl, blank, starts, inside⟩ := vacant
  rw [List.append_assoc, lexFrom_blanks blank]
  cases comment with
  | nil => exact ⟨_, rfl⟩
  | cons c rest =>
    obtain rfl := starts c rfl
    have within : ∀ c ∈ rest, decide (c ≠ '\n') = true :=
      fun c member => decide_eq_true (fun same => inside (same ▸ List.mem_cons_of_mem _ member))
    have left : (rest ++ behind).dropWhile (· ≠ '\n') = behind :=
      dropWhile_stops within (ends.stops (by decide))
    rw [List.cons_append, lexFrom_comment, left]
    exact ⟨_, rfl⟩

theorem Vacant.openBehind {line : List Char} (vacant : Vacant line) (depth : Nat) :
    openBehind depth false line = depth := by
  obtain ⟨blanks, comment, rfl, blank, starts, -⟩ := vacant
  rw [openBehind_neutral blank.neutral]
  cases comment with
  | nil => rfl
  | cons c rest =>
    obtain rfl := starts c rfl
    rfl

theorem Vacant.lineReads {line : List Char} (vacant : Vacant line) (depth : Nat) :
    LineReads depth line (.ok []) := by
  intro offset blocks midLine behind ends
  obtain ⟨reached, same⟩ := vacant.passes ends offset blocks depth midLine
  refine ⟨reached, ?_⟩
  rw [same, vacant.openBehind]
  change _ = (unplaced (lexFrom ⟨reached, blocks, depth, midLine || false⟩ false behind) >>= fun others =>
    pure ([] ++ others))
  rw [Bool.or_false]
  cases unplaced (lexFrom ⟨reached, blocks, depth, midLine⟩ false behind) <;> rfl

section Visible

variable {blanks : List Char} (blank : Blank blanks) {c : Char} (visible : isLineBlank c = false)
  (comment : c ≠ '#') (newline : c ≠ '\n') {depth : Nat} {more : List Char}
include blank visible comment newline

/-- Behind its first token a line goes on with the parentheses that this token leaves open. -/
theorem LineReads.token {token : Token} {length inner : Nat} (scan : scanToken c more = .ok (token, length))
    (counts : depthBehind depth token = some inner) {result : Except String (List Token)}
    (rest : LineReads inner (more.drop length) result) :
    LineReads depth (blanks ++ c :: more) (result.map (token :: ·)) := by
  intro offset blocks midLine behind ends
  obtain ⟨short, level⟩ := scanToken_level scan counts
  obtain ⟨reached, same⟩ := rest
    (offset + byteSize blanks + byteSize (c :: (more ++ behind).take length)) blocks true behind ends
  refine ⟨reached, ?_⟩
  rw [List.append_assoc, lexFrom_blanks blank, List.cons_append,
    unplaced_scan _ visible comment newline, ends.scanToken_append, scan, openBehind_neutral blank.neutral, level]
  dsimp only [Cursor.pass]
  rw [counts, List.drop_append_of_le_length short]
  dsimp only
  rw [same]
  cases result with
  | error message => rfl
  | ok tokens =>
    have flag : (midLine || !(token :: tokens).isEmpty) = true := Bool.or_true midLine
    change ((unplaced (lexFrom ⟨reached, blocks, _, true⟩ false behind)) >>= fun others =>
        pure (tokens ++ others)).map (token :: ·) =
      (unplaced (lexFrom ⟨reached, blocks, _, midLine || !(token :: tokens).isEmpty⟩ false behind)) >>=
        fun others => pure (token :: tokens ++ others)
    rw [flag]
    cases unplaced (lexFrom ⟨reached, blocks, _, true⟩ false behind) <;> rfl

theorem LineReads.refused {message : String}
    (refused : (∃ issue length, scanToken c more = .error (issue, length) ∧ issue.message = message) ∨
      ∃ token length, scanToken c more = .ok (token, length) ∧ depthBehind depth token = none ∧
        LexIssue.unmatchedClosing.message = message) :
    LineReads depth (blanks ++ c :: more) (.error message) := by
  intro offset blocks midLine behind ends
  refine ⟨0, ?_⟩
  rw [List.append_assoc, lexFrom_blanks blank, List.cons_append,
    unplaced_scan _ visible comment newline, ends.scanToken_append]
  rcases refused with ⟨issue, length, scan, rfl⟩ | ⟨token, length, scan, counts, rfl⟩
  · rw [scan]
    rfl
  · rw [scan]
    dsimp only [Cursor.pass]
    rw [counts]
    rfl

end Visible

theorem exists_lineReads (depth : Nat) (line : List Char) (inside : '\n' ∉ line) :
    ∃ result, LineReads depth line result := by
  induction size : line.length using Nat.strong_induction_on generalizing depth line with
  | _ n ih =>
  obtain ⟨blanks, text, rfl, blank, starts⟩ := exists_blanks line
  cases text with
  | nil => exact ⟨_, Vacant.lineReads ⟨blanks, [], rfl, blank, nofun, nofun⟩ depth⟩
  | cons c more =>
    have visible := starts c rfl
    have outside : '\n' ∉ c :: more := fun member => inside (List.mem_append_right _ member)
    obtain ⟨newline, within⟩ := not_or.mp (mt List.mem_cons.mpr outside)
    by_cases comment : c = '#'
    · have starts : ∀ d ∈ (c :: more).head?, d = '#' := by
        rintro _ ⟨⟩
        exact comment
      exact ⟨_, Vacant.lineReads ⟨blanks, c :: more, rfl, blank, starts, outside⟩ depth⟩
    cases scan : scanToken c more with
    | error found =>
      exact ⟨_, .refused blank visible comment (Ne.symm newline) (.inl ⟨found.1, found.2, scan, rfl⟩)⟩
    | ok found =>
      obtain ⟨token, length⟩ := found
      cases counts : depthBehind depth token with
      | none =>
        exact ⟨_, .refused blank visible comment (Ne.symm newline)
          (.inr ⟨token, length, scan, counts, rfl⟩)⟩
      | some inner =>
        have shorter : (more.drop length).length < n := by
          rw [List.length_append, List.length_cons] at size
          rw [List.length_drop]
          omega
        obtain ⟨result, rest⟩ := ih _ shorter inner (more.drop length)
          (fun member => within (List.mem_of_mem_drop member)) rfl
        exact ⟨_, .token blank visible comment (Ne.symm newline) scan counts rest⟩

end Stagecraft.Script
