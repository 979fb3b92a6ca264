import Mathlib.Data.List.TakeWhile
import Stagecraft.Proofs.Script.FairCopy
import Stagecraft.Proofs.Steps

/-!
Scanning: the text of a token is read as this token, whatever follows that cannot belong to it; and the
text of an outline is read as its lines and the marks of its blocks.
-/

namespace Stagecraft.Script

/-! ### Characters -/

def Opens (c : Char) : Prop := c ∉ [' ', '\t', '\r', '#', '\n', '\x00']

instance : DecidablePred Opens :=
  fun c => inferInstanceAs (Decidable (c ∉ [' ', '\t', '\r', '#', '\n', '\x00']))

theorem not_mem_of_all {p : Char → Bool} {chars : List Char} (none : chars.all (!p ·) = true) {c : Char}
    (holds : p c = true) : c ∉ chars := by
  intro member
  have refused := List.all_eq_true.mp none c member
  rw [holds] at refused
  cases refused

theorem opens_of_startsWord {c : Char} (starts : startsWord c = true) : Opens c :=
  not_mem_of_all (by decide) starts

theorem quote_of_startsWord {c : Char} (starts : startsWord c = true) : c ≠ '"' := by
  rintro rfl
  revert starts
  decide

theorem mem_digits_of_isDigit {c : Char} (digit : c.isDigit = true) :
    c ∈ ['0', '1', '2', '3', '4', '5', '6', '7', '8', '9'] := by
  rw [Char.isDigit, Bool.and_eq_true, decide_eq_true_eq, decide_eq_true_eq] at digit
  have low : 48 ≤ c.toNat := digit.1
  have high : c.toNat ≤ 57 := digit.2
  have codes : ∀ code ∈ List.range 58, 48 ≤ code →
      Char.ofNat code ∈ ['0', '1', '2', '3', '4', '5', '6', '7', '8', '9'] := by
    decide
  have member := codes c.toNat (List.mem_range.mpr (by omega)) low
  rwa [Char.ofNat_toNat] at member

theorem opens_of_isDigit {c : Char} (digit : c.isDigit = true) : Opens c :=
  not_mem_of_all (by decide) digit

theorem not_isDigit_of_startsWord {c : Char} (starts : startsWord c = true) :
    ¬c.isDigit = true :=
  fun digit => not_mem_of_all (by decide) starts (mem_digits_of_isDigit digit)

/-! ### Legible tokens -/

structure IsName (name : String) : Prop where
  word : ∃ c others, name = String.ofList (c :: others) ∧ startsWord c = true ∧
    ∀ d ∈ others, continuesWord d = true
  free : Keyword.ofText? name = none

namespace Token

/-- The token can stand in a line, and has a text that is read as this token. -/
def Legible : Token → Prop
  | number n => ∃ text, Spells text n
  | text s => ∀ c ∈ s.toList, c ≠ '"' ∧ c ≠ '\n'
  | ident name => IsName name
  | keyword _ | symbol _ => True
  | newline | indent | dedent => False

def Ends : Token → Char → Prop
  | number _, c => c.isDigit = false ∧ c ≠ '.'
  | ident _, c | keyword _, c => continuesWord c = false
  | symbol s, c => s = .opening ∨ s = .dot ∨ c ≠ '='
  | _, _ => True

end Token

/-- The text is that of the token, however it goes on behind a character that does not belong to it. -/
def Scans (text : List Char) (token : Token) (c : Char) : Prop :=
  ∃ first others, text = first :: others ∧ Opens first ∧ ∀ more,
    scanToken first (others ++ c :: more) = .ok (token, others.length)

def Stops (p : Char → Bool) (more : List Char) : Prop := ∀ c ∈ more.head?, p c = false

theorem stops_cons {p : Char → Bool} {c : Char} (outside : p c = false) (more : List Char) :
    Stops p (c :: more) := by
  rintro _ ⟨⟩
  exact outside

theorem takeWhile_stops {p : Char → Bool} {chars more : List Char} (inside : ∀ d ∈ chars, p d = true)
    (outside : Stops p more) : (chars ++ more).takeWhile p = chars := by
  rw [List.takeWhile_append_of_pos inside]
  cases more with
  | nil => exact List.append_nil chars
  | cons c rest =>
    rw [List.takeWhile_cons, outside c rfl]
    exact List.append_nil chars

theorem dropWhile_stops {p : Char → Bool} {chars more : List Char} (inside : ∀ d ∈ chars, p d = true)
    (outside : Stops p more) : (chars ++ more).dropWhile p = more := by
  rw [List.dropWhile_append_of_pos inside]
  cases more with
  | nil => rfl
  | cons c rest =>
    rw [List.dropWhile_cons, outside c rfl]
    rfl

theorem scans_word {c : Char} {others : List Char} (starts : startsWord c = true)
    (continues : ∀ d ∈ others, continuesWord d = true) {end_ : Char}
    (ends : continuesWord end_ = false) :
    Scans (c :: others) (Token.ofWord (String.ofList (c :: others))) end_ := by
  refine ⟨c, others, rfl, opens_of_startsWord starts, fun more => ?_⟩
  rw [scanToken, if_neg (quote_of_startsWord starts), if_neg (not_isDigit_of_startsWord starts),
    if_pos starts]
  dsimp only
  rw [takeWhile_stops continues (stops_cons ends more)]

theorem scans_text {s : String} (plain : ∀ c ∈ s.toList, c ≠ '"' ∧ c ≠ '\n') (end_ : Char) :
    Scans ('"' :: s.toList ++ ['"']) (.text s) end_ := by
  have opens : Opens '"' := by decide
  refine ⟨'"', s.toList ++ ['"'], rfl, opens, fun more => ?_⟩
  have content : (s.toList ++ '"' :: end_ :: more).takeWhile (fun d => d ≠ '"' ∧ d ≠ '\n') =
      s.toList := by
    apply takeWhile_stops
    · intro c member
      exact decide_eq_true (plain c member)
    · exact stops_cons (by decide) _
  rw [scanToken, if_pos rfl, List.append_assoc, List.singleton_append]
  dsimp only
  rw [content, List.drop_left, List.head?_cons, if_pos rfl, String.ofList_toList, List.length_append]
  rfl

/-! ### Numbers -/

def numeral (whole fraction : List Char) : List Char :=
  if fraction.isEmpty then whole else whole ++ '.' :: fraction

theorem scanNumber_numeral {whole fraction more : List Char} (digits : ∀ c ∈ whole, c.isDigit = true)
    (digitsBehind : ∀ c ∈ fraction, c.isDigit = true)
    (ends : Stops (fun c => c.isDigit || c == '.') more) :
    scanNumber (numeral whole fraction ++ more) =
      (.number (Decimal.Numeral.fixed whole fraction), (numeral whole fraction).length) := by
  have apart : Stops Char.isDigit more :=
    fun c member => (Bool.or_eq_false_iff.mp (ends c member)).1
  have point (rest : List Char) : Stops Char.isDigit ('.' :: rest) := stops_cons (by decide) rest
  unfold numeral scanNumber
  split
  · next empty =>
    rw [List.isEmpty_iff.mp empty, takeWhile_stops digits apart, dropWhile_stops digits apart]
    dsimp only
    split
    · exact absurd (ends '.' rfl) (by decide)
    · rfl
  · next present =>
    rw [List.append_assoc, List.cons_append, takeWhile_stops digits (point _),
      dropWhile_stops digits (point _)]
    dsimp only
    split
    · next rest same =>
      obtain ⟨-, rfl⟩ := List.cons.inj same
      rw [takeWhile_stops digitsBehind apart, if_neg present, List.length_append, List.length_cons]
      congr 1
      omega
    · next other => exact absurd rfl (other _)

/-- What is read as a number without any part left over is the numeral of its digits. -/
theorem exists_numeral {chars : List Char} {token : Token}
    (full : scanNumber chars = (token, chars.length)) :
    ∃ whole fraction, chars = numeral whole fraction ∧ (∀ c ∈ whole, c.isDigit = true) ∧
      (∀ c ∈ fraction, c.isDigit = true) ∧
      token = .number (Decimal.Numeral.fixed whole fraction) := by
  have parts : chars.takeWhile Char.isDigit ++ chars.dropWhile Char.isDigit = chars :=
    List.takeWhile_append_dropWhile
  have digits : ∀ c ∈ chars.takeWhile Char.isDigit, c.isDigit = true :=
    fun c member => List.mem_takeWhile_imp member
  have length := congrArg List.length parts
  rw [List.length_append] at length
  unfold scanNumber at full
  dsimp only at full
  split at full
  · next rest behind =>
    have digitsBehind : ∀ c ∈ rest.takeWhile Char.isDigit, c.isDigit = true :=
      fun c member => List.mem_takeWhile_imp member
    rw [behind, List.length_cons] at length
    split at full
    -- Nothing but the point would be left over.
    · have short := congrArg Prod.snd full
      dsimp only at short
      omega
    · next present =>
      obtain ⟨rfl, short⟩ := Prod.mk.inj full
      have whole : rest.takeWhile Char.isDigit = rest :=
        (List.takeWhile_prefix _).eq_of_length (by omega)
      rw [whole] at full digitsBehind present ⊢
      refine ⟨_, rest, ?_, digits, digitsBehind, rfl⟩
      rw [numeral, if_neg present, ← behind, parts]
  · obtain ⟨rfl, short⟩ := Prod.mk.inj full
    have empty : chars.dropWhile Char.isDigit = [] := List.length_eq_zero_iff.mp (by omega)
    rw [empty, List.append_nil] at parts
    refine ⟨_, [], ?_, digits, nofun, rfl⟩
    exact parts.symm

theorem scans_number {text : List Char} {n : Float} (spells : Spells text n) {end_ : Char}
    (ends : end_.isDigit = false) (apart : end_ ≠ '.') : Scans text (.number n) end_ := by
  obtain ⟨c, rest, rfl, digit, full⟩ := spells
  refine ⟨c, rest, rfl, opens_of_isDigit digit, fun more => ?_⟩
  have quote : c ≠ '"' := by
    rintro rfl
    revert digit
    decide
  obtain ⟨whole, fraction, same, digits, digitsBehind, number⟩ := exists_numeral full
  have outside : (end_.isDigit || end_ == '.') = false := by
    rw [ends, Bool.false_or, beq_eq_false_iff_ne]
    exact apart
  have read := scanNumber_numeral digits digitsBehind (stops_cons outside more)
  rw [← same, ← number, List.length_cons] at read
  rw [scanToken, if_neg quote, if_pos digit, ← List.cons_append, read]
  rfl

/-! ### Symbols -/

/-- Apart from doubled characters, every pair ends with an equals sign. -/
theorem Symbol.ofPair?_eq_none {c end_ : Char} (ends : end_ ≠ '=') (single : c ∉ ['&', '|']) :
    ofPair? c end_ = none := by
  unfold ofPair?
  split
  case h_7 => rfl
  all_goals first | exact absurd rfl ends | exact absurd (by decide) single

theorem scanToken_symbol {c : Char} (quote : c ≠ '"') (digit : ¬c.isDigit = true)
    (letter : ¬startsWord c = true) (rest : List Char) :
    scanToken c rest = match rest.head?.bind (Symbol.ofPair? c) with
      | some symbol => .ok (.symbol symbol, 1)
      | none => match Symbol.ofChar? c with
        | some symbol => .ok (.symbol symbol, 0)
        | none => .error (.unexpected c, 0) := by
  rw [scanToken, if_neg quote, if_neg digit]
  exact if_neg letter

theorem scans_symbol {symbol : Symbol} {end_ : Char} (ends : (Token.symbol symbol).Ends end_) :
    Scans symbol.text.toList (.symbol symbol) end_ := by
  have plain : symbol.text.toList.all
      (fun c => Opens c ∧ c ≠ '"' ∧ ¬c.isDigit = true ∧ ¬startsWord c = true) = true := by
    cases symbol <;> decide
  obtain ⟨first, others, same⟩ : ∃ first others, symbol.text.toList = first :: others := by
    cases symbol <;> exact ⟨_, _, rfl⟩
  rw [same] at plain ⊢
  obtain ⟨visible, quote, digit, letter⟩ :=
    of_decide_eq_true (List.all_eq_true.mp plain first List.mem_cons_self)
  refine ⟨first, others, rfl, visible, fun more => ?_⟩
  rw [scanToken_symbol quote digit letter]
  cases symbol
  all_goals
    obtain ⟨rfl, rfl⟩ := List.cons.inj same
    first
      | rfl
      | rw [List.nil_append, List.head?_cons, Option.bind_some,
          Symbol.ofPair?_eq_none (by simpa [Token.Ends] using ends) (by decide)]
        rfl

/-- The text of a legible token is read as this token. -/
theorem Token.scans {token : Token} (legible : token.Legible) (hand : Hand) {end_ : Char}
    (ends : token.Ends end_) : Scans (token.chars hand) token end_ := by
  cases token with
  | number n => exact scans_number (hand.spells n legible) ends.1 ends.2
  | text s => exact scans_text legible end_
  | ident name =>
    obtain ⟨⟨c, others, rfl, starts, continues⟩, free⟩ := legible
    have scans := scans_word starts continues ends
    rw [Token.ofWord, free] at scans
    rwa [Token.chars, String.toList_ofList]
  | keyword k =>
    have word : ∃ c others, k.text = String.ofList (c :: others) ∧ startsWord c = true ∧
        ∀ d ∈ others, continuesWord d = true := by
      cases k
      all_goals exact ⟨_, _, rfl, by decide, List.all_eq_true.mp (by decide)⟩
    obtain ⟨c, others, same, starts, continues⟩ := word
    have scans := scans_word starts continues ends
    rw [Token.ofWord, ← same, Keyword.ofText?_text] at scans
    rwa [Token.chars, same, String.toList_ofList]
  | symbol s => exact scans_symbol ends
  | newline | indent | dedent => exact legible.elim

/-! ### Lexing -/

theorem isLineBlank_of_opens {c : Char} (opens : Opens c) : isLineBlank c = false := by
  unfold Opens at opens
  unfold isLineBlank
  simp_all

theorem lexFrom_token {cursor : Cursor} {chars rest : List Char} {c : Char} {token : Token}
    {length depth : Nat} (shape : chars.dropWhile isLineBlank = c :: rest) (opens : Opens c)
    (scan : scanToken c rest = .ok (token, length)) (counts : cursor.countParens? token = some depth) :
    lexFrom cursor false chars =
      let after := cursor.pass (chars.takeWhile isLineBlank)
      let next := after.pass (c :: rest.take length)
      (do
        let lexemes ← lexFrom { next with depth := depth, midLine := true } false (rest.drop length)
        return ⟨token, ⟨after.offset, next.offset⟩⟩ :: lexemes) := by
  have present : ¬chars.isEmpty = true := by
    intro empty
    rw [List.isEmpty_iff.mp empty] at shape
    cases shape
  have plain : c ≠ '#' := fun same => opens (by simp [same])
  have inline : c ≠ '\n' := fun same => opens (by simp [same])
  rw [lexFrom, if_neg present]
  dsimp only
  rw [if_neg Bool.false_ne_true]
  split
  · next empty =>
    rw [shape] at empty
    cases empty
  · next other others same =>
    rw [shape] at same
    obtain ⟨rfl, rfl⟩ := List.cons.inj same
    rw [if_neg plain, if_neg inline, scan]
    dsimp only
    rw [counts]

theorem lexFrom_line {cursor : Cursor} {chars rest : List Char} {c : Char}
    (shape : chars.dropWhile isLineBlank = c :: rest) (opens : Opens c) {marks : List Token}
    {blocks : List Nat}
    (layout : layoutMarks? (indentWidth (chars.takeWhile isLineBlank)) cursor.blocks =
      some (marks, blocks)) :
    lexFrom cursor true chars =
      let after := cursor.pass (chars.takeWhile isLineBlank)
      (do
        let lexemes ← lexFrom { after with blocks := blocks } false (c :: rest)
        return marks.map (⟨·, ⟨cursor.offset, after.offset⟩⟩) ++ lexemes) := by
  have present : ¬chars.isEmpty = true := by
    intro empty
    rw [List.isEmpty_iff.mp empty] at shape
    cases shape
  have going : ¬endsLine (c :: rest) = true := by
    unfold Opens at opens
    unfold endsLine
    simp_all
  rw [lexFrom, if_neg present]
  dsimp only
  rw [if_pos rfl, shape, if_neg going, layout]

theorem lexFrom_newline {cursor : Cursor} {chars rest : List Char}
    (shape : chars.dropWhile isLineBlank = '\n' :: rest) (closed : cursor.depth = 0) :
    lexFrom cursor false chars =
      let after := cursor.pass (chars.takeWhile isLineBlank)
      let next := after.pass ['\n']
      (do
        let lexemes ← lexFrom { next with midLine := false } true rest
        return ⟨.newline, ⟨after.offset, next.offset⟩⟩ :: lexemes) := by
  have present : ¬chars.isEmpty = true := by
    intro empty
    rw [List.isEmpty_iff.mp empty] at shape
    cases shape
  rw [lexFrom, if_neg present]
  dsimp only
  rw [if_neg Bool.false_ne_true]
  split
  · next empty =>
    rw [shape] at empty
    cases empty
  · next other others same =>
    rw [shape] at same
    obtain ⟨rfl, rfl⟩ := List.cons.inj same
    rw [if_neg (by decide), if_pos rfl, if_pos closed]

theorem lexFrom_tabs {offset level : Nat} {blocks inner : List Nat} {first : Char} {more : List Char}
    {marks : List Token} (opens : Opens first)
    (layout : layoutMarks? level blocks = some (marks, inner)) :
    lexFrom ⟨offset, blocks, 0, false⟩ true (List.replicate level '\t' ++ first :: more) =
      (do
        let lexemes ← lexFrom ⟨offset + Text.byteSize (List.replicate level '\t'), inner, 0, false⟩
          false (first :: more)
        return marks.map (⟨·, ⟨offset, offset + Text.byteSize (List.replicate level '\t')⟩⟩)
          ++ lexemes) := by
  have visible := isLineBlank_of_opens opens
  have tabs : ∀ c ∈ List.replicate level '\t', isLineBlank c = true := by
    intro c member
    rw [List.eq_of_mem_replicate member]
    rfl
  have behind := dropWhile_stops tabs (stops_cons visible more)
  have taken := takeWhile_stops tabs (stops_cons visible more)
  have width : indentWidth ((List.replicate level '\t' ++ first :: more).takeWhile isLineBlank) =
      level := by
    rw [taken, indentWidth, List.countP_replicate]
    rfl
  rw [← width] at layout
  rw [lexFrom_line behind opens layout, taken]
  rfl

def depthBehind (depth : Nat) (token : Token) : Option Nat :=
  (⟨0, [], depth, true⟩ : Cursor).countParens? token

theorem countParens?_eq (cursor : Cursor) (token : Token) :
    cursor.countParens? token = depthBehind cursor.depth token := by
  unfold depthBehind Cursor.countParens?
  rfl

def depthBehindAll (depth : Nat) (tokens : List Token) : Option Nat :=
  tokens.foldlM depthBehind depth

/-- What is left is read as these tokens, wherever in the source it is. -/
def Lexes (blocks : List Nat) (depth : Nat) (midLine lineStart : Bool) (chars : List Char)
    (tokens : List Token) : Prop :=
  ∀ offset, ∃ lexemes, lexFrom ⟨offset, blocks, depth, midLine⟩ lineStart chars = .ok lexemes ∧
    lexemes.map Lexeme.token = tokens

namespace Lexes

variable {blocks : List Nat} {blanks more : List Char} {tokens : List Token}

theorem token {text : List Char} {token : Token} {end_ : Char} {depth inner : Nat} {midLine : Bool}
    (scans : Scans text token end_) (counts : depthBehind depth token = some inner)
    (rest : Lexes blocks inner true false (end_ :: more) tokens)
    (blank : ∀ c ∈ blanks, isLineBlank c = true) :
    Lexes blocks depth midLine false (blanks ++ text ++ end_ :: more) (token :: tokens) := by
  obtain ⟨first, others, rfl, opens, scan⟩ := scans
  intro offset
  have behind : (blanks ++ first :: others ++ end_ :: more).dropWhile isLineBlank =
      first :: (others ++ end_ :: more) := by
    rw [List.append_assoc, List.cons_append]
    exact dropWhile_stops blank (stops_cons (isLineBlank_of_opens opens) _)
  have counted : (⟨offset, blocks, depth, midLine⟩ : Cursor).countParens? token = some inner :=
    (countParens?_eq _ token).trans counts
  rw [lexFrom_token behind opens (scan more) counted, List.drop_left]
  obtain ⟨lexemes, read, same⟩ := rest _
  dsimp only [Cursor.pass]
  rw [read]
  exact ⟨_, rfl, congrArg (token :: ·) same⟩

theorem newline {midLine : Bool} (rest : Lexes blocks 0 false true more tokens)
    (blank : ∀ c ∈ blanks, isLineBlank c = true) :
    Lexes blocks 0 midLine false (blanks ++ '\n' :: more) (.newline :: tokens) := by
  intro offset
  have behind : (blanks ++ '\n' :: more).dropWhile isLineBlank = '\n' :: more :=
    dropWhile_stops blank (stops_cons (by decide) _)
  rw [lexFrom_newline behind rfl]
  obtain ⟨lexemes, read, same⟩ := rest _
  dsimp only [Cursor.pass]
  rw [read]
  exact ⟨_, rfl, congrArg (Token.newline :: ·) same⟩

theorem line {level : Nat} {first : Char} {marks : List Token} {inner : List Nat} (opens : Opens first)
    (layout : layoutMarks? level blocks = some (marks, inner))
    (rest : Lexes inner 0 false false (first :: more) tokens) :
    Lexes blocks 0 false true (List.replicate level '\t' ++ first :: more) (marks ++ tokens) := by
  intro offset
  obtain ⟨lexemes, read, same⟩ := rest _
  rw [lexFrom_tabs opens layout, read]
  refine ⟨_, rfl, ?_⟩
  rw [List.map_append, List.map_map, same]
  exact congrArg (· ++ tokens) (List.map_id marks)

theorem unique {depth : Nat} {midLine lineStart : Bool} {others : List Token}
    (read : Lexes blocks depth midLine lineStart more tokens)
    (readOther : Lexes blocks depth midLine lineStart more others) : tokens = others := by
  obtain ⟨lexemes, succeeded, rfl⟩ := read 0
  obtain ⟨again, succeededAgain, rfl⟩ := readOther 0
  rw [succeeded] at succeededAgain
  cases succeededAgain
  rfl

/-- Lines of the same indentation are read in the same way whatever blocks are open, apart from the marks
in front of them. -/
theorem reopen {level : Nat} {first : Char} {others inner : List Nat} {marks otherMarks : List Token}
    (opens : Opens first) (layout : layoutMarks? level blocks = some (marks, inner))
    (layoutOther : layoutMarks? level others = some (otherMarks, inner))
    (read : Lexes blocks 0 false true (List.replicate level '\t' ++ first :: more) tokens) :
    ∃ rest, tokens = marks ++ rest ∧
      Lexes others 0 false true (List.replicate level '\t' ++ first :: more) (otherMarks ++ rest) := by
  have plain (marks : List Token) (span : Text.Span) :
      (marks.map (fun token => (⟨token, span⟩ : Lexeme))).map Lexeme.token = marks := by
    rw [List.map_map]
    exact List.map_id marks
  have behind (offset : Nat) : ∃ lexemes, lexFrom
      ⟨offset + Text.byteSize (List.replicate level '\t'), inner, 0, false⟩ false (first :: more) =
        .ok lexemes ∧ tokens = marks ++ lexemes.map Lexeme.token := by
    obtain ⟨lexemes, succeeded, same⟩ := read offset
    rw [lexFrom_tabs opens layout] at succeeded
    obtain ⟨behind, readBehind, all⟩ := bind_ok succeeded
    cases all
    rw [List.map_append, plain] at same
    exact ⟨behind, readBehind, same.symm⟩
  obtain ⟨start, -, same⟩ := behind 0
  refine ⟨start.map Lexeme.token, same, fun offset => ?_⟩
  obtain ⟨lexemes, readBehind, again⟩ := behind offset
  rw [same] at again
  rw [lexFrom_tabs opens layoutOther, readBehind]
  refine ⟨_, rfl, ?_⟩
  rw [List.map_append, plain, List.append_cancel_left again]

theorem finished : Lexes blocks 0 false true [] (List.replicate blocks.length .dedent) := by
  intro offset
  rw [lexFrom]
  refine ⟨_, rfl, ?_⟩
  simp [List.map_const']

end Lexes

/-! ### Lines -/

namespace Token

/-- A character that belongs to no word, number or pair ends every token. -/
theorem ends_of_plain (token : Token) {c : Char} (word : continuesWord c = false)
    (digit : c.isDigit = false) (point : c ≠ '.') (equals : c ≠ '=') : token.Ends c := by
  cases token with
  | number => exact ⟨digit, point⟩
  | ident | keyword => exact word
  | symbol => exact .inr (.inr equals)
  | text | newline | indent | dedent => trivial

theorem ends_blank (token : Token) : token.Ends ' ' :=
  token.ends_of_plain (by decide) (by decide) (by decide) (by decide)

theorem ends_newline (token : Token) : token.Ends '\n' :=
  token.ends_of_plain (by decide) (by decide) (by decide) (by decide)

/-- Where no blank is needed, the text of the next token ends the one before it. -/
theorem ends_of_touches {left right : Token} (near : left.touches right = true)
    (legible : right.Legible) (hand : Hand) :
    ∃ first others, right.chars hand = first :: others ∧ left.Ends first := by
  obtain ⟨first, others, chars, -, -⟩ := right.scans legible hand right.ends_newline
  unfold touches at near
  split at near
  · exact ⟨first, others, chars, .inl rfl⟩
  · exact ⟨first, others, chars, .inr (.inl rfl)⟩
  · cases near
  · exact ⟨')', [], rfl, left.ends_of_plain (by decide) (by decide) (by decide) (by decide)⟩
  · exact ⟨',', [], rfl, left.ends_of_plain (by decide) (by decide) (by decide) (by decide)⟩
  · next apart =>
    refine ⟨'.', [], rfl, ?_⟩
    cases left with
    | number n => exact absurd rfl (apart n)
    | ident | keyword => exact (by decide : continuesWord '.' = false)
    | symbol => exact .inr (.inr (by decide))
    | text | newline | indent | dedent => trivial
  · exact ⟨'(', [], rfl, (by decide : continuesWord '(' = false)⟩
  · cases near

end Token

theorem lexes_line {blocks : List Nat} {more : List Char} {tokens : List Token} (hand : Hand)
    (rest : Lexes blocks 0 false true more tokens) {line : List Token}
    (legible : ∀ token ∈ line, token.Legible) {depth : Nat}
    (closed : depthBehindAll depth line = some 0) {midLine : Bool} {blanks : List Char}
    (blank : ∀ c ∈ blanks, isLineBlank c = true) :
    Lexes blocks depth midLine false (blanks ++ lineChars hand line ++ '\n' :: more)
      (line ++ .newline :: tokens) := by
  induction line generalizing depth midLine blanks with
  | nil =>
    cases closed
    rw [lineChars, List.append_nil]
    exact rest.newline blank
  | cons token others ih =>
    obtain ⟨here, behind⟩ := List.forall_mem_cons.mp legible
    obtain ⟨inner, counts, remaining⟩ := Option.bind_eq_some_iff.mp closed
    have later {gap : List Char} (blank : ∀ c ∈ gap, isLineBlank c = true) :
        Lexes blocks inner true false (gap ++ lineChars hand others ++ '\n' :: more)
          (others ++ .newline :: tokens) :=
      ih behind remaining blank
    -- What stands behind the token ends it: the end of the line, a blank, or the next token.
    obtain ⟨gap, separated⟩ : ∃ gap, token.gap others = gap := ⟨_, rfl⟩
    have seam : ∃ end_ left, gap ++ lineChars hand others ++ '\n' :: more = end_ :: left ∧
        token.Ends end_ ∧ ∀ c ∈ gap, isLineBlank c = true := by
      subst separated
      cases others with
      | nil => exact ⟨'\n', more, rfl, token.ends_newline, nofun⟩
      | cons right beyond =>
        rw [Token.gap]
        split
        · next near =>
          obtain ⟨first, rest, chars, ends⟩ :=
            Token.ends_of_touches near (behind right List.mem_cons_self) hand
          rw [lineChars, chars]
          exact ⟨first, _, rfl, ends, nofun⟩
        · exact ⟨' ', _, rfl, token.ends_blank, List.forall_mem_singleton.mpr rfl⟩
    obtain ⟨end_, left, same, ends, gapBlank⟩ := seam
    have read := later gapBlank
    rw [same] at read
    have all : Lexes blocks depth midLine false (blanks ++ token.chars hand ++ end_ :: left)
        (token :: (others ++ .newline :: tokens)) :=
      Lexes.token (token.scans here hand ends) counts read blank
    rw [← same] at all
    rw [lineChars, separated]
    simpa only [List.append_assoc, List.cons_append] using all

/-! ### Outlines -/

structure LegibleLine (line : List Token) : Prop where
  present : line ≠ []
  legible : ∀ token ∈ line, token.Legible
  closed : depthBehindAll 0 line = some 0

mutual

def Outline.Legible : Outline → Prop
  | .entry line block => LegibleLine line ∧ Outline.AllLegible block
termination_by structural outline => outline

def Outline.AllLegible : List Outline → Prop
  | [] => True
  | outline :: rest => Outline.Legible outline ∧ Outline.AllLegible rest
termination_by structural outlines => outlines

end

def levels : Nat → List Nat
  | 0 => []
  | level + 1 => (level + 1) :: levels level

theorem levels_headD (level : Nat) : (levels level).headD 0 = level := by
  cases level <;> rfl

theorem length_levels (level : Nat) : (levels level).length = level := by
  induction level with
  | zero => rfl
  | succ level ih => rw [levels, List.length_cons, ih]

theorem closeBlocks_levels {width level : Nat} (within : width ≤ level) :
    closeBlocks width (levels level) = (level - width, levels width) := by
  induction level with
  | zero =>
    rw [Nat.le_zero.mp within]
    rfl
  | succ level ih =>
    rw [levels, closeBlocks]
    split
    · rw [ih (by omega)]
      congr 1
      omega
    · have same : width = level + 1 := by omega
      rw [same, Nat.sub_self, levels]

theorem layoutMarks?_levels {width level : Nat} (within : width ≤ level) :
    layoutMarks? width (levels level) =
      some (List.replicate (level - width) .dedent, levels width) := by
  rw [layoutMarks?, levels_headD, if_neg (by omega), closeBlocks_levels within]
  dsimp only
  rw [levels_headD, if_pos rfl]

theorem layoutMarks?_same (level : Nat) :
    layoutMarks? level (levels level) = some ([], levels level) := by
  rw [layoutMarks?_levels (Nat.le_refl level), Nat.sub_self, List.replicate_zero]

theorem layoutMarks?_deeper (level : Nat) :
    layoutMarks? (level + 1) (levels level) = some ([.indent], levels (level + 1)) := by
  rw [layoutMarks?, levels_headD, if_pos (Nat.lt_succ_self level), levels]

def Outset (level : Nat) (chars : List Char) : Prop :=
  chars = [] ∨ ∃ width first rest, width ≤ level ∧ Opens first ∧
    chars = List.replicate width '\t' ++ first :: rest

theorem Outset.mono {level other : Nat} {chars : List Char} (outset : Outset level chars)
    (within : level ≤ other) : Outset other chars := by
  rcases outset with rfl | ⟨width, first, rest, small, opens, rfl⟩
  · exact .inl rfl
  · exact .inr ⟨width, first, rest, small.trans within, opens, rfl⟩

theorem Lexes.leave {level : Nat} {chars : List Char} {tokens : List Token}
    (outset : Outset level chars) (read : Lexes (levels level) 0 false true chars tokens) :
    Lexes (levels (level + 1)) 0 false true chars (.dedent :: tokens) := by
  rcases outset with rfl | ⟨width, first, rest, small, opens, rfl⟩
  · have finished : Lexes (levels (level + 1)) 0 false true [] _ := finished
    rw [length_levels, List.replicate_succ] at finished
    rw [read.unique Lexes.finished, length_levels]
    exact finished
  · have wider : layoutMarks? width (levels (level + 1)) =
        some (.dedent :: List.replicate (level - width) .dedent, levels width) := by
      rw [layoutMarks?_levels (Nat.le_succ_of_le small), Nat.succ_sub small, List.replicate_succ]
    obtain ⟨behind, rfl, reread⟩ := read.reopen opens (layoutMarks?_levels small) wider
    exact reread

theorem Lexes.enter {level : Nat} {first : Char} {more : List Char} {tokens : List Token}
    (opens : Opens first)
    (read : Lexes (levels (level + 1)) 0 false true
      (List.replicate (level + 1) '\t' ++ first :: more) tokens) :
    Lexes (levels level) 0 false true (List.replicate (level + 1) '\t' ++ first :: more)
      (.indent :: tokens) := by
  obtain ⟨behind, rfl, reread⟩ :=
    read.reopen opens (layoutMarks?_same (level + 1)) (layoutMarks?_deeper level)
  exact reread

theorem LegibleLine.starts {line : List Token} (legible : LegibleLine line) (hand : Hand) :
    ∃ first others, lineChars hand line = first :: others ∧ Opens first := by
  cases line with
  | nil => exact absurd rfl legible.present
  | cons token rest =>
    obtain ⟨first, others, chars, opens, -⟩ :=
      token.scans (legible.legible token List.mem_cons_self) hand token.ends_newline
    rw [lineChars, chars]
    exact ⟨first, _, rfl, opens⟩

theorem Outline.starts {outline : Outline} (legible : outline.Legible) (hand : Hand) (level : Nat)
    (more : List Char) : ∃ first rest, Opens first ∧
      outline.chars hand level ++ more = List.replicate level '\t' ++ first :: rest := by
  obtain ⟨line, block⟩ := outline
  rw [Outline.Legible] at legible
  obtain ⟨first, others, chars, opens⟩ := legible.1.starts hand
  refine ⟨first, others ++ '\n' :: (Outline.charsOfAll hand (level + 1) block ++ more), opens, ?_⟩
  rw [Outline.chars, chars]
  simp only [List.append_assoc, List.cons_append]

theorem Outline.outset {outlines : List Outline} (legible : Outline.AllLegible outlines) (hand : Hand)
    {level : Nat} {more : List Char} (outset : Outset level more) :
    Outset level (Outline.charsOfAll hand level outlines ++ more) := by
  cases outlines with
  | nil => exact outset
  | cons outline rest =>
    rw [Outline.AllLegible] at legible
    obtain ⟨first, others, opens, same⟩ :=
      outline.starts legible.1 hand level (Outline.charsOfAll hand level rest ++ more)
    rw [Outline.charsOfAll, List.append_assoc, same]
    exact .inr ⟨level, first, others, Nat.le_refl level, opens, rfl⟩

theorem LegibleLine.lexes {line : List Token} (legible : LegibleLine line) (hand : Hand) {level : Nat}
    {more : List Char} {tokens : List Token} (rest : Lexes (levels level) 0 false true more tokens) :
    Lexes (levels level) 0 false true
      (List.replicate level '\t' ++ lineChars hand line ++ '\n' :: more)
      (line ++ .newline :: tokens) := by
  have none : ∀ c ∈ ([] : List Char), isLineBlank c = true := nofun
  have read : Lexes (levels level) 0 false false (lineChars hand line ++ '\n' :: more)
      (line ++ .newline :: tokens) :=
    lexes_line hand rest legible.legible legible.closed none
  obtain ⟨first, others, chars, opens⟩ := legible.starts hand
  rw [chars] at read
  rw [chars, List.append_assoc]
  have all : Lexes (levels level) 0 false true
      (List.replicate level '\t' ++ first :: (others ++ '\n' :: more))
      ([] ++ (line ++ .newline :: tokens)) :=
    Lexes.line opens (layoutMarks?_same level) read
  exact all

mutual

/-- The text of an outline is read as its tokens with the marks of its blocks. -/
theorem Outline.lexes (hand : Hand) : (outline : Outline) → outline.Legible →
    ∀ (level : Nat) (more : List Char) (tokens : List Token), Outset level more →
    Lexes (levels level) 0 false true more tokens →
    Lexes (levels level) 0 false true (outline.chars hand level ++ more) (outline.tokens ++ tokens)
  | .entry line [], legible => by
    intro level more tokens outset rest
    rw [Outline.Legible] at legible
    rw [Outline.chars, Outline.charsOfAll, Outline.tokens]
    have read := legible.1.lexes hand rest
    simpa only [List.append_assoc, List.cons_append, List.nil_append] using read
  | .entry line (outline :: others), legible => by
    intro level more tokens outset rest
    rw [Outline.Legible, Outline.AllLegible] at legible
    obtain ⟨inline, here, behind⟩ := legible
    have left := Lexes.leave outset rest
    have deeper := outset.mono (Nat.le_succ level)
    have readOthers := Outline.lexesAll hand others behind (level + 1) more _ deeper left
    have readBlock := Outline.lexes hand outline here (level + 1) _ _
      (Outline.outset behind hand deeper) readOthers
    obtain ⟨first, chars, opens, starts⟩ := outline.starts here hand (level + 1)
      (Outline.charsOfAll hand (level + 1) others ++ more)
    rw [starts] at readBlock
    have entered := readBlock.enter opens
    rw [← starts] at entered
    have read := inline.lexes hand entered
    rw [Outline.chars, Outline.charsOfAll, Outline.tokens, Outline.tokensOfAll]
    simpa only [List.append_assoc, List.cons_append, List.nil_append] using read
termination_by structural outline => outline

theorem Outline.lexesAll (hand : Hand) : (outlines : List Outline) → Outline.AllLegible outlines →
    ∀ (level : Nat) (more : List Char) (tokens : List Token), Outset level more →
    Lexes (levels level) 0 false true more tokens →
    Lexes (levels level) 0 false true (Outline.charsOfAll hand level outlines ++ more)
      (Outline.tokensOfAll outlines ++ tokens)
  | [], _ => fun _ _ _ _ rest => rest
  | outline :: others, legible => by
    intro level more tokens outset rest
    rw [Outline.AllLegible] at legible
    have behind := Outline.lexesAll hand others legible.2 level more tokens outset rest
    have all := Outline.lexes hand outline legible.1 level _ _
      (Outline.outset legible.2 hand outset) behind
    rw [Outline.charsOfAll, Outline.tokensOfAll, List.append_assoc, List.append_assoc]
    exact all
termination_by structural outlines => outlines

end

theorem Tree.lex_write (hand : Hand) {tree : Tree}
    (legible : Outline.AllLegible (tree.items.map (Item.outline hand))) :
    ∃ lexemes, lex (tree.write hand) = .ok lexemes ∧
      lexemes.map Lexeme.token = Outline.tokensOfAll (tree.items.map (Item.outline hand)) := by
  have finished : Lexes (levels 0) 0 false true [] [] := Lexes.finished
  have read := Outline.lexesAll hand _ legible 0 [] [] (.inl rfl) finished 0
  rw [List.append_nil, List.append_nil] at read
  rw [lex, Tree.write, String.toList_ofList]
  exact read

end Stagecraft.Script
