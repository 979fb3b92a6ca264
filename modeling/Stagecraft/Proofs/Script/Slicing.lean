import Stagecraft.Proofs.Script.Lines
import Stagecraft.Proofs.Script.LogicalLines
import Stagecraft.Script.Slicing

/-!
Lexing in place is lexing: what is read by moving a byte offset through a source is what is read of its characters,
and every slice on the way has its ends between characters.
-/

namespace Stagecraft.Script.Slicing

open Text (Span byteSize)

def Faces (source : List Char) (offset : Nat) (chars : List Char) : Prop :=
  ∃ before, source = before ++ chars ∧ offset = byteSize before

theorem Faces.pass {source piece behind : List Char} {offset : Nat} (faces : Faces source offset (piece ++ behind)) :
    Faces source (offset + byteSize piece) behind := by
  obtain ⟨before, rfl, rfl⟩ := faces
  exact ⟨before ++ piece, (List.append_assoc ..).symm, (Text.byteSize_append ..).symm⟩

theorem Faces.length_le {source chars : List Char} {offset : Nat} (faces : Faces source offset chars) :
    chars.length ≤ source.length := by
  obtain ⟨before, rfl, -⟩ := faces
  rw [List.length_append]
  exact Nat.le_add_left _ _

def Stand.pass (stand : Stand) (chars : List Char) : Stand := { stand with pos := stand.pos + byteSize chars }

theorem Stand.pass_append (stand : Stand) (first second : List Char) :
    stand.pass (first ++ second) = (stand.pass first).pass second := by
  unfold Stand.pass
  rw [Text.byteSize_append, Nat.add_assoc]

section Chains

variable {α β : Type} {action : Slicer α} {next : α → Slicer β} {stand : Stand}

theorem bind_ran {found : α} {after : Stand} (ran : action stand = .ok (found, after)) :
    (action >>= next) stand = next found after := by
  change (action stand >>= fun result => next result.1 result.2) = _
  rw [ran]
  rfl

theorem bind_stopped {stop : Stop} (stopped : action stand = .error stop) :
    (action >>= next) stand = .error stop := by
  change (action stand >>= fun result => next result.1 result.2) = _
  rw [stopped]
  rfl

theorem here_bind (next : Nat → Slicer β) : (here >>= next) stand = next stand.pos stand := rfl

end Chains

/-! ### Looking at the source -/

section Looks

variable {source chars : List Char} {stand : Stand} (faces : Faces source stand.pos chars)

theorem slice_eq {piece behind : List Char} {start stop : Nat} (faces : Faces source start (piece ++ behind))
    (size : stop = start + byteSize piece) (stand : Stand) :
    slice source start stop stand = .ok (piece, stand) := by
  obtain ⟨before, rfl, rfl⟩ := faces
  subst size
  unfold slice
  rw [← Text.byteSize_append, ← List.append_assoc, Text.slice?_append]
  rfl

theorem slice_pass {piece behind : List Char} (faces : Faces source stand.pos (piece ++ behind)) (after : Stand) :
    slice source stand.pos (stand.pass piece).pos after = .ok (piece, after) :=
  slice_eq faces rfl after

include faces

theorem rest_eq : rest source stand = .ok (chars, stand) := by
  have size : byteSize source = stand.pos + byteSize chars := by
    obtain ⟨before, rfl, same⟩ := faces
    rw [same, Text.byteSize_append]
  have all : Faces source stand.pos (chars ++ []) := by rwa [List.append_nil]
  unfold rest
  rw [here_bind, slice_eq all size]

theorem current_eq : current source stand = .ok (chars.headD '\x00', stand) := bind_ran (rest_eq faces)

theorem peek_eq : peek source stand = .ok (chars[1]?.getD '\x00', stand) := bind_ran (rest_eq faces)

theorem inside_eq : inside source stand = .ok (!chars.isEmpty, stand) := by
  have left : decide (stand.pos < byteSize source) = !chars.isEmpty := by
    obtain ⟨before, rfl, same⟩ := faces
    rw [same, Text.byteSize_append]
    cases chars with
    | nil => exact decide_eq_false (Nat.lt_irrefl _)
    | cons c more =>
      have wide := Text.byteSize_pos (List.cons_ne_nil c more)
      exact decide_eq_true (by omega)
  rw [← left]
  rfl

theorem advance_eq : advance source stand = .ok ((), stand.pass (chars.take 1)) := by
  unfold advance
  rw [bind_ran (inside_eq faces)]
  cases chars with
  | nil => rfl
  | cons c more =>
    rw [List.isEmpty_cons, Bool.not_false, if_pos rfl, bind_ran (current_eq faces)]
    unfold Stand.pass
    rw [List.take_succ_cons, List.take_zero, Text.byteSize_singleton]
    rfl

theorem atSome_eq {test : Char → Bool} (stops : test '\x00' = false) :
    atSome source test stand = .ok (chars.head?.any test, stand) := by
  unfold atSome
  rw [bind_ran (current_eq faces)]
  cases chars with
  | nil => rw [List.headD_nil, stops]; rfl
  | cons c more => rfl

theorem insideAnd_eq (test : Char → Bool) : insideAnd source test stand = .ok (chars.head?.any test, stand) := by
  unfold insideAnd
  rw [bind_ran (inside_eq faces)]
  cases chars with
  | nil => rfl
  | cons c more => exact bind_ran (current_eq faces)

end Looks

theorem advance_cons {source more : List Char} {c : Char} {stand : Stand}
    (faces : Faces source stand.pos (c :: more)) : advance source stand = .ok ((), stand.pass [c]) :=
  advance_eq faces

theorem Faces.behind {source more : List Char} {c : Char} {stand : Stand}
    (faces : Faces source stand.pos (c :: more)) : Faces source (stand.pass [c]).pos more := by
  have passed : Faces source stand.pos ([c] ++ more) := faces
  exact passed.pass

/-! ### Loops -/

theorem exists_stops (p : Char → Bool) (chars : List Char) :
    ∃ taken left, chars = taken ++ left ∧ (∀ c ∈ taken, p c = true) ∧ Stops p left := by
  refine ⟨_, _, List.takeWhile_append_dropWhile.symm, fun c member => List.mem_takeWhile_imp member, ?_⟩
  intro c head
  have outside := List.head?_dropWhile_not p chars
  rw [head] at outside
  simpa using outside

section Loops

variable {source : List Char}

/-- A loop stops in front of the first character that does not satisfy its test. -/
theorem advanceWhile_eq {going : Slicer Bool} {test : Char → Bool}
    (answers : ∀ {stand : Stand} {chars : List Char}, Faces source stand.pos chars →
      going stand = .ok (chars.head?.any test, stand)) {fuel : Nat} {chars : List Char} {stand : Stand}
    (faces : Faces source stand.pos chars) (enough : chars.length ≤ fuel) :
    advanceWhile source going fuel stand = .ok ((), stand.pass (chars.takeWhile test)) := by
  induction fuel generalizing chars stand with
  | zero =>
    obtain rfl := List.eq_nil_of_length_eq_zero (Nat.le_zero.mp enough)
    rfl
  | succ fuel ih =>
    unfold advanceWhile
    rw [bind_ran (answers faces)]
    cases chars with
    | nil => rfl
    | cons c more =>
      rw [List.head?_cons, Option.any_some, List.takeWhile_cons]
      split
      · rw [bind_ran (advance_cons faces), ih faces.behind (Nat.le_of_succ_le_succ enough), ← Stand.pass_append]
        rfl
      · rfl

theorem loop_eq {going : Slicer Bool} {test : Char → Bool}
    (answers : ∀ {stand : Stand} {chars : List Char}, Faces source stand.pos chars →
      going stand = .ok (chars.head?.any test, stand)) {taken left : List Char} {stand : Stand}
    (faces : Faces source stand.pos (taken ++ left)) (inside : ∀ c ∈ taken, test c = true) (ends : Stops test left) :
    advanceWhile source going source.length stand = .ok ((), stand.pass taken) := by
  rw [advanceWhile_eq answers faces faces.length_le, takeWhile_stops inside ends]

theorem countIndent_eq {fuel : Nat} {chars : List Char} {stand : Stand} (faces : Faces source stand.pos chars)
    (enough : chars.length ≤ fuel) : countIndent source fuel stand =
      .ok (indentWidth (chars.takeWhile isLineBlank), stand.pass (chars.takeWhile isLineBlank)) := by
  induction fuel generalizing chars stand with
  | zero =>
    obtain rfl := List.eq_nil_of_length_eq_zero (Nat.le_zero.mp enough)
    rfl
  | succ fuel ih =>
    unfold countIndent
    rw [bind_ran (inside_eq faces)]
    cases chars with
    | nil => rfl
    | cons c more =>
      have others := ih faces.behind (Nat.le_of_succ_le_succ enough)
      rw [List.isEmpty_cons, Bool.not_false, if_pos rfl, bind_ran (current_eq faces), List.headD_cons,
        List.takeWhile_cons]
      by_cases wide : c = '\t' ∨ c = ' '
      · have blank : isLineBlank c = true := by rcases wide with rfl | rfl <;> rfl
        have counts : c ≠ '\r' := by rcases wide with rfl | rfl <;> decide
        rw [if_pos wide, if_pos blank, bind_ran (advance_cons faces), bind_ran others, ← Stand.pass_append]
        unfold indentWidth
        rw [List.countP_cons_of_pos (p := fun d => decide (d ≠ '\r')) (decide_eq_true counts)]
        rfl
      · by_cases return_ : c = '\r'
        · subst return_
          rw [if_neg wide, if_pos rfl, bind_ran (advance_cons faces), others, ← Stand.pass_append]
          rfl
        · have visible : isLineBlank c = false := by
            simp_all [isLineBlank]
          rw [if_neg wide, if_neg return_, visible]
          rfl

variable {chars : List Char} {stand : Stand} (faces : Faces source stand.pos chars)
include faces

theorem skipComment_eq : skipComment source stand = .ok ((), stand.pass (chars.takeWhile (· ≠ '\n'))) :=
  advanceWhile_eq (fun faces => insideAnd_eq faces _) faces faces.length_le

theorem skipBlanks_eq : skipBlanks source stand = .ok ((), stand.pass (chars.takeWhile isLineBlank)) :=
  advanceWhile_eq (fun faces => insideAnd_eq faces _) faces faces.length_le

end Loops

/-! ### Tokens -/

def Reads (action : Slicer Lexeme) (stand : Stand) (c : Char) (more : List Char) : Prop :=
  action stand = match scanToken c more with
    | .error (issue, length) => .error (.fault ⟨issue, ⟨stand.pos, (stand.pass (c :: more.take length)).pos⟩⟩)
    | .ok (token, length) =>
      match depthBehind stand.depth token with
      | none => .error (.fault ⟨.unmatchedClosing, ⟨stand.pos, (stand.pass (c :: more.take length)).pos⟩⟩)
      | some depth =>
        .ok (⟨token, ⟨stand.pos, (stand.pass (c :: more.take length)).pos⟩⟩,
          { stand.pass (c :: more.take length) with depth := depth })

section Tokens

variable {action : Slicer Lexeme} {source text behind : List Char} {c : Char} {stand : Stand}

theorem Reads.token {token : Token} (scan : scanToken c (text ++ behind) = .ok (token, text.length))
    (counts : depthBehind stand.depth token = some stand.depth)
    (ran : action stand = .ok (⟨token, ⟨stand.pos, (stand.pass (c :: text)).pos⟩⟩, stand.pass (c :: text))) :
    Reads action stand c (text ++ behind) := by
  unfold Reads
  rw [scan]
  dsimp only
  rw [counts, List.take_left, ran]
  rfl

theorem Reads.issue {issue : LexIssue} (scan : scanToken c (text ++ behind) = .error (issue, text.length))
    (ran : action stand = .error (.fault ⟨issue, ⟨stand.pos, (stand.pass (c :: text)).pos⟩⟩)) :
    Reads action stand c (text ++ behind) := by
  unfold Reads
  rw [scan]
  dsimp only
  rw [List.take_left, ran]

theorem text_reads {more : List Char} (faces : Faces source stand.pos ('"' :: more)) :
    Reads (Slicing.text source) stand '"' more := by
  obtain ⟨content, left, rfl, inside, ends⟩ := exists_stops (fun d => d ≠ '"' ∧ d ≠ '\n') more
  have opened := faces.behind
  have ended : Faces source ((stand.pass ['"']).pass content).pos left := opened.pass
  have loop := loop_eq (fun faces => insideAnd_eq faces _) opened inside ends
  have taken : (content ++ left).takeWhile (fun d => d ≠ '"' ∧ d ≠ '\n') = content := takeWhile_stops inside ends
  have ran : Slicing.text source stand = (if left.headD '\x00' = '"' then do
        let content ← slice source (stand.pass ['"']).pos ((stand.pass ['"']).pass content).pos
        advance source
        return ⟨.text (String.ofList content), ⟨stand.pos, ← here⟩⟩
      else throw (.fault ⟨.unterminatedText, ⟨stand.pos, ((stand.pass ['"']).pass content).pos⟩⟩) : Slicer Lexeme)
        ((stand.pass ['"']).pass content) := by
    unfold Slicing.text
    rw [here_bind, bind_ran (advance_cons faces), here_bind, bind_ran loop, here_bind, bind_ran (current_eq ended)]
  by_cases closing : left.head? = some '"'
  · obtain ⟨others, rfl⟩ := List.head?_eq_some_iff.mp closing
    rw [List.headD_cons, if_pos rfl, bind_ran (slice_pass opened _), bind_ran (advance_cons ended), here_bind,
      ← Stand.pass_append, ← Stand.pass_append] at ran
    rw [← List.singleton_append (l := others), ← List.append_assoc]
    refine .token ?_ rfl ran
    rw [List.append_assoc, List.singleton_append, scanToken, if_pos rfl]
    dsimp only
    rw [taken, List.drop_left, List.head?_cons, if_pos rfl, List.length_append]
    rfl
  · have other : left.headD '\x00' ≠ '"' := by
      cases left with
      | nil => decide
      | cons d others => exact fun same => closing (congrArg some same)
    rw [if_neg other, ← Stand.pass_append] at ran
    refine .issue ?_ ran
    rw [scanToken, if_pos rfl]
    dsimp only
    rw [taken, List.drop_left, if_neg closing]

theorem scanNumber_whole {whole left : List Char} (digits : ∀ d ∈ whole, d.isDigit = true)
    (ends : Stops Char.isDigit left) (point : ∀ others, left = '.' :: others → Stops Char.isDigit others) :
    scanNumber (whole ++ left) = (numberOf whole, whole.length) := by
  have all : whole.takeWhile Char.isDigit = whole := List.takeWhile_eq_self_iff.mpr digits
  have none : whole.dropWhile Char.isDigit = [] := List.dropWhile_eq_nil_iff.mpr digits
  unfold scanNumber numberOf
  rw [takeWhile_stops digits ends, dropWhile_stops digits ends, all, none]
  dsimp only
  split
  · next others =>
    have empty : others.takeWhile Char.isDigit = [] := by
      have nothing : ([] ++ others).takeWhile Char.isDigit = [] := takeWhile_stops nofun (point others rfl)
      exact nothing
    rw [empty]
    rfl
  · rfl

theorem scanNumber_fraction {whole fraction behind : List Char} (digits : ∀ d ∈ whole, d.isDigit = true)
    (digitsBehind : ∀ d ∈ fraction, d.isDigit = true) (present : fraction ≠ []) (ends : Stops Char.isDigit behind) :
    scanNumber (whole ++ '.' :: (fraction ++ behind)) =
      (numberOf (whole ++ '.' :: fraction), (whole ++ '.' :: fraction).length) := by
  have point (rest : List Char) : Stops Char.isDigit ('.' :: rest) := stops_cons (by decide) rest
  unfold scanNumber numberOf
  rw [takeWhile_stops digits (point _), dropWhile_stops digits (point _), takeWhile_stops digits (point _),
    dropWhile_stops digits (point _)]
  change (if ((fraction ++ behind).takeWhile Char.isDigit).isEmpty = true then _ else _) = _
  rw [takeWhile_stops digitsBehind ends, if_neg (mt List.isEmpty_iff.mp present), List.length_append,
    List.length_cons]
  refine congrArg (Prod.mk _) ?_
  omega

theorem scanToken_number (digit : c.isDigit = true) (more : List Char) :
    scanToken c more = .ok ((scanNumber (c :: more)).1, (scanNumber (c :: more)).2 - 1) := by
  have quote : c ≠ '"' := by
    rintro rfl
    revert digit
    decide
  rw [scanToken, if_neg quote, if_pos digit]

theorem atDigit_eq {chars : List Char} {stand : Stand} (faces : Faces source stand.pos chars) :
    atSome source Char.isDigit stand = .ok (chars.head?.any Char.isDigit, stand) := atSome_eq faces (by decide)

theorem fraction_digits {digits behind : List Char} (faces : Faces source stand.pos ('.' :: (digits ++ behind)))
    (inside : ∀ d ∈ digits, d.isDigit = true) (present : digits ≠ []) (ends : Stops Char.isDigit behind) :
    fraction source stand = .ok ((), stand.pass ('.' :: digits)) := by
  obtain ⟨d, others, rfl⟩ := List.exists_cons_of_ne_nil present
  have first : ('.' :: (d :: others ++ behind))[1]?.getD '\x00' = d := rfl
  unfold fraction
  rw [bind_ran (current_eq faces), List.headD_cons, if_pos rfl, bind_ran (peek_eq faces), first,
    if_pos (inside d (List.mem_cons_self ..)), bind_ran (advance_cons faces),
    loop_eq atDigit_eq faces.behind inside ends, ← Stand.pass_append]
  rfl

/-- A point without digits behind it is not part of a number. -/
theorem fraction_none {left : List Char} (faces : Faces source stand.pos left)
    (point : ∀ behind, left = '.' :: behind → Stops Char.isDigit behind) :
    fraction source stand = .ok ((), stand.pass []) := by
  unfold fraction
  rw [bind_ran (current_eq faces)]
  cases left with
  | nil => rfl
  | cons d behind =>
    rw [List.headD_cons]
    split
    · next same =>
      subst same
      have none : (('.' :: behind)[1]?.getD '\x00').isDigit = false := by
        cases behind with
        | nil => rfl
        | cons e later => exact point _ rfl e rfl
      rw [bind_ran (peek_eq faces), none]
      rfl
    · rfl

theorem number_reads_of {others behind : List Char} (text : List Char) (digits : ∀ d ∈ c :: others, d.isDigit = true)
    (ends : Stops Char.isDigit (text ++ behind)) (faces : Faces source stand.pos (c :: others ++ (text ++ behind)))
    (moved : fraction source (stand.pass (c :: others)) = .ok ((), (stand.pass (c :: others)).pass text))
    (scan : scanNumber (c :: others ++ (text ++ behind)) =
      (numberOf (c :: others ++ text), (c :: others ++ text).length)) :
    Reads (number source) stand c (others ++ (text ++ behind)) := by
  have all : Faces source stand.pos (c :: (others ++ text) ++ behind) := by
    rw [List.cons_append, List.append_assoc]
    exact faces
  have scanned : scanToken c (others ++ text ++ behind) =
      .ok (numberOf (c :: (others ++ text)), (others ++ text).length) := by
    rw [scanToken_number (digits c (List.mem_cons_self ..)), List.append_assoc, ← List.cons_append, scan]
    rfl
  rw [← List.append_assoc]
  refine .token scanned rfl ?_
  unfold number
  rw [here_bind, bind_ran (loop_eq atDigit_eq faces digits ends), bind_ran moved, here_bind, ← Stand.pass_append,
    List.cons_append, bind_ran (slice_pass all _)]
  rfl

theorem number_reads (digit : c.isDigit = true) {more : List Char} (faces : Faces source stand.pos (c :: more)) :
    Reads (number source) stand c more := by
  obtain ⟨others, left, rfl, inside, ends⟩ := exists_stops Char.isDigit more
  have digits : ∀ d ∈ c :: others, d.isDigit = true := List.forall_mem_cons.mpr ⟨digit, inside⟩
  have whole : Faces source stand.pos (c :: others ++ left) := faces
  have ended : Faces source (stand.pass (c :: others)).pos left := whole.pass
  by_cases point : ∃ behind, left = '.' :: behind ∧ ∃ d ∈ behind.head?, d.isDigit = true
  · obtain ⟨behind, rfl, d, head, digitBehind⟩ := point
    obtain ⟨fraction, behind, rfl, digitsBehind, stops⟩ := exists_stops Char.isDigit behind
    have present : fraction ≠ [] := by
      rintro rfl
      exact Bool.false_ne_true ((stops d head).symm.trans digitBehind)
    have scan := scanNumber_fraction digits digitsBehind present stops
    exact number_reads_of _ digits ends whole (fraction_digits ended digitsBehind present stops) scan
  · have noDigit (behind : List Char) (same : left = '.' :: behind) : Stops Char.isDigit behind := by
      intro d head
      by_contra digitBehind
      exact point ⟨behind, same, d, head, Bool.not_eq_false _ ▸ digitBehind⟩
    refine number_reads_of [] digits ends whole (fraction_none ended noDigit) ?_
    rw [List.append_nil]
    exact scanNumber_whole digits ends noDigit

theorem word_reads (starts : startsWord c = true) {more : List Char} (faces : Faces source stand.pos (c :: more)) :
    Reads (word source) stand c more := by
  obtain ⟨others, left, rfl, inside, ends⟩ := exists_stops continuesWord more
  have letter : continuesWord c = true := by
    unfold startsWord at starts
    unfold continuesWord
    rw [Bool.or_eq_true] at starts ⊢
    exact starts.imp_left Text.isAlphanumeric_of_isAlphabetic
  have letters : ∀ d ∈ c :: others, continuesWord d = true := List.forall_mem_cons.mpr ⟨letter, inside⟩
  have all : Faces source stand.pos ((c :: others) ++ left) := faces
  have loop := loop_eq (fun faces => atSome_eq faces (by decide)) all letters ends
  have scanned : scanToken c (others ++ left) = .ok (Token.ofWord (String.ofList (c :: others)), others.length) := by
    rw [scanToken, if_neg (quote_of_startsWord starts), if_neg (not_isDigit_of_startsWord starts), if_pos starts]
    dsimp only
    rw [takeWhile_stops inside ends]
  refine .token scanned (depthBehind_ofWord _ _) ?_
  unfold word
  rw [here_bind, bind_ran loop, here_bind, bind_ran (slice_pass all _)]
  rfl

theorem countParens_eq (symbol : Symbol) (stand : Stand) : countParens symbol stand =
    match depthBehind stand.depth (.symbol symbol) with
    | none => .error (.fault ⟨.unmatchedClosing, ⟨stand.pos, stand.pos + 1⟩⟩)
    | some depth => .ok ((), { stand with depth := depth }) := by
  cases symbol
  case closing =>
    unfold countParens depthBehind Cursor.countParens?
    change (if stand.depth = 0 then _ else _ : Slicer Unit) stand = _
    dsimp only
    split
    · rfl
    · rfl
  all_goals rfl

theorem ofPair?_peek (c : Char) (more : List Char) :
    Symbol.ofPair? c ((c :: more)[1]?.getD '\x00') = more.head?.bind (Symbol.ofPair? c) := by
  cases more with
  | cons d others => rfl
  | nil =>
    change Symbol.ofPair? c '\x00' = none
    unfold Symbol.ofPair?
    split <;> simp_all

theorem eq_of_unmatched {symbol : Symbol} {depth : Nat} (single : Symbol.ofChar? c = some symbol)
    (unmatched : depthBehind depth (.symbol symbol) = none) : c = ')' := by
  cases symbol
  case closing =>
    unfold Symbol.ofChar? at single
    split at single
    case h_13 => rfl
    all_goals cases single
  all_goals cases unmatched

theorem symbol_eq {more : List Char} (faces : Faces source stand.pos (c :: more)) : symbol source c stand =
    (match more.head?.bind (Symbol.ofPair? c) with
      | some symbol => do
        advance source
        advance source
        return ⟨.symbol symbol, ⟨stand.pos, ← here⟩⟩
      | none => match Symbol.ofChar? c with
        | some symbol => do
          countParens symbol
          advance source
          return ⟨.symbol symbol, ⟨stand.pos, ← here⟩⟩
        | none => throw (.fault ⟨.unexpected c, ⟨stand.pos, stand.pos + c.utf8Size⟩⟩) : Slicer Lexeme) stand := by
  unfold symbol
  rewrite [here_bind, bind_ran (peek_eq faces), ofPair?_peek]
  rfl

theorem symbol_reads (quote : c ≠ '"') (digit : ¬c.isDigit = true) (word : ¬startsWord c = true) {more : List Char}
    (faces : Faces source stand.pos (c :: more)) : Reads (symbol source c) stand c more := by
  have scan := scanToken_symbol quote digit word more
  have ran := symbol_eq faces
  cases pair : more.head?.bind (Symbol.ofPair? c) with
  | some symbol =>
    obtain ⟨d, head, known⟩ := Option.bind_eq_some_iff.mp pair
    obtain ⟨others, rfl⟩ := List.head?_eq_some_iff.mp head
    rw [pair] at scan ran
    dsimp only at ran
    rw [bind_ran (advance_cons faces), bind_ran (advance_cons faces.behind), here_bind, ← Stand.pass_append] at ran
    have scanned : scanToken c ([d] ++ others) = .ok (.symbol symbol, [d].length) := scan
    exact Reads.token scanned (Symbol.neutral_of_ofPair? known _).2 ran
  | none =>
    rw [pair] at scan ran
    cases single : Symbol.ofChar? c with
    | some symbol =>
      rw [single] at scan ran
      dsimp only at ran
      unfold Reads
      rw [scan, ran]
      dsimp only
      have counted := countParens_eq symbol stand
      cases counts : depthBehind stand.depth (.symbol symbol) with
      | none =>
        rw [counts] at counted
        obtain rfl := eq_of_unmatched single counts
        rw [bind_stopped counted, List.take_zero]
        rfl
      | some depth =>
        rw [counts] at counted
        have faces_ : Faces source { stand with depth := depth }.pos (c :: more) := faces
        rw [bind_ran counted, bind_ran (advance_cons faces_), here_bind, List.take_zero]
        rfl
    | none =>
      rw [single] at scan ran
      have scanned : scanToken c ([] ++ more) = .error (.unexpected c, ([] : List Char).length) := scan
      refine .issue scanned (ran.trans ?_)
      unfold Stand.pass
      rw [Text.byteSize_singleton]
      rfl

theorem token_reads {more : List Char} (faces : Faces source stand.pos (c :: more)) :
    Reads (Slicing.token source c) stand c more := by
  unfold Slicing.token
  split
  · next quote =>
    subst quote
    exact text_reads faces
  · next quote =>
    split
    · next digit => exact number_reads digit faces
    · next digit =>
      split
      · next starts => exact word_reads starts faces
      · next starts => exact symbol_reads quote digit starts faces

end Tokens

/-! ### Lines -/

def Stand.ofCursor (cursor : Cursor) (lineStart : Bool) (lexemes : List Lexeme) : Stand :=
  ⟨cursor.offset, cursor.blocks, cursor.depth, lineStart, lexemes⟩

theorem mute_iff (chars : List Char) : (chars.headD '\x00' = '\n' ∨ chars.headD '\x00' = '#' ∨
    chars.headD '\x00' = '\x00') ↔ endsLine chars = true := by
  cases chars with
  | nil => exact iff_of_true (.inr (.inr rfl)) rfl
  | cons c more => simp [endsLine, or_assoc]

theorem indent_eq (width start : Nat) (stand : Stand) : indent width start stand =
    match layoutMarks? width stand.blocks with
    | none => .error (.fault ⟨.inconsistentDedent, ⟨start, stand.pos⟩⟩)
    | some (marks, blocks) => .ok ((), { stand with
        blocks := blocks
        lexemes := stand.lexemes ++ marks.map (⟨·, ⟨start, stand.pos⟩⟩) }) := by
  change ((get : Slicer Stand) >>= _) stand = _
  rw [bind_ran (rfl : (get : Slicer Stand) stand = .ok (stand, stand))]
  cases layoutMarks? width stand.blocks <;> rfl

section Lines

variable {source chars : List Char} {cursor : Cursor} (faces : Faces source cursor.offset chars)

theorem Stand.ofCursor_pass {lexemes : List Lexeme} (lineStart : Bool) (passed : List Char) :
    (ofCursor cursor lineStart lexemes).pass passed = ofCursor (cursor.pass passed) lineStart lexemes := rfl

include faces

theorem Faces.afterBlanks :
    Faces source (cursor.pass (chars.takeWhile isLineBlank)).offset (chars.dropWhile isLineBlank) := by
  rw [← List.takeWhile_append_dropWhile (p := isLineBlank) (l := chars)] at faces
  exact faces.pass

theorem Faces.behindLine : Faces source
    (((cursor.pass (chars.takeWhile isLineBlank)).pass ((chars.dropWhile isLineBlank).takeWhile (· ≠ '\n'))).pass
      (((chars.dropWhile isLineBlank).dropWhile (· ≠ '\n')).take 1)).offset
    (((chars.dropWhile isLineBlank).dropWhile (· ≠ '\n')).drop 1) := by
  have whole : chars.dropWhile isLineBlank = (chars.dropWhile isLineBlank).takeWhile (· ≠ '\n') ++
      (((chars.dropWhile isLineBlank).dropWhile (· ≠ '\n')).take 1 ++
        ((chars.dropWhile isLineBlank).dropWhile (· ≠ '\n')).drop 1) := by
    rw [List.take_append_drop, List.takeWhile_append_dropWhile]
  have after := faces.afterBlanks
  rw [whole] at after
  exact after.pass.pass

variable (lexemes : List Lexeme)

theorem openLine_eq : openLine source (.ofCursor cursor true lexemes) =
    (if endsLine (chars.dropWhile isLineBlank) then do
        skipComment source
        advance source
        startLine true
      else indent (indentWidth (chars.takeWhile isLineBlank)) cursor.offset : Slicer Unit)
      (.ofCursor (cursor.pass (chars.takeWhile isLineBlank)) false lexemes) := by
  have start : Faces source (Stand.ofCursor cursor false lexemes).pos chars := faces
  have fresh : startLine false (.ofCursor cursor true lexemes) = .ok ((), .ofCursor cursor false lexemes) := rfl
  unfold openLine
  rw [bind_ran fresh, here_bind, bind_ran (countIndent_eq start start.length_le), Stand.ofCursor_pass,
    bind_ran (current_eq faces.afterBlanks)]
  simp only [mute_iff]
  rfl

theorem openLine_skips (idle : endsLine (chars.dropWhile isLineBlank) = true) :
    openLine source (.ofCursor cursor true lexemes) = .ok ((), .ofCursor
      (((cursor.pass (chars.takeWhile isLineBlank)).pass
        ((chars.dropWhile isLineBlank).takeWhile (· ≠ '\n'))).pass
        (((chars.dropWhile isLineBlank).dropWhile (· ≠ '\n')).take 1)) true lexemes) := by
  have after := faces.afterBlanks
  have line : Faces source (Stand.ofCursor (cursor.pass (chars.takeWhile isLineBlank)) false lexemes).pos
      (chars.dropWhile isLineBlank) := after
  rw [← List.takeWhile_append_dropWhile (p := fun d => decide (d ≠ '\n')) (l := chars.dropWhile isLineBlank)] at after
  have end_ : Faces source (Stand.ofCursor ((cursor.pass (chars.takeWhile isLineBlank)).pass
      ((chars.dropWhile isLineBlank).takeWhile (· ≠ '\n'))) false lexemes).pos
      ((chars.dropWhile isLineBlank).dropWhile (· ≠ '\n')) := after.pass
  rw [openLine_eq faces lexemes, if_pos idle, bind_ran (skipComment_eq line), Stand.ofCursor_pass,
    bind_ran (advance_eq end_)]
  rfl

theorem openLine_opens (going : ¬endsLine (chars.dropWhile isLineBlank) = true) :
    openLine source (.ofCursor cursor true lexemes) =
      match layoutMarks? (indentWidth (chars.takeWhile isLineBlank)) cursor.blocks with
      | none => .error (.fault ⟨.inconsistentDedent,
          ⟨cursor.offset, (cursor.pass (chars.takeWhile isLineBlank)).offset⟩⟩)
      | some (marks, blocks) => .ok ((), .ofCursor
          { cursor.pass (chars.takeWhile isLineBlank) with blocks := blocks } false
          (lexemes ++ marks.map
            (⟨·, ⟨cursor.offset, (cursor.pass (chars.takeWhile isLineBlank)).offset⟩⟩))) := by
  rw [openLine_eq faces lexemes, if_neg going, indent_eq]
  rfl

theorem withinLine_eq : withinLine source (.ofCursor cursor false lexemes) =
    (match chars.dropWhile isLineBlank with
      | [] => return
      | c :: _ =>
        if c = '#' then skipComment source
        else if c = '\n' then do
          advance source
          if cursor.depth = 0 then
            push [⟨.newline, ⟨(cursor.pass (chars.takeWhile isLineBlank)).offset, ← here⟩⟩]
            startLine true
        else do
          let lexeme ← token source c
          push [lexeme] : Slicer Unit) (.ofCursor (cursor.pass (chars.takeWhile isLineBlank)) false lexemes) := by
  have start : Faces source (Stand.ofCursor cursor false lexemes).pos chars := faces
  have after : Faces source (Stand.ofCursor (cursor.pass (chars.takeWhile isLineBlank)) false lexemes).pos
      (chars.dropWhile isLineBlank) := faces.afterBlanks
  unfold withinLine
  rw [bind_ran (skipBlanks_eq start), Stand.ofCursor_pass, bind_ran (inside_eq after)]
  cases shape : chars.dropWhile isLineBlank with
  | nil => rfl
  | cons c rest =>
    rw [shape] at after
    rw [List.isEmpty_cons, Bool.not_false, if_pos rfl, bind_ran (current_eq after), List.headD_cons]
    dsimp only
    split
    · rfl
    · split
      · rw [here_bind, bind_ran (advance_cons after), bind_ran (advance_cons after)]
        rfl
      · rfl

section Signs

variable {rest : List Char}

theorem Faces.behindSign {c : Char} (shape : chars.dropWhile isLineBlank = c :: rest) :
    Faces source ((cursor.pass (chars.takeWhile isLineBlank)).pass [c]).offset rest := by
  have after := faces.afterBlanks
  rw [shape, ← List.singleton_append] at after
  exact after.pass

theorem Faces.behindComment {c : Char} (shape : chars.dropWhile isLineBlank = c :: rest) : Faces source
    (((cursor.pass (chars.takeWhile isLineBlank)).pass [c]).pass (rest.takeWhile (· ≠ '\n'))).offset
    (rest.dropWhile (· ≠ '\n')) := by
  have after := faces.behindSign shape
  rw [← List.takeWhile_append_dropWhile (p := fun d => decide (d ≠ '\n')) (l := rest)] at after
  exact after.pass

theorem Faces.atToken {c : Char} (shape : chars.dropWhile isLineBlank = c :: rest) (length : Nat) :
    Faces source (cursor.pass (chars.takeWhile isLineBlank)).offset (c :: rest.take length ++ rest.drop length) := by
  rw [List.cons_append, List.take_append_drop, ← shape]
  exact faces.afterBlanks

theorem withinLine_comment (shape : chars.dropWhile isLineBlank = '#' :: rest) :
    withinLine source (.ofCursor cursor false lexemes) = .ok ((), .ofCursor
      (((cursor.pass (chars.takeWhile isLineBlank)).pass ['#']).pass (rest.takeWhile (· ≠ '\n'))) false lexemes) := by
  have after : Faces source (Stand.ofCursor (cursor.pass (chars.takeWhile isLineBlank)) false lexemes).pos
      ('#' :: rest) := shape ▸ faces.afterBlanks
  have passed := Cursor.pass_append (cursor.pass (chars.takeWhile isLineBlank)) ['#'] (rest.takeWhile (· ≠ '\n'))
  rw [withinLine_eq faces lexemes, shape]
  refine (skipComment_eq after).trans ?_
  rw [List.takeWhile_cons_of_pos (by decide), Stand.ofCursor_pass, ← passed]
  rfl

theorem withinLine_newline (shape : chars.dropWhile isLineBlank = '\n' :: rest) :
    withinLine source (.ofCursor cursor false lexemes) = .ok ((),
      let next := (cursor.pass (chars.takeWhile isLineBlank)).pass ['\n']
      if cursor.depth = 0 then .ofCursor { next with midLine := false } true
        (lexemes ++ [⟨.newline, ⟨(cursor.pass (chars.takeWhile isLineBlank)).offset, next.offset⟩⟩])
      else .ofCursor next false lexemes) := by
  have after : Faces source (Stand.ofCursor (cursor.pass (chars.takeWhile isLineBlank)) false lexemes).pos
      ('\n' :: rest) := shape ▸ faces.afterBlanks
  rw [withinLine_eq faces lexemes, shape]
  refine (bind_ran (advance_cons after)).trans ?_
  split <;> rfl

theorem withinLine_token {c : Char} (shape : chars.dropWhile isLineBlank = c :: rest) (comment : c ≠ '#')
    (newline : c ≠ '\n') : withinLine source (.ofCursor cursor false lexemes) = match scanToken c rest with
      | .error (issue, length) => .error (.fault ⟨issue, ⟨(cursor.pass (chars.takeWhile isLineBlank)).offset,
          ((cursor.pass (chars.takeWhile isLineBlank)).pass (c :: rest.take length)).offset⟩⟩)
      | .ok (token, length) =>
        let next := (cursor.pass (chars.takeWhile isLineBlank)).pass (c :: rest.take length)
        match cursor.countParens? token with
        | none => .error (.fault ⟨.unmatchedClosing,
            ⟨(cursor.pass (chars.takeWhile isLineBlank)).offset, next.offset⟩⟩)
        | some depth => .ok ((), .ofCursor { next with depth := depth, midLine := true } false
            (lexemes ++ [⟨token, ⟨(cursor.pass (chars.takeWhile isLineBlank)).offset, next.offset⟩⟩])) := by
  have after : Faces source (Stand.ofCursor (cursor.pass (chars.takeWhile isLineBlank)) false lexemes).pos
      (c :: rest) := shape ▸ faces.afterBlanks
  have reads := token_reads after
  unfold Reads at reads
  rw [withinLine_eq faces lexemes, shape]
  dsimp only
  rw [if_neg comment, if_neg newline]
  simp only [countParens?_eq]
  cases scan : scanToken c rest with
  | error found =>
    rw [scan] at reads
    exact bind_stopped reads
  | ok found =>
    obtain ⟨token, length⟩ := found
    rw [scan] at reads
    change _ = match depthBehind cursor.depth token with | none => _ | some depth => _ at reads
    dsimp only
    cases counts : depthBehind cursor.depth token with
    | none =>
      rw [counts] at reads
      exact bind_stopped reads
    | some depth =>
      rw [counts] at reads
      exact bind_ran reads

end Signs

end Lines

/-! ### Sources -/

def completed (source : List Char) (fuel : Nat) (stand : Stand) : Except Stop (List Lexeme) := do
  let ((), stand) ← (do run source fuel; finish : Slicer Unit) stand
  return stand.lexemes

section Completion

variable {source chars : List Char} {stand after : Stand} {fuel : Nat} (faces : Faces source stand.pos chars)
include faces

theorem run_turn (present : chars ≠ []) (fuel : Nat) :
    run source (fuel + 1) stand = (do turn source; run source fuel) stand := by
  have left : (!chars.isEmpty) = true := by simpa using present
  rw [run, bind_ran (inside_eq faces), left, if_pos rfl]

theorem completed_turn (present : chars ≠ []) (ran : turn source stand = .ok ((), after)) :
    completed source (fuel + 1) stand = completed source fuel after := by
  have moved := run_turn faces present fuel
  rw [bind_ran ran] at moved
  unfold completed
  change (run source (fuel + 1) stand >>= fun result => finish result.2) >>= _ = _
  rw [moved]
  rfl

theorem completed_stops (present : chars ≠ []) {stop : Stop} (stopped : turn source stand = .error stop) :
    completed source (fuel + 1) stand = .error stop := by
  have moved := run_turn faces present fuel
  rw [bind_stopped stopped] at moved
  unfold completed
  change (run source (fuel + 1) stand >>= fun result => finish result.2) >>= _ = _
  rw [moved]
  rfl

theorem completed_congr (present : chars ≠ []) {later : List Char} (facesToo : Faces source after.pos later)
    (presentToo : later ≠ []) (same : turn source stand = turn source after) :
    completed source (fuel + 1) stand = completed source (fuel + 1) after := by
  have moved := run_turn faces present fuel
  have movedToo := run_turn facesToo presentToo fuel
  have alike : (do turn source; run source fuel) stand = (do turn source; run source fuel) after := by
    change turn source stand >>= _ = turn source after >>= _
    rw [same]
  unfold completed
  change (run source (fuel + 1) stand >>= fun result => finish result.2) >>= _ =
    (run source (fuel + 1) after >>= fun result => finish result.2) >>= _
  rw [moved, movedToo, alike]

theorem completed_end (empty : chars = []) :
    completed source fuel stand = (finish stand).map fun result => result.2.lexemes := by
  have ended : run source fuel stand = .ok ((), stand) := by
    cases fuel with
    | zero => rfl
    | succ fuel =>
      rw [run, bind_ran (inside_eq faces), empty]
      rfl
  unfold completed
  rw [bind_ran ended]
  cases finish stand <;> rfl

end Completion

theorem finish_eq {cursor : Cursor} {lineStart : Bool} {lexemes : List Lexeme}
    (line : unfinished lexemes = cursor.midLine) :
    ((finish (.ofCursor cursor lineStart lexemes)).map fun result => result.2.lexemes) =
      ((Script.finish cursor).map (lexemes ++ ·)).mapError .fault := by
  have opened : finish (.ofCursor cursor lineStart lexemes) =
      (if 0 < cursor.depth then throw (.fault ⟨.unclosedOpening, ⟨cursor.offset, cursor.offset⟩⟩)
        else do
          if unfinished lexemes then push [⟨.newline, ⟨cursor.offset, cursor.offset⟩⟩]
          push (cursor.blocks.map fun _ => ⟨.dedent, ⟨cursor.offset, cursor.offset⟩⟩) : Slicer Unit)
        (.ofCursor cursor lineStart lexemes) := rfl
  rw [opened, line]
  unfold Script.finish
  dsimp only
  by_cases closed : cursor.depth = 0
  · rw [if_neg (by omega), if_pos closed]
    cases cursor.midLine with
    | true =>
      change Except.ok (lexemes ++ [_] ++ _) = Except.ok (lexemes ++ ([_] ++ _))
      rw [List.append_assoc]
    | false => rfl
  · rw [if_pos (Nat.pos_of_ne_zero closed), if_neg closed]
    rfl

section Turns

variable {source : List Char} {stand : Stand}

theorem turn_within (within : stand.lineStart = false) : turn source stand = withinLine source stand := by
  obtain ⟨pos, blocks, depth, lineStart, lexemes⟩ := stand
  subst within
  rfl

theorem turn_opens {after : Stand} (starts : stand.lineStart = true) (ran : openLine source stand = .ok ((), after)) :
    turn source stand = if after.lineStart then .ok ((), after) else withinLine source after := by
  obtain ⟨pos, blocks, depth, lineStart, lexemes⟩ := stand
  subst starts
  have opened : turn source ⟨pos, blocks, depth, true, lexemes⟩ = (openLine source >>= fun _ => (do
      if (← get).lineStart then return else withinLine source : Slicer Unit)) ⟨pos, blocks, depth, true, lexemes⟩ := rfl
  rw [opened, bind_ran ran]
  change (if after.lineStart = true then _ else _ : Slicer Unit) after = _
  split <;> rfl

theorem turn_stops {stop : Stop} (starts : stand.lineStart = true) (stopped : openLine source stand = .error stop) :
    turn source stand = .error stop := by
  obtain ⟨pos, blocks, depth, lineStart, lexemes⟩ := stand
  subst starts
  have opened : turn source ⟨pos, blocks, depth, true, lexemes⟩ = (openLine source >>= fun _ => (do
      if (← get).lineStart then return else withinLine source : Slicer Unit)) ⟨pos, blocks, depth, true, lexemes⟩ := rfl
  rw [opened, bind_stopped stopped]

end Turns

theorem unfinished_newline (lexemes : List Lexeme) (span : Span) :
    unfinished (lexemes ++ [⟨.newline, span⟩]) = false := by
  unfold unfinished
  rw [List.getLast?_append_of_ne_nil _ (List.cons_ne_nil _ _)]
  rfl

theorem unfinished_token {token : Token} (legible : token.Legible) (lexemes : List Lexeme) (span : Span) :
    unfinished (lexemes ++ [⟨token, span⟩]) = true := by
  have plain : token ≠ .newline := by
    rintro rfl
    exact legible
  unfold unfinished
  rw [List.getLast?_append_of_ne_nil _ (List.cons_ne_nil _ _)]
  exact decide_eq_true plain

theorem map_append (first front : List Lexeme) (outcome : Except LexFault (List Lexeme)) :
    (((do let behind ← outcome; return front ++ behind).map (first ++ ·)).mapError Stop.fault) =
      (outcome.map (first ++ front ++ ·)).mapError Stop.fault := by
  cases outcome with
  | error fault => rfl
  | ok behind => exact congrArg Except.ok (List.append_assoc ..).symm

/-- The lexemes tell whether a line was begun, except behind an indentation: there a token follows. -/
def Tells (cursor : Cursor) (lineStart : Bool) (chars : List Char) (lexemes : List Lexeme) : Prop :=
  unfinished lexemes = cursor.midLine ∨ lineStart = false ∧ StartsToken chars

/-- With room for the characters, lexing in place comes to this outcome behind any lexemes. -/
def Completes (source : List Char) (cursor : Cursor) (lineStart : Bool) (chars : List Char)
    (outcome : Except LexFault (List Lexeme)) : Prop :=
  ∀ (lexemes : List Lexeme) (fuel : Nat), Faces source cursor.offset chars → chars.length ≤ fuel →
    Tells cursor lineStart chars lexemes →
    completed source fuel (.ofCursor cursor lineStart lexemes) = (outcome.map (lexemes ++ ·)).mapError .fault

namespace Completes

variable {source chars rest : List Char} {cursor : Cursor} {lineStart : Bool}
  {outcome : Except LexFault (List Lexeme)}

/-- Where something is left, a turn can be taken. -/
theorem of_turns (present : chars ≠ [])
    (turns : ∀ (lexemes : List Lexeme) (fuel : Nat), Faces source cursor.offset chars → chars.length ≤ fuel + 1 →
      Tells cursor lineStart chars lexemes →
      completed source (fuel + 1) (.ofCursor cursor lineStart lexemes) =
        (outcome.map (lexemes ++ ·)).mapError .fault) : Completes source cursor lineStart chars outcome := by
  intro lexemes fuel faces enough line
  cases fuel with
  | zero => exact absurd (List.eq_nil_of_length_eq_zero (Nat.le_zero.mp enough)) present
  | succ fuel => exact turns lexemes fuel faces enough line

theorem empty : Completes source cursor lineStart [] (Script.finish cursor) := by
  intro lexemes fuel faces _ line
  rw [completed_end faces rfl]
  refine finish_eq (line.resolve_right ?_)
  rintro ⟨-, c, more, same, -⟩
  cases same

/-! Where a line starts. -/

theorem idleLine (present : chars ≠ []) (ends : endsLine (chars.dropWhile isLineBlank) = true)
    (behind : Completes source
      (((cursor.pass (chars.takeWhile isLineBlank)).pass
        ((chars.dropWhile isLineBlank).takeWhile (· ≠ '\n'))).pass
        (((chars.dropWhile isLineBlank).dropWhile (· ≠ '\n')).take 1)) true
      (((chars.dropWhile isLineBlank).dropWhile (· ≠ '\n')).drop 1) outcome) :
    Completes source cursor true chars outcome := by
  refine .of_turns present fun lexemes fuel faces enough line => ?_
  have blanks := length_dropWhile_le isLineBlank chars
  have others := length_dropWhile_le (· ≠ '\n') (chars.dropWhile isLineBlank)
  have fewer : (((chars.dropWhile isLineBlank).dropWhile (· ≠ '\n')).drop 1).length ≤ fuel := by
    rw [List.length_drop]
    omega
  rw [completed_turn faces present (turn_opens rfl (openLine_skips faces lexemes ends))]
  exact behind lexemes fuel faces.behindLine fewer (.inl (line.resolve_right fun starts => Bool.noConfusion starts.1))

theorem misaligned (present : chars ≠ []) (going : ¬endsLine (chars.dropWhile isLineBlank) = true)
    (layout : layoutMarks? (indentWidth (chars.takeWhile isLineBlank)) cursor.blocks = none) :
    Completes source cursor true chars
      (.error ⟨.inconsistentDedent, ⟨cursor.offset, (cursor.pass (chars.takeWhile isLineBlank)).offset⟩⟩) := by
  refine .of_turns present fun lexemes fuel faces _ _ => ?_
  have opens := openLine_opens faces lexemes going
  rw [layout] at opens
  rw [completed_stops faces present (turn_stops rfl opens)]
  rfl

theorem indented {marks : List Token} {blocks : List Nat} (present : chars ≠ [])
    (going : ¬endsLine (chars.dropWhile isLineBlank) = true)
    (layout : layoutMarks? (indentWidth (chars.takeWhile isLineBlank)) cursor.blocks = some (marks, blocks))
    (behind : Completes source { cursor.pass (chars.takeWhile isLineBlank) with blocks := blocks } false
      (chars.dropWhile isLineBlank) outcome) :
    Completes source cursor true chars (do
      let lexemes ← outcome
      return marks.map (⟨·, ⟨cursor.offset, (cursor.pass (chars.takeWhile isLineBlank)).offset⟩⟩) ++ lexemes) := by
  refine .of_turns present fun lexemes fuel faces enough _ => ?_
  have opens := openLine_opens faces lexemes going
  rw [layout] at opens
  have ran := turn_opens rfl opens
  obtain ⟨c, more, shape, opened⟩ : StartsToken (chars.dropWhile isLineBlank) := by
    cases shape : chars.dropWhile isLineBlank with
    | nil => exact absurd (shape ▸ rfl) going
    | cons c more => exact ⟨c, more, rfl, opens_of_going shape (shape ▸ going)⟩
  have presentToo : chars.dropWhile isLineBlank ≠ [] := shape ▸ List.cons_ne_nil c more
  have fewer := le_trans (length_dropWhile_le isLineBlank chars) enough
  rw [completed_congr faces present faces.afterBlanks presentToo (ran.trans (turn_within rfl).symm),
    behind _ _ faces.afterBlanks fewer (.inr ⟨rfl, c, more, shape, opened⟩)]
  exact (map_append ..).symm

/-! Within a line. -/

theorem trailing (present : chars ≠ []) (shape : chars.dropWhile isLineBlank = []) :
    Completes source cursor false chars (Script.finish (cursor.pass (chars.takeWhile isLineBlank))) := by
  refine .of_turns present fun lexemes fuel faces _ line => ?_
  have ran := (turn_within rfl).trans (withinLine_eq faces lexemes)
  rw [shape] at ran
  have going : ¬StartsToken chars := by
    rintro ⟨c, more, rfl, opens⟩
    rw [List.dropWhile_cons, isLineBlank_of_opens opens] at shape
    cases shape
  rw [completed_turn faces present ran, completed_end faces.afterBlanks shape]
  exact finish_eq (line.resolve_right fun starts => going starts.2)

theorem present_of_shape {c : Char} (shape : chars.dropWhile isLineBlank = c :: rest) : chars ≠ [] := by
  rintro rfl
  cases shape

theorem length_le {c : Char} {left : List Char} {fuel : Nat} (shape : chars.dropWhile isLineBlank = c :: rest)
    (enough : chars.length ≤ fuel + 1) (within : left.length ≤ rest.length) : left.length ≤ fuel := by
  have blanks := length_dropWhile_le isLineBlank chars
  rw [shape, List.length_cons] at blanks
  omega

theorem comment (shape : chars.dropWhile isLineBlank = '#' :: rest)
    (behind : Completes source
      (((cursor.pass (chars.takeWhile isLineBlank)).pass ['#']).pass (rest.takeWhile (· ≠ '\n'))) false
      (rest.dropWhile (· ≠ '\n')) outcome) : Completes source cursor false chars outcome := by
  have present := present_of_shape shape
  refine .of_turns present fun lexemes fuel faces enough line => ?_
  rw [completed_turn faces present ((turn_within rfl).trans (withinLine_comment faces lexemes shape))]
  refine behind lexemes fuel (faces.behindComment shape) (length_le shape enough (length_dropWhile_le ..))
    (.inl (line.resolve_right ?_))
  exact fun starts => absurd (starts.2.dropWhile_eq shape) (by decide)

/-- A newline outside parentheses ends the line. -/
theorem endedLine (shape : chars.dropWhile isLineBlank = '\n' :: rest) (closed : cursor.depth = 0)
    (behind : Completes source
      { (cursor.pass (chars.takeWhile isLineBlank)).pass ['\n'] with midLine := false } true rest outcome) :
    Completes source cursor false chars (do
      let lexemes ← outcome
      return ⟨.newline, ⟨(cursor.pass (chars.takeWhile isLineBlank)).offset,
        ((cursor.pass (chars.takeWhile isLineBlank)).pass ['\n']).offset⟩⟩ :: lexemes) := by
  have present := present_of_shape shape
  refine .of_turns present fun lexemes fuel faces enough _ => ?_
  have ran := withinLine_newline faces lexemes shape
  rw [if_pos closed] at ran
  rw [completed_turn faces present ((turn_within rfl).trans ran), behind _ fuel (faces.behindSign shape)
    (length_le shape enough (Nat.le_refl _)) (.inl (unfinished_newline ..))]
  exact (map_append _ [_] _).symm

/-- Within parentheses the line goes on behind a newline. -/
theorem foldedLine (shape : chars.dropWhile isLineBlank = '\n' :: rest) (opened : ¬cursor.depth = 0)
    (behind : Completes source ((cursor.pass (chars.takeWhile isLineBlank)).pass ['\n']) false rest outcome) :
    Completes source cursor false chars outcome := by
  have present := present_of_shape shape
  refine .of_turns present fun lexemes fuel faces enough line => ?_
  have ran := withinLine_newline faces lexemes shape
  rw [if_neg opened] at ran
  rw [completed_turn faces present ((turn_within rfl).trans ran)]
  refine behind lexemes fuel (faces.behindSign shape) (length_le shape enough (Nat.le_refl _))
    (.inl (line.resolve_right ?_))
  exact fun starts => absurd (starts.2.dropWhile_eq shape) (by decide)

section Tokens

variable {c : Char} (shape : chars.dropWhile isLineBlank = c :: rest) (comment : c ≠ '#') (newline : c ≠ '\n')
include shape comment newline

theorem illegible {issue : LexIssue} {length : Nat} (scan : scanToken c rest = .error (issue, length)) :
    Completes source cursor false chars
      (.error ⟨issue, ⟨(cursor.pass (chars.takeWhile isLineBlank)).offset,
        ((cursor.pass (chars.takeWhile isLineBlank)).pass (c :: rest.take length)).offset⟩⟩) := by
  have present := present_of_shape shape
  refine .of_turns present fun lexemes fuel faces _ _ => ?_
  have ran := withinLine_token faces lexemes shape comment newline
  rw [scan] at ran
  rw [completed_stops faces present ((turn_within rfl).trans ran)]
  rfl

variable {token : Token} {length : Nat} (scan : scanToken c rest = .ok (token, length))
include scan

theorem unmatched (counts : cursor.countParens? token = none) :
    Completes source cursor false chars
      (.error ⟨.unmatchedClosing, ⟨(cursor.pass (chars.takeWhile isLineBlank)).offset,
        ((cursor.pass (chars.takeWhile isLineBlank)).pass (c :: rest.take length)).offset⟩⟩) := by
  have present := present_of_shape shape
  refine .of_turns present fun lexemes fuel faces _ _ => ?_
  have ran := withinLine_token faces lexemes shape comment newline
  rw [scan] at ran
  dsimp only at ran
  rw [counts] at ran
  rw [completed_stops faces present ((turn_within rfl).trans ran)]
  rfl

theorem scanned {depth : Nat} (counts : cursor.countParens? token = some depth)
    (behind : Completes source
      { (cursor.pass (chars.takeWhile isLineBlank)).pass (c :: rest.take length) with
        depth := depth, midLine := true } false (rest.drop length) outcome) :
    Completes source cursor false chars (do
      let lexemes ← outcome
      return ⟨token, ⟨(cursor.pass (chars.takeWhile isLineBlank)).offset,
        ((cursor.pass (chars.takeWhile isLineBlank)).pass (c :: rest.take length)).offset⟩⟩ :: lexemes) := by
  have present := present_of_shape shape
  refine .of_turns present fun lexemes fuel faces enough _ => ?_
  have ran := withinLine_token faces lexemes shape comment newline
  rw [scan] at ran
  dsimp only at ran
  rw [counts] at ran
  rw [completed_turn faces present ((turn_within rfl).trans ran), behind _ fuel (faces.atToken shape length).pass
    (length_le shape enough (List.drop_sublist ..).length_le) (.inl (unfinished_token (scanToken_legible scan) ..))]
  exact (map_append _ [_] _).symm

end Tokens

end Completes

/-- From every place on, lexing in place is lexing. -/
theorem completes_lexFrom (source chars : List Char) (cursor : Cursor) (lineStart : Bool) :
    Completes source cursor lineStart chars (lexFrom cursor lineStart chars) := by
  fun_induction lexFrom cursor lineStart chars
  case case1 cursor lineStart chars empty =>
    rw [List.isEmpty_iff.mp empty]
    exact .empty
  case case2 cursor chars present after ends line left ih =>
    exact .idleLine (mt List.isEmpty_iff.mpr present) ends ih
  case case3 cursor chars present after going span layout =>
    exact .misaligned (mt List.isEmpty_iff.mpr present) going layout
  case case4 cursor chars present after going span marks inner layout ih =>
    exact .indented (mt List.isEmpty_iff.mpr present) going layout ih
  case case5 cursor lineStart chars present after other shape =>
    obtain rfl := Bool.eq_false_iff.mpr other
    exact .trailing (mt List.isEmpty_iff.mpr present) shape
  case case6 cursor lineStart chars present after other rest shape ih =>
    obtain rfl := Bool.eq_false_iff.mpr other
    exact .comment shape ih
  case case7 cursor lineStart chars present after other rest closed shape _ next ih =>
    obtain rfl := Bool.eq_false_iff.mpr other
    exact .endedLine shape closed ih
  case case8 cursor lineStart chars present after other rest opened shape _ next ih =>
    obtain rfl := Bool.eq_false_iff.mpr other
    exact .foldedLine shape opened ih
  case case9 cursor lineStart chars present after other c rest shape comment newline issue length scan =>
    obtain rfl := Bool.eq_false_iff.mpr other
    exact .illegible shape comment newline scan
  case case10 cursor lineStart chars present after other c rest shape comment newline token length scan next counts =>
    obtain rfl := Bool.eq_false_iff.mpr other
    exact .unmatched shape comment newline scan counts
  case case11 cursor lineStart chars present after other c rest shape comment newline token length scan next inner
      counts ih =>
    obtain rfl := Bool.eq_false_iff.mpr other
    exact .scanned shape comment newline scan counts ih

theorem lex_eq (source : String) : lex source = (Script.lex source).mapError .fault := by
  have begins : Faces source.toList Cursor.start.offset source.toList := ⟨[], rfl, rfl⟩
  refine (completes_lexFrom source.toList source.toList .start true [] _ begins (Nat.le_refl _) (.inl rfl)).trans ?_
  unfold Script.lex
  cases lexFrom .start true source.toList <;> rfl

end Stagecraft.Script.Slicing
