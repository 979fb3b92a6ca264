import Mathlib.Order.Monotone.Basic
import Stagecraft.Proofs.Script.Echoes
import Stagecraft.Proofs.Script.Lines

/-!
Layout: blank lines, comments and the unit of indentation never change which script is read. The main statement
compares two sources line by line. Of the line where a statement starts only the order of its width among the
others counts; a line that goes on inside parentheses stays as it is, and vacant lines may be put in anywhere.
-/

namespace Stagecraft.Script

def reading (source : String) : Except String (List Token) := unplaced (lex source)

def indentation (blanks : List Char) : Nat := blanks.count ' ' + blanks.count '\t'

/-- Nothing is read of the line where no parenthesis is open: a comment or a null character comes first, if
anything does. -/
def Idle (line : List Char) : Prop :=
  ∃ blanks rest, line = blanks ++ rest ∧ Blank blanks ∧ ∀ c ∈ rest.head?, c = '#' ∨ c = '\x00'

/-- The second lines are the first ones with `f` applied to the width of every line where a statement starts, and
with vacant lines put in. `depth` is the number of parentheses open in front of them. -/
inductive Relaid (f : Nat → Nat) : (depth : Nat) → List (List Char) → List (List Char) → Prop
  | done (depth : Nat) : Relaid f depth [] []
  | line {blanks others more : List Char} {c : Char} {lines relaid : List (List Char)} (blank : Blank blanks)
      (blankOther : Blank others) (opens : Opens c) (width : indentation others = f (indentation blanks))
      (rest : Relaid f (openBehind 0 false (c :: more)) lines relaid) :
      Relaid f 0 ((blanks ++ c :: more) :: lines) ((others ++ c :: more) :: relaid)
  | idle {line other : List Char} {lines relaid : List (List Char)} (idle : Idle line) (idleOther : Idle other)
      (rest : Relaid f 0 lines relaid) : Relaid f 0 (line :: lines) (other :: relaid)
  | inside {depth : Nat} {line : List Char} {lines relaid : List (List Char)} (opened : depth ≠ 0)
      (rest : Relaid f (openBehind depth false line) lines relaid) :
      Relaid f depth (line :: lines) (line :: relaid)
  | inserted {depth : Nat} {line vacant : List Char} {lines relaid : List (List Char)} (empty : Vacant vacant)
      (rest : Relaid f depth (line :: lines) relaid) : Relaid f depth (line :: lines) (vacant :: relaid)

structure Agree (source other : String) : Prop where
  tokens : reading other = reading source
  trees : (parse other).toOption.map Tree.bare = (parse source).toOption.map Tree.bare

/-! ### Marks of the indentation -/

theorem headD_map {f : Nat → Nat} (zero : f 0 = 0) (blocks : List Nat) :
    (blocks.map f).headD 0 = f (blocks.headD 0) := by
  cases blocks with
  | nil => exact zero.symm
  | cons block outer => rfl

section Widths

variable {f : Nat → Nat} (strict : StrictMono f)
include strict

theorem closeBlocks_map (width : Nat) (blocks : List Nat) :
    closeBlocks (f width) (blocks.map f) =
      ((closeBlocks width blocks).1, (closeBlocks width blocks).2.map f) := by
  induction blocks with
  | nil => rfl
  | cons block outer ih =>
    rw [List.map_cons, closeBlocks, closeBlocks, ih]
    by_cases deeper : width < block
    · rw [if_pos deeper, if_pos (strict deeper)]
    · rw [if_neg deeper, if_neg (mt strict.lt_iff_lt.mp deeper), List.map_cons]

/-- The marks in front of a line depend on the order of the widths only. -/
theorem layoutMarks?_map (zero : f 0 = 0) (width : Nat) (blocks : List Nat) :
    layoutMarks? (f width) (blocks.map f) =
      (layoutMarks? width blocks).map fun found => (found.1, found.2.map f) := by
  unfold layoutMarks?
  dsimp only
  rw [closeBlocks_map strict, headD_map zero, headD_map zero]
  by_cases deeper : blocks.headD 0 < width
  · rw [if_pos deeper, if_pos (strict deeper)]
    rfl
  rw [if_neg deeper, if_neg (mt strict.lt_iff_lt.mp deeper)]
  by_cases same : (closeBlocks width blocks).2.headD 0 = width
  · rw [if_pos same, if_pos (congrArg f same)]
    rfl
  · rw [if_neg same, if_neg (mt (fun alike => strict.injective alike) same)]
    rfl

end Widths

theorem indentWidth_eq {blanks : List Char} (blank : Blank blanks) :
    indentWidth blanks = indentation blanks := by
  induction blanks with
  | nil => rfl
  | cons c rest ih =>
    obtain ⟨here, others⟩ := List.forall_mem_cons.mp blank
    have behind := ih others
    unfold indentWidth indentation at behind ⊢
    simp only [List.mem_cons, List.not_mem_nil, or_false] at here
    rw [List.countP_cons, List.count_cons, List.count_cons, behind]
    rcases here with rfl | rfl | rfl
    · exact Nat.add_right_comm _ _ 1
    · rfl
    · rfl

/-! ### Starts of lines -/

/-- A line where a statement starts is read behind the marks of its indentation. -/
theorem unplaced_line (cursor : Cursor) {blanks : List Char} (blank : Blank blanks) {c : Char}
    (opens : Opens c) (rest : List Char) :
    unplaced (lexFrom cursor true (blanks ++ c :: rest)) =
      match layoutMarks? (indentation blanks) cursor.blocks with
      | none => .error LexIssue.inconsistentDedent.message
      | some (marks, inner) =>
        (unplaced (lexFrom { cursor.pass blanks with blocks := inner } false (c :: rest))).map (marks ++ ·) := by
  have visible := isLineBlank_of_opens opens
  have shape : (blanks ++ c :: rest).dropWhile isLineBlank = c :: rest :=
    dropWhile_stops blank.isLineBlank (stops_cons visible rest)
  have taken : (blanks ++ c :: rest).takeWhile isLineBlank = blanks :=
    takeWhile_stops blank.isLineBlank (stops_cons visible rest)
  have going : ¬endsLine (c :: rest) = true := by
    unfold Opens at opens
    unfold endsLine
    simp_all
  have present : ¬(blanks ++ c :: rest).isEmpty = true := by
    rw [List.isEmpty_iff]
    exact List.append_ne_nil_of_right_ne_nil _ (List.cons_ne_nil c rest)
  rw [lexFrom, if_neg present]
  dsimp only
  rw [if_pos rfl, shape, taken, if_neg going, indentWidth_eq blank]
  cases layoutMarks? (indentation blanks) cursor.blocks with
  | none => rfl
  | some found =>
    have marks (span : Text.Span) :
        (found.1.map (⟨·, span⟩ : Token → Lexeme)).map Lexeme.token = found.1 := by
      rw [List.map_map, Function.comp_def, List.map_id']
    refine (unplaced_append _ _).trans ?_
    rw [marks]

theorem Idle.skipped {line : List Char} (idle : Idle line) (inside : '\n' ∉ line) {behind : List Char}
    (ends : EndsLine behind) (offset : Nat) (blocks : List Nat) (depth : Nat) (midLine : Bool) :
    ∃ reached, lexFrom ⟨offset, blocks, depth, midLine⟩ true (line ++ behind) =
      lexFrom ⟨reached, blocks, depth, midLine⟩ true (behind.drop 1) := by
  obtain ⟨blanks, rest, rfl, blank, starts⟩ := idle
  by_cases none : blanks ++ rest ++ behind = []
  · rw [none, (List.append_eq_nil_iff.mp none).2]
    exact ⟨offset, rfl⟩
  have present : ¬(blanks ++ rest ++ behind).isEmpty = true := mt List.isEmpty_iff.mp none
  have stops : Stops isLineBlank (rest ++ behind) := by
    intro c head
    cases rest with
    | nil => rw [ends c head]; rfl
    | cons d others =>
      cases head
      rcases starts _ rfl with rfl | rfl <;> rfl
  have shape : (blanks ++ rest ++ behind).dropWhile isLineBlank = rest ++ behind := by
    rw [List.append_assoc]
    exact dropWhile_stops blank.isLineBlank stops
  have idle : endsLine (rest ++ behind) = true := by
    cases rest with
    | nil =>
      cases behind with
      | nil => rfl
      | cons c others => rw [List.nil_append, ends c rfl]; rfl
    | cons d others =>
      rcases starts _ rfl with rfl | rfl <;> rfl
  have within : ∀ c ∈ rest, decide (c ≠ '\n') = true :=
    fun c member => decide_eq_true (fun same => inside (List.mem_append_right _ (same ▸ member)))
  have left : (rest ++ behind).dropWhile (· ≠ '\n') = behind :=
    dropWhile_stops within (ends.stops (by decide))
  rw [lexFrom, if_neg present]
  dsimp only
  rw [if_pos rfl, shape, if_pos idle, left]
  exact ⟨_, rfl⟩

theorem Vacant.idle {line : List Char} (vacant : Vacant line) : Idle line := by
  obtain ⟨blanks, comment, same, blank, starts, -⟩ := vacant
  exact ⟨blanks, comment, same, blank, fun c head => .inl (starts c head)⟩

theorem Vacant.inside {line : List Char} (vacant : Vacant line) : '\n' ∉ line := by
  obtain ⟨blanks, comment, rfl, blank, -, inside⟩ := vacant
  rw [List.mem_append]
  rintro (member | member)
  · exact absurd (blank _ member) (by decide)
  · exact inside member

/-! ### Two layouts -/

/-- The lexer reads the same tokens of both, or refuses both with the same message, wherever they stand. The open
blocks in front of them differ by `f`. -/
def ReadsAlike (f : Nat → Nat) (depth : Nat) (lineStart : Bool) (chars others : List Char) : Prop :=
  ∀ offset reached blocks midLine, unplaced (lexFrom ⟨offset, blocks, depth, midLine⟩ lineStart chars) =
    unplaced (lexFrom ⟨reached, blocks.map f, depth, midLine⟩ lineStart others)

def followedBy : List (List Char) → List Char
  | [] => []
  | line :: lines => '\n' :: ['\n'].intercalate (line :: lines)

theorem intercalate_cons (line : List Char) (lines : List (List Char)) :
    ['\n'].intercalate (line :: lines) = line ++ followedBy lines := by
  cases lines with
  | nil => rw [List.intercalate_singleton, followedBy, List.append_nil]
  | cons next others => rw [List.intercalate_cons_cons, followedBy, List.append_assoc, List.singleton_append]

theorem endsLine_followedBy (lines : List (List Char)) : EndsLine (followedBy lines) := by
  cases lines with
  | nil => exact nofun
  | cons line others =>
    rintro _ ⟨⟩
    rfl

theorem followedBy_drop (lines : List (List Char)) : (followedBy lines).drop 1 = ['\n'].intercalate lines := by
  cases lines <;> rfl

namespace ReadsAlike

variable {f : Nat → Nat} {depth : Nat}

theorem nil (lineStart : Bool) : ReadsAlike f depth lineStart [] [] := by
  intro offset reached blocks midLine
  rw [lexFrom_nil, lexFrom_nil]
  unfold finish
  dsimp only
  split
  · cases midLine
    all_goals simp [unplaced, Function.comp_def]
  · rfl

/-- Behind the end of a line the next one starts, or the same statement goes on inside parentheses. -/
theorem newline {chars others : List Char} (rest : ReadsAlike f depth (depth == 0) chars others) :
    ReadsAlike f depth false ('\n' :: chars) ('\n' :: others) := by
  intro offset reached blocks midLine
  by_cases closed : depth = 0
  · subst closed
    rw [lexFrom_newline rfl rfl, lexFrom_newline rfl rfl]
    refine (unplaced_cons _ _).trans (.trans ?_ (unplaced_cons _ _).symm)
    exact congrArg (Except.map _) (rest _ _ _ _)
  · rw [beq_eq_false_iff_ne.mpr closed] at rest
    rw [lexFrom_inside closed, lexFrom_inside closed]
    exact rest _ _ _ _

theorem behind {lines others : List (List Char)} (both : lines = [] ↔ others = [])
    (rest : ReadsAlike f depth (depth == 0) (['\n'].intercalate lines) (['\n'].intercalate others)) :
    ReadsAlike f depth false (followedBy lines) (followedBy others) := by
  cases lines with
  | nil =>
    obtain rfl := both.mp rfl
    exact nil false
  | cons line more =>
    cases others with
    | nil => cases both.mpr rfl
    | cons other rest => exact newline rest

theorem line {chars others line : List Char} (inside : '\n' ∉ line) (ends : EndsLine chars)
    (endsOther : EndsLine others) (rest : ReadsAlike f (openBehind depth false line) false chars others) :
    ReadsAlike f depth false (line ++ chars) (line ++ others) := by
  intro offset reached blocks midLine
  -- One result serves both runs, since it depends on the line and the depth only.
  obtain ⟨result, reads⟩ := exists_lineReads depth line inside
  obtain ⟨_, same⟩ := reads offset blocks midLine chars ends
  obtain ⟨_, sameOther⟩ := reads reached (blocks.map f) midLine others endsOther
  rw [same, sameOther]
  cases result with
  | error message => rfl
  | ok tokens => exact congrArg (· >>= fun behind => pure (tokens ++ behind)) (rest _ _ _ _)

end ReadsAlike

theorem Relaid.nil_iff {f : Nat → Nat} {depth : Nat} {lines others : List (List Char)}
    (relaid : Relaid f depth lines others) : lines = [] ↔ others = [] := by
  cases relaid with
  | done => exact Iff.rfl
  | line | idle | inside | inserted => exact iff_of_false nofun nofun

theorem Relaid.readsAlike {f : Nat → Nat} (strict : StrictMono f) (zero : f 0 = 0) {depth : Nat}
    {lines others : List (List Char)} (relaid : Relaid f depth lines others)
    (inside : ∀ line ∈ lines, '\n' ∉ line) (insideOther : ∀ line ∈ others, '\n' ∉ line) :
    ReadsAlike f depth (depth == 0) (['\n'].intercalate lines) (['\n'].intercalate others) := by
  -- The blocks vary along the way, so the claim is about all blocks at once; widths enter only where a statement
  -- starts.
  induction relaid with
  | done depth => exact .nil _
  | @line blanks others more c lines relaid blank blankOther opens width rest ih =>
    obtain ⟨here, next⟩ := List.forall_mem_cons.mp inside
    have behind := (ih next (List.forall_mem_cons.mp insideOther).2).behind rest.nil_iff
    have text := ReadsAlike.line (fun member => here (List.mem_append_right _ member)) (endsLine_followedBy _)
      (endsLine_followedBy _) behind
    intro offset reached blocks midLine
    rw [intercalate_cons, intercalate_cons, List.append_assoc, List.append_assoc]
    refine (unplaced_line _ blank opens _).trans (.trans ?_ (unplaced_line _ blankOther opens _).symm)
    dsimp only
    rw [width, layoutMarks?_map strict zero]
    cases layoutMarks? (indentation blanks) blocks with
    | none => rfl
    | some found => exact congrArg (Except.map _) (text _ _ _ _)
  | idle idle idleOther rest ih =>
    obtain ⟨here, next⟩ := List.forall_mem_cons.mp inside
    obtain ⟨hereOther, nextOther⟩ := List.forall_mem_cons.mp insideOther
    intro offset reached blocks midLine
    obtain ⟨_, same⟩ := idle.skipped here (endsLine_followedBy _) offset blocks 0 midLine
    obtain ⟨_, sameOther⟩ :=
      idleOther.skipped hereOther (endsLine_followedBy _) reached (blocks.map f) 0 midLine
    rw [intercalate_cons, intercalate_cons]
    refine (congrArg unplaced same).trans (.trans ?_ (congrArg unplaced sameOther).symm)
    rw [followedBy_drop, followedBy_drop]
    exact ih next nextOther _ _ _ _
  | inside opened rest ih =>
    obtain ⟨here, next⟩ := List.forall_mem_cons.mp inside
    have behind := (ih next (List.forall_mem_cons.mp insideOther).2).behind rest.nil_iff
    rw [beq_eq_false_iff_ne.mpr opened, intercalate_cons, intercalate_cons]
    exact .line here (endsLine_followedBy _) (endsLine_followedBy _) behind
  | @inserted depth line vacant lines relaid empty rest ih =>
    have alike := ih inside (List.forall_mem_cons.mp insideOther).2
    rw [intercalate_cons vacant]
    intro offset reached blocks midLine
    -- Outside parentheses the line is skipped as a whole, inside its comment and its end are passed over.
    by_cases closed : depth = 0
    · subst closed
      obtain ⟨_, same⟩ :=
        empty.idle.skipped empty.inside (endsLine_followedBy relaid) reached (blocks.map f) 0 midLine
      refine .trans ?_ (congrArg unplaced same).symm
      rw [followedBy_drop]
      exact alike _ _ _ _
    · rw [beq_eq_false_iff_ne.mpr closed] at alike ⊢
      obtain ⟨_, same⟩ := empty.passes (endsLine_followedBy relaid) reached (blocks.map f) depth midLine
      rw [same]
      cases relaid with
      | nil => cases rest.nil_iff.mpr rfl
      | cons other others =>
        rw [followedBy, lexFrom_inside closed]
        exact alike _ _ _ _

/-! ### Sources -/

theorem not_mem_splitOn (chars : List Char) : ∀ line ∈ chars.splitOn '\n', '\n' ∉ line := by
  induction chars with
  | nil =>
    rw [List.splitOn_nil]
    exact List.forall_mem_singleton.mpr List.not_mem_nil
  | cons c rest ih =>
    rw [List.splitOn_cons_eq_if_modifyHead]
    split
    · exact List.forall_mem_cons.mpr ⟨List.not_mem_nil, ih⟩
    · next other =>
      obtain ⟨line, lines, same⟩ := List.exists_cons_of_ne_nil (List.splitOn_ne_nil '\n' rest)
      rw [same] at ih ⊢
      obtain ⟨here, next⟩ := List.forall_mem_cons.mp ih
      refine List.forall_mem_cons.mpr ⟨fun member => ?_, next⟩
      rcases List.mem_cons.mp member with rfl | member
      · exact other (beq_self_eq_true _)
      · exact here member

theorem Relaid.reading_eq {f : Nat → Nat} (strict : StrictMono f) (zero : f 0 = 0) {source other : String}
    (relaid : Relaid f 0 (source.toList.splitOn '\n') (other.toList.splitOn '\n')) :
    reading other = reading source := by
  have alike := relaid.readsAlike strict zero (not_mem_splitOn _) (not_mem_splitOn _)
  rw [List.intercalate_splitOn, List.intercalate_splitOn] at alike
  exact (alike 0 0 [] false).symm

/-- The tokens of a source decide its script apart from places. -/
theorem parse_of_reading {source other : String} (same : reading other = reading source) {tree : Tree}
    (parsed : parse source = .ok tree) : ∃ joint, parse other = .ok joint ∧ joint.bare = tree.bare := by
  obtain ⟨lexemes, lexed, read⟩ := parse_ok_iff.mp parsed
  unfold reading at same
  rw [lexed] at same
  cases lexedOther : lex other with
  | error fault =>
    rw [lexedOther] at same
    cases same
  | ok others =>
    rw [lexedOther] at same
    have tokens : others.map Lexeme.token = lexemes.map Lexeme.token ++ [].map Lexeme.token :=
      (Except.ok.inj same).trans (List.append_nil _).symm
    have nothing : Grammar.tree [] = .ok ⟨[]⟩ := rfl
    obtain ⟨joint, readOther, alike⟩ := Grammar.tree_join read nothing tokens
    refine ⟨joint, parse_ok_iff.mpr ⟨others, lexedOther, readOther⟩, ?_⟩
    exact congrArg Tree.mk (alike.trans (List.append_nil _))

theorem agree_of_reading {source other : String} (same : reading other = reading source) :
    Agree source other where
  tokens := same
  trees := by
    cases parsed : parse source with
    | ok tree =>
      obtain ⟨joint, parsedOther, alike⟩ := parse_of_reading same parsed
      rw [parsedOther]
      exact congrArg some alike
    | error fault =>
      cases parsedOther : parse other with
      | error found => rfl
      | ok tree =>
        obtain ⟨joint, parsedHere, -⟩ := parse_of_reading same.symm parsedOther
        cases parsedHere.symm.trans parsed

namespace Relaid

theorem same {line : List Char} {lines others : List (List Char)} (inside : '\n' ∉ line)
    (rest : ∀ depth, Relaid id depth lines others) (depth : Nat) :
    Relaid id depth (line :: lines) (line :: others) := by
  by_cases opened : depth = 0
  · subst opened
    obtain ⟨blanks, text, rfl, blank, starts⟩ := exists_blanks line
    cases text with
    | nil =>
      have idle : Idle (blanks ++ []) := ⟨blanks, [], rfl, blank, nofun⟩
      exact .idle idle idle (rest 0)
    | cons c more =>
      have visible := starts c rfl
      by_cases opens : Opens c
      · exact .line blank blank opens rfl (rest _)
      · have newline : c ≠ '\n' := by
          rintro rfl
          exact inside (List.mem_append_right _ List.mem_cons_self)
        have mute : c = '#' ∨ c = '\x00' := by
          rw [or_iff_not_imp_left]
          simp_all [Opens, isLineBlank]
        have idle : Idle (blanks ++ c :: more) := by
          refine ⟨blanks, c :: more, rfl, blank, ?_⟩
          rintro _ ⟨⟩
          exact mute
        exact .idle idle idle (rest 0)
  · exact .inside opened (rest _)

theorem refl {lines : List (List Char)} (inside : ∀ line ∈ lines, '\n' ∉ line) (depth : Nat) :
    Relaid id depth lines lines := by
  induction lines generalizing depth with
  | nil => exact .done depth
  | cons line others ih =>
    obtain ⟨here, next⟩ := List.forall_mem_cons.mp inside
    exact same here (ih next) depth

theorem insert {vacant next : List Char} (empty : Vacant vacant) {front lines : List (List Char)}
    (insideFront : ∀ line ∈ front, '\n' ∉ line) (inside : ∀ line ∈ next :: lines, '\n' ∉ line) (depth : Nat) :
    Relaid id depth (front ++ next :: lines) (front ++ vacant :: next :: lines) := by
  induction front generalizing depth with
  | nil => exact .inserted empty (refl inside depth)
  | cons first others ih =>
    obtain ⟨here, next⟩ := List.forall_mem_cons.mp insideFront
    exact same here (ih next) depth

end Relaid

/-- Where a line of the source starts, the lines in front of it are those of the text in front of it. -/
theorem splitOn_start {before : String} (start : before = "" ∨ ∃ lines, before = lines ++ "\n") :
    ∃ front, (∀ line ∈ front, '\n' ∉ line) ∧
      ∀ after, (before.toList ++ after).splitOn '\n' = front ++ after.splitOn '\n' := by
  rcases start with rfl | ⟨lines, rfl⟩
  · exact ⟨[], nofun, fun after => rfl⟩
  · refine ⟨lines.toList.splitOn '\n', not_mem_splitOn _, fun after => ?_⟩
    have newline : "\n".toList = ['\n'] := rfl
    rw [String.toList_append, newline, List.append_assoc, List.singleton_append, List.splitOn_append_cons_self]

/-- Layout does not change what is read: a line of blanks and perhaps a comment may be put in wherever a line
starts, inside parentheses too, and the widths of the lines where statements start may be changed by any strictly
increasing function that keeps zero. -/
theorem layout_invariant :
    (∀ before line after : String, (before = "" ∨ ∃ lines, before = lines ++ "\n") → Vacant line.toList →
      Agree (before ++ after) (before ++ line ++ "\n" ++ after)) ∧
    ∀ (f : Nat → Nat) (source other : String), StrictMono f → f 0 = 0 →
      Relaid f 0 (source.toList.splitOn '\n') (other.toList.splitOn '\n') → Agree source other := by
  refine ⟨fun before line after start vacant => ?_, fun f source other strict zero relaid =>
    agree_of_reading (relaid.reading_eq strict zero)⟩
  obtain ⟨front, insideFront, split⟩ := splitOn_start start
  obtain ⟨first, lines, same⟩ := List.exists_cons_of_ne_nil (List.splitOn_ne_nil '\n' after.toList)
  have inside : ∀ line ∈ first :: lines, '\n' ∉ line := same ▸ not_mem_splitOn after.toList
  have lines_eq : (before ++ after).toList.splitOn '\n' = front ++ first :: lines := by
    rw [String.toList_append, split, same]
  have lines_with : (before ++ line ++ "\n" ++ after).toList.splitOn '\n' =
      front ++ line.toList :: first :: lines := by
    have newline : "\n".toList = ['\n'] := rfl
    simp only [String.toList_append, newline, List.append_assoc, List.singleton_append]
    rw [split, List.splitOn_append_cons_self_of_not_mem vacant.inside, same]
  have relaid := Relaid.insert vacant insideFront inside 0
  rw [← lines_eq, ← lines_with] at relaid
  exact agree_of_reading (relaid.reading_eq strictMono_id rfl)

theorem wait_layout_invariant :
    let start := "system Wait(e<Clock>) event Tick()\n\tif (True\n"
    let rest := "or late)\n\t\tprint(1)\n"
    let respelled := "system Wait(e<Clock>) event Tick()\n    if (True\n \t# both\nor late)\n\n        print(1)\n"
    (parse (start ++ rest)).toOption.isSome = true ∧ (start = "" ∨ ∃ lines, start = lines ++ "\n") ∧
      Vacant " \t# both".toList ∧ Agree (start ++ rest) (start ++ " \t# both" ++ "\n" ++ rest) ∧
      StrictMono (4 * · : Nat → Nat) ∧
      Relaid (4 * ·) 0 ((start ++ rest).toList.splitOn '\n') (respelled.toList.splitOn '\n') ∧
      Agree (start ++ rest) respelled := by
  intro start rest respelled
  have starts : ∀ c ∈ "# both".toList.head?, c = '#' := by
    rintro _ ⟨⟩
    rfl
  have vacant : Vacant " \t# both".toList :=
    ⟨[' ', '\t'], "# both".toList, rfl, by decide, starts, by decide⟩
  have begins : start = "" ∨ ∃ lines, start = lines ++ "\n" :=
    .inr ⟨"system Wait(e<Clock>) event Tick()\n\tif (True", by decide⟩
  have lines : (start ++ rest).toList.splitOn '\n' =
      [[] ++ 's' :: "ystem Wait(e<Clock>) event Tick()".toList, ['\t'] ++ 'i' :: "f (True".toList,
        "or late)".toList, ['\t', '\t'] ++ 'p' :: "rint(1)".toList, []] := by decide +kernel
  have others : respelled.toList.splitOn '\n' =
      [[] ++ 's' :: "ystem Wait(e<Clock>) event Tick()".toList, List.replicate 4 ' ' ++ 'i' :: "f (True".toList,
        " \t# both".toList, "or late)".toList, [], List.replicate 8 ' ' ++ 'p' :: "rint(1)".toList, []] := by
    decide +kernel
  have header : openBehind 0 false ('s' :: "ystem Wait(e<Clock>) event Tick()".toList) = 0 := by decide +kernel
  have opened : openBehind 0 false ('i' :: "f (True".toList) = 1 := by decide +kernel
  have closed : openBehind 1 false "or late)".toList = 0 := by decide +kernel
  have plain : openBehind 0 false ('p' :: "rint(1)".toList) = 0 := by decide +kernel
  have empty : Vacant [] := ⟨[], [], rfl, by decide, nofun, by decide⟩
  have relaid : Relaid (4 * ·) 0 ((start ++ rest).toList.splitOn '\n') (respelled.toList.splitOn '\n') := by
    rw [lines, others]
    refine .line (by decide) (by decide) (by decide) rfl (header.symm ▸ ?_)
    refine .line (by decide) (by decide) (by decide) rfl (opened.symm ▸ ?_)
    refine .inserted vacant (.inside (by decide) (closed.symm ▸ ?_))
    refine .inserted empty (.line (by decide) (by decide) (by decide) rfl (plain.symm ▸ ?_))
    exact .idle empty.idle empty.idle (.done 0)
  have strict : StrictMono (4 * · : Nat → Nat) := by
    intro narrow wide less
    dsimp only
    omega
  have parsed : (parse (start ++ rest)).toOption.isSome = true := by decide +kernel
  exact ⟨parsed, begins, vacant, layout_invariant.1 start " \t# both" rest begins vacant, strict, relaid,
    layout_invariant.2 (4 * ·) (start ++ rest) respelled strict rfl relaid⟩

end Stagecraft.Script
