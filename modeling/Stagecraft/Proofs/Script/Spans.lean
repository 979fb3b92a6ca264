import Stagecraft.Proofs.Script.Pieces
import Stagecraft.Proofs.Script.Slicing

/-!
Spans: the place that the lexer gives to a token is the place of its text. The text that stands there is read as the
same token by itself, the places come in the order of the source, and a fault too is a place between characters.
-/

namespace Stagecraft.Script

open Text (Span Boundary byteSize)

structure Located (source : String) (span : Span) : Prop where
  order : span.start ≤ span.stop
  start : Boundary source span.start
  stop : Boundary source span.stop

theorem located_of_parts {source : String} {front part behind : List Char}
    (split : source.toList = front ++ part ++ behind) :
    Located source ⟨byteSize front, byteSize (front ++ part)⟩ where
  order := by
    rw [Text.byteSize_append]
    exact Nat.le_add_right _ _
  start := Text.boundary_iff.mpr ⟨front, ⟨part ++ behind, by rw [split, List.append_assoc]⟩, rfl⟩
  stop := Text.boundary_iff.mpr ⟨front ++ part, ⟨behind, split.symm⟩, rfl⟩

/-- A slice breaks exactly where it is no part of the source between characters. -/
theorem slice_breaks_iff {source : String} {span : Span} {stand : Slicing.Stand} :
    Slicing.slice source.toList span.start span.stop stand = .error .broken ↔ ¬Located source span := by
  have whole : Located source span ↔ (Text.slice? span source.toList).isSome := by
    rw [Text.slice?_isSome_iff]
    exact ⟨fun ⟨order, start, stop⟩ => ⟨order, start, stop⟩, fun ⟨order, start, stop⟩ => ⟨order, start, stop⟩⟩
  unfold Slicing.slice
  rw [whole]
  cases Text.slice? span source.toList with
  | none => exact iff_of_true rfl nofun
  | some chars => exact iff_of_false nofun fun none => none rfl

/-! ### Tokens by themselves -/

theorem scanNumber_alone {chars behind : List Char} {token : Token}
    (scan : scanNumber (chars ++ behind) = (token, chars.length)) : scanNumber chars = (token, chars.length) := by
  have nothing : Stops Char.isDigit [] := nofun
  have cut (text later : List Char) (split : chars ++ behind = text ++ later)
      (same : scanNumber (text ++ later) = (Slicing.numberOf text, text.length))
      (alone : scanNumber text = (Slicing.numberOf text, text.length)) :
      scanNumber chars = (token, chars.length) := by
    rw [split, same] at scan
    obtain ⟨rfl, length⟩ := Prod.mk.inj scan
    obtain rfl := (List.append_inj split length.symm).1
    exact alone
  obtain ⟨whole, left, split, digits, ends⟩ := Slicing.exists_stops Char.isDigit (chars ++ behind)
  by_cases point : ∃ others, left = '.' :: others ∧ ¬Stops Char.isDigit others
  · obtain ⟨others, rfl, going⟩ := point
    obtain ⟨fraction, later, rfl, digitsBehind, stops⟩ := Slicing.exists_stops Char.isDigit others
    have present : fraction ≠ [] := by
      rintro rfl
      exact going stops
    have alone := Slicing.scanNumber_fraction digits digitsBehind present nothing
    rw [List.append_nil] at alone
    refine cut (whole ++ '.' :: fraction) later ?_ ?_ alone
    · rw [split, List.append_assoc, List.cons_append]
    · rw [List.append_assoc, List.cons_append]
      exact Slicing.scanNumber_fraction digits digitsBehind present stops
  · have noDigit (others : List Char) (same : left = '.' :: others) : Stops Char.isDigit others := by
      by_contra going
      exact point ⟨others, same, going⟩
    have alone := Slicing.scanNumber_whole digits nothing nofun
    rw [List.append_nil] at alone
    exact cut _ _ split (Slicing.scanNumber_whole digits ends noDigit) alone

theorem takeWhile_alone {p : Char → Bool} {chars behind : List Char}
    (length : ((chars ++ behind).takeWhile p).length = chars.length) :
    (chars ++ behind).takeWhile p = chars ∧ chars.takeWhile p = chars := by
  have taken := List.takeWhile_prefix p (l := chars ++ behind)
  rw [List.prefix_iff_eq_take, length, List.take_left] at taken
  refine ⟨taken, List.takeWhile_eq_self_iff.mpr fun c member => ?_⟩
  rw [← taken] at member
  exact List.mem_takeWhile_imp member

/-- The text of a token by itself is read as this token. -/
theorem scanToken_alone {c : Char} {text behind : List Char} {token : Token}
    (scan : scanToken c (text ++ behind) = .ok (token, text.length)) :
    scanToken c text = .ok (token, text.length) := by
  by_cases digit : c.isDigit = true
  · rw [Slicing.scanToken_number digit] at scan ⊢
    obtain ⟨_, others, _, -, -, wide, -⟩ := scanNumber_neutral digit (text ++ behind)
    obtain ⟨same, length⟩ := Prod.mk.inj (Except.ok.inj scan)
    have whole : scanNumber ((c :: text) ++ behind) = (token, (c :: text).length) := by
      refine Prod.ext same ?_
      rw [List.length_cons]
      change (scanNumber (c :: (text ++ behind))).2 = text.length + 1
      omega
    rw [scanNumber_alone whole]
    rfl
  unfold scanToken at scan ⊢
  dsimp only at scan ⊢
  rw [if_neg digit] at scan ⊢
  split at scan
  · next quote =>
    obtain ⟨content, left, split_, inside, ends⟩ :=
      Slicing.exists_stops (fun d => d ≠ '"' ∧ d ≠ '\n') (text ++ behind)
    rw [split_, takeWhile_stops inside ends, List.drop_left] at scan
    split at scan
    · next closing =>
      obtain ⟨others, rfl⟩ := List.head?_eq_some_iff.mp closing
      obtain ⟨rfl, length⟩ := Prod.mk.inj (Except.ok.inj scan)
      rw [← List.singleton_append, ← List.append_assoc] at split_
      obtain rfl := (List.append_inj split_ (by rw [List.length_append, ← length]; rfl)).1
      have taken : (content ++ ['"']).takeWhile (fun d => d ≠ '"' ∧ d ≠ '\n') = content :=
        takeWhile_stops inside (stops_cons (by decide) [])
      rw [if_pos quote, taken, List.drop_left, List.head?_cons, if_pos rfl, ← length]
    · cases scan
  · next quote =>
    rw [if_neg quote]
    split at scan
    · next starts =>
      obtain ⟨same, length⟩ := Prod.mk.inj (Except.ok.inj scan)
      obtain ⟨taken, alone⟩ := takeWhile_alone length
      rw [if_pos starts, alone, ← same, taken]
    · next starts =>
      rw [if_neg starts]
      split at scan
      · next symbol pair =>
        obtain ⟨rfl, length⟩ := Prod.mk.inj (Except.ok.inj scan)
        obtain ⟨d, rfl⟩ := List.length_eq_one_iff.mp length.symm
        have alone : [d].head?.bind (Symbol.ofPair? c) = some symbol := pair
        rw [alone]
        rfl
      · split at scan
        · next symbol single =>
          obtain ⟨rfl, length⟩ := Prod.mk.inj (Except.ok.inj scan)
          obtain rfl := List.length_eq_zero_iff.mp length.symm
          rfl
        · cases scan

theorem lex_token {c : Char} {text : List Char} {token : Token} (opens : Opens c)
    (scan : scanToken c text = .ok (token, text.length)) (counts : depthBehind 0 token = some 0) :
    lex (String.ofList (c :: text)) = .ok [⟨token, ⟨0, byteSize (c :: text)⟩⟩,
      ⟨.newline, ⟨byteSize (c :: text), byteSize (c :: text)⟩⟩] := by
  have visible := isLineBlank_of_opens opens
  have shape : (c :: text).dropWhile isLineBlank = c :: text := by
    rw [List.dropWhile_cons, visible]
    rfl
  have none : (c :: text).takeWhile isLineBlank = [] := by
    rw [List.takeWhile_cons, visible]
    rfl
  have layout : layoutMarks? (indentWidth ((c :: text).takeWhile isLineBlank)) Cursor.start.blocks =
      some ([], []) := by
    rw [none]
    rfl
  have size : (Cursor.start.pass (c :: text)).offset = byteSize (c :: text) := Nat.zero_add _
  unfold lex
  rw [String.toList_ofList, lexFrom_line shape opens layout, none]
  change (do
    let lexemes ← lexFrom .start false (c :: text)
    return [] ++ lexemes) = _
  rw [lexFrom_token shape opens scan ((countParens?_eq _ _).trans counts), none, List.take_length, List.drop_length,
    ← size]
  dsimp only
  rw [lexFrom_nil]
  rfl

/-! ### Places -/

theorem isMark_of_layout {width : Nat} {blocks inner : List Nat} {marks : List Token}
    (layout : layoutMarks? width blocks = some (marks, inner)) : ∀ mark ∈ marks, mark.IsMark := by
  intro mark member
  rcases layoutMarks?_counts layout with ⟨rfl, -⟩ | ⟨closed, rfl, -⟩
  · rw [List.mem_singleton.mp member]
    decide
  · rw [List.eq_of_mem_replicate member]
    decide

/-- Of a piece come marks of layout, or one token with its text. -/
theorem Piece.tokens_cases {blocks inner : List Nat} {before piece behind : List Char} {tokens : List Token}
    (here : Piece blocks before piece behind tokens inner) :
    (∀ token ∈ tokens, token.IsMark) ∨ ∃ c text token, piece = c :: text ∧ tokens = [token] ∧ Opens c ∧
      scanToken c (text ++ behind) = .ok (token, text.length) := by
  cases here with
  | blank | comment | veiled => exact .inl nofun
  | marks _ layout => exact .inl (isMark_of_layout layout)
  | newline => exact .inl (List.forall_mem_singleton.mpr (by decide))
  | token opens scan => exact .inr ⟨_, _, _, rfl, rfl, opens, scan⟩

theorem isMark_of_ending {mark : Token} (ending : mark ∈ [.newline, .dedent]) : mark.IsMark := by
  unfold Token.IsMark
  simp only [List.mem_cons, List.not_mem_nil, or_false] at ending ⊢
  exact ending.imp_right .inr

theorem span_placed (before piece : List Char) (token : Token) :
    (placed before piece token).span = ⟨byteSize before, byteSize (before ++ piece)⟩ := rfl

namespace Pieces

variable {blocks : List Nat} {before chars : List Char} {lexemes : List Lexeme}

/-- Every lexeme has its place, and every token that does not mark the layout has its text there. -/
theorem placed_of_mem (pieces : Pieces blocks before chars lexemes) : ∀ lexeme ∈ lexemes, ∃ front piece behind,
    before ++ chars = front ++ piece ++ behind ∧ lexeme = placed front piece lexeme.token ∧
      (¬lexeme.token.IsMark → ∃ c text, piece = c :: text ∧ Opens c ∧
        scanToken c (text ++ behind) = .ok (lexeme.token, text.length)) := by
  induction pieces with
  | @done blocks before marks layout =>
    intro lexeme member
    obtain ⟨mark, within, rfl⟩ := List.mem_map.mp member
    exact ⟨before, [], [], by simp, rfl, fun plain => absurd (isMark_of_ending (layout mark within)) plain⟩
  | @more blocks inner before piece behind tokens lexemes here rest ih =>
    refine List.forall_mem_append.mpr ⟨fun lexeme member => ?_, fun lexeme member => ?_⟩
    · obtain ⟨token, within, rfl⟩ := List.mem_map.mp member
      refine ⟨before, piece, behind, (List.append_assoc ..).symm, rfl, fun plain => ?_⟩
      rcases here.tokens_cases with marks | ⟨c, text, other, rfl, rfl, opens, scan⟩
      · exact absurd (marks token within) plain
      · obtain rfl := List.mem_singleton.mp within
        exact ⟨c, text, rfl, opens, scan⟩
    · rw [← List.append_assoc]
      exact ih lexeme member

theorem pairwise (pieces : Pieces blocks before chars lexemes) : lexemes.Pairwise fun first second =>
    first.span.start ≤ second.span.start ∧ (¬first.token.IsMark → first.span.stop ≤ second.span.start) := by
  have together {before piece : List Char} {tokens : List Token} (marks : ∀ token ∈ tokens, token.IsMark) :
      (tokens.map (placed before piece)).Pairwise fun first second =>
        first.span.start ≤ second.span.start ∧ (¬first.token.IsMark → first.span.stop ≤ second.span.start) :=
    List.pairwise_map.mpr (List.pairwise_of_forall_mem_list fun token member _ _ =>
      ⟨Nat.le_refl _, fun plain => absurd (marks token member) plain⟩)
  induction pieces with
  | done layout => exact together fun mark member => isMark_of_ending (layout mark member)
  | @more blocks inner before piece behind tokens lexemes here rest ih =>
    refine List.pairwise_append.mpr ⟨?_, ih, fun first member second later => ?_⟩
    · rcases here.tokens_cases with marks | ⟨c, text, token, -, rfl, -⟩
      · exact together marks
      · exact List.pairwise_singleton ..
    · obtain ⟨token, -, rfl⟩ := List.mem_map.mp member
      have starts := rest.le_start second later
      rw [Text.byteSize_append] at starts
      rw [span_placed, Text.byteSize_append]
      dsimp only
      exact ⟨by omega, fun _ => starts⟩

end Pieces

/-- Where the lexer stops, it stops at a part of what it faces. -/
theorem faces_of_fault {source chars : List Char} {cursor : Cursor} {lineStart : Bool} :
    ∀ {fault : LexFault}, lexFrom cursor lineStart chars = .error fault → Slicing.Faces source cursor.offset chars →
      ∃ part behind, Slicing.Faces source fault.span.start (part ++ behind) ∧
        fault.span.stop = fault.span.start + byteSize part := by
  have atEnd {cursor : Cursor} {fault : LexFault} (failed : finish cursor = .error fault)
      (faces : Slicing.Faces source cursor.offset []) : ∃ part behind,
        Slicing.Faces source fault.span.start (part ++ behind) ∧
          fault.span.stop = fault.span.start + byteSize part := by
    unfold finish at failed
    dsimp only at failed
    split at failed
    · cases failed
    · cases failed
      exact ⟨[], [], faces, rfl⟩
  fun_induction lexFrom cursor lineStart chars
  case case1 cursor lineStart chars empty =>
    intro fault failed faces
    exact atEnd failed (List.isEmpty_iff.mp empty ▸ faces)
  case case2 cursor chars present after ends line left ih =>
    intro fault failed faces
    exact ih failed faces.behindLine
  case case3 cursor chars present after going span layout =>
    intro fault failed faces
    cases failed
    rw [← List.takeWhile_append_dropWhile (p := isLineBlank) (l := chars)] at faces
    exact ⟨_, _, faces, rfl⟩
  case case4 cursor chars present after going span marks inner layout ih =>
    intro fault failed faces
    rcases bind_error failed with failed | ⟨_, -, failed⟩
    · exact ih failed faces.afterBlanks
    · cases failed
  case case5 cursor lineStart chars present after other shape =>
    intro fault failed faces
    exact atEnd failed (shape ▸ faces.afterBlanks)
  case case6 cursor lineStart chars present after other rest shape ih =>
    intro fault failed faces
    exact ih failed (faces.behindComment shape)
  case case7 cursor lineStart chars present after other rest closed shape _ next ih =>
    intro fault failed faces
    rcases bind_error failed with failed | ⟨_, -, failed⟩
    · exact ih failed (faces.behindSign shape)
    · cases failed
  case case8 cursor lineStart chars present after other rest opened shape _ next ih =>
    intro fault failed faces
    exact ih failed (faces.behindSign shape)
  case case9 cursor lineStart chars present after other c rest shape comment newline issue length scan =>
    intro fault failed faces
    cases failed
    exact ⟨_, _, faces.atToken shape length, rfl⟩
  case case10 cursor lineStart chars present after other c rest shape comment newline token length scan next counts =>
    intro fault failed faces
    cases failed
    exact ⟨_, _, faces.atToken shape length, rfl⟩
  case case11 cursor lineStart chars present after other c rest shape comment newline token length scan next inner
      counts ih =>
    intro fault failed faces
    rcases bind_error failed with failed | ⟨_, -, failed⟩
    · exact ih failed (faces.atToken shape length).pass
    · cases failed

/-! ### Sources -/

/-- The places of the lexemes are those of their texts in the source. -/
structure Faithful (source : String) (lexemes : List Lexeme) : Prop where
  located : ∀ lexeme ∈ lexemes, Located source lexeme.span
  ordered : lexemes.Pairwise fun first second => first.span.start ≤ second.span.start
  present : ∀ lexeme ∈ lexemes, ¬lexeme.token.IsMark → lexeme.span.start < lexeme.span.stop
  /-- A token ends before anything behind it starts. So the tokens are disjoint. -/
  apart : lexemes.Pairwise fun first second => ¬first.token.IsMark → first.span.stop ≤ second.span.start
  /-- The text of a token, a parenthesis apart, is a source of this token alone. -/
  alone : ∀ lexeme ∈ lexemes, ¬lexeme.token.IsMark →
    lexeme.token ∉ [.symbol .opening, .symbol .closing] → ∃ text,
      Text.slice? lexeme.span source.toList = some text ∧
        lex (String.ofList text) = .ok [⟨lexeme.token, ⟨0, byteSize text⟩⟩, ⟨.newline, ⟨byteSize text, byteSize text⟩⟩]

theorem depthBehind_plain {token : Token} (plain : token ∉ [.symbol .opening, .symbol .closing]) (depth : Nat) :
    depthBehind depth token = some depth := by
  unfold depthBehind Cursor.countParens?
  split
  · exact absurd (List.mem_cons_self ..) plain
  · exact absurd (List.mem_cons_of_mem _ (List.mem_cons_self ..)) plain
  · rfl

theorem faithful_of_pieces {source : String} {lexemes : List Lexeme} (pieces : Pieces [] [] source.toList lexemes) :
    Faithful source lexemes where
  located lexeme member := by
    obtain ⟨front, piece, behind, split, place, -⟩ := pieces.placed_of_mem lexeme member
    rw [place]
    exact located_of_parts split
  ordered := pieces.pairwise.imp And.left
  present lexeme member plain := by
    obtain ⟨front, piece, behind, -, place, read⟩ := pieces.placed_of_mem lexeme member
    obtain ⟨c, text, rfl, -⟩ := read plain
    rw [place]
    exact byteSize_lt_append front (List.cons_ne_nil c text)
  apart := pieces.pairwise.imp And.right
  alone lexeme member plain single := by
    obtain ⟨front, piece, behind, split, place, read⟩ := pieces.placed_of_mem lexeme member
    obtain ⟨c, text, rfl, opens, scan⟩ := read plain
    refine ⟨c :: text, ?_, lex_token opens (scanToken_alone scan) (depthBehind_plain single 0)⟩
    rw [List.nil_append] at split
    rw [place, split]
    exact Text.slice?_append front (c :: text) behind

theorem located_of_fault {source : String} {fault : LexFault} (failed : lex source = .error fault) :
    Located source fault.span := by
  have begins : Slicing.Faces source.toList Cursor.start.offset source.toList := ⟨[], rfl, rfl⟩
  obtain ⟨part, behind, ⟨front, split, start⟩, stop⟩ := faces_of_fault failed begins
  have place : fault.span = ⟨byteSize front, byteSize (front ++ part)⟩ := by
    rw [Text.byteSize_append, ← start, ← stop]
  rw [place]
  exact located_of_parts (split.trans (List.append_assoc ..).symm)

/-- Lexing in place breaks no slice and reads the same. What is read has faithful places, and a fault has a place in
the source. -/
theorem lex_spans (source : String) :
    (Slicing.lex source ≠ .error .broken ∧ Slicing.lex source = (lex source).mapError .fault) ∧
      match lex source with
      | .ok lexemes => Faithful source lexemes
      | .error fault => Located source fault.span := by
  have inPlace := Slicing.lex_eq source
  cases outcome : lex source with
  | ok lexemes =>
    rw [outcome] at inPlace
    exact ⟨⟨inPlace ▸ nofun, inPlace⟩, faithful_of_pieces (pieces_of_lex outcome)⟩
  | error fault =>
    rw [outcome] at inPlace
    exact ⟨⟨inPlace ▸ nofun, inPlace⟩, located_of_fault outcome⟩

end Stagecraft.Script
