import Mathlib.Data.List.Induction
import Mathlib.Data.List.Perm.Subperm
import Mathlib.Data.List.Sort
import Mathlib.Data.String.Basic
import Stagecraft.Keyed

/-!
Entries: what is filed in a finite map from names. A map in order is known by its entries, so it does not
matter in which order they were filed.
-/

namespace Stagecraft

section Lookup

variable {κ α : Type} [BEq κ] [LawfulBEq κ] {entries : List (κ × α)}

theorem Keyed.lookup_eq_some_iff (distinct : (entries.map Prod.fst).Nodup) {name : κ} {value : α} :
    entries.lookup name = some value ↔ (name, value) ∈ entries := by
  induction entries with
  | nil => simp
  | cons entry rest ih =>
    obtain ⟨other, kept⟩ := entry
    rw [List.map_cons, List.nodup_cons] at distinct
    rw [List.lookup_cons]
    by_cases same : name = other
    · subst same
      have absent : (name, value) ∉ rest := fun inside =>
        distinct.1 (List.mem_map.mpr ⟨_, inside, rfl⟩)
      simp [absent, eq_comm]
    · have different : (name == other) = false := beq_eq_false_iff_ne.mpr same
      simp [different, ih distinct.2, same]

theorem lookup_filter [DecidableEq κ] (entries : List (κ × α)) (key other : κ) :
    (entries.filter (fun entry => entry.1 != key)).lookup other =
      if other = key then none else entries.lookup other := by
  induction entries with
  | nil => simp
  | cons entry rest ih =>
    obtain ⟨first, value⟩ := entry
    by_cases dropped : first = key
    · subst dropped
      rw [List.filter_cons_of_neg (by simp), ih, List.lookup_cons]
      by_cases same : other = first
      · rw [if_pos same, if_pos same]
      · have different : (other == first) = false := beq_eq_false_iff_ne.mpr same
        simp only [different]
    · rw [List.filter_cons_of_pos (by simpa using dropped), List.lookup_cons, List.lookup_cons, ih]
      by_cases same : other = first
      · subst same
        simp [dropped]
      · have different : (other == first) = false := beq_eq_false_iff_ne.mpr same
        simp only [different]

end Lookup

namespace Keyed

variable {α : Type}

theorem lookup_isSome_iff {entries : List (String × α)} {name : String} :
    (entries.lookup name).isSome = true ↔ name ∈ entries.map Prod.fst := by
  induction entries with
  | nil => simp
  | cons entry rest ih =>
    obtain ⟨other, kept⟩ := entry
    rw [List.lookup_cons, List.map_cons, List.mem_cons]
    by_cases same : name = other
    · simp [same]
    · have different : (name == other) = false := beq_eq_false_iff_ne.mpr same
      simp only [different, ih, same, false_or]

theorem Sorted.distinct {entries : Keyed α} (sorted : Sorted entries) :
    (entries.map Prod.fst).Nodup :=
  List.pairwise_map.mpr (sorted.imp ne_of_lt)

/-- Maps in order are equal if they have the same entries. -/
theorem Sorted.eq_of_mem_iff {first second : Keyed α} (sorted : Sorted first)
    (sortedOther : Sorted second) (same : ∀ entry, entry ∈ first ↔ entry ∈ second) :
    first = second := by
  have perm : first.Perm second :=
    (List.perm_ext_iff_of_nodup (List.Nodup.of_map _ sorted.distinct)
      (List.Nodup.of_map _ sortedOther.distinct)).mpr same
  exact perm.eq_of_pairwise (fun a b _ _ less more => absurd more (lt_asymm less)) sorted sortedOther

theorem mem_insert {name : String} {value : α} {entries : Keyed α} (sorted : Sorted entries)
    (entry : String × α) :
    entry ∈ insert name value entries ↔
      entry = (name, value) ∨ entry ∈ entries ∧ entry.1 ≠ name := by
  induction entries with
  | nil => simp [insert]
  | cons first rest ih =>
    obtain ⟨other, kept⟩ := first
    obtain ⟨least, tail⟩ := List.pairwise_cons.mp sorted
    have behind (member : entry ∈ rest) : other < entry.1 := least entry member
    unfold insert
    split
    next same =>
      subst same
      have different (member : entry ∈ rest) : entry.1 ≠ name := ne_of_gt (behind member)
      rw [List.mem_cons, List.mem_cons]
      constructor
      · rintro (here | later)
        · exact .inl here
        · exact .inr ⟨.inr later, different later⟩
      · rintro (here | ⟨here | later, apart⟩)
        · exact .inl here
        · exact absurd (congrArg Prod.fst here) apart
        · exact .inr later
    next apart =>
      split
      next less =>
        have different (member : entry ∈ (other, kept) :: rest) : entry.1 ≠ name := by
          rcases List.mem_cons.mp member with here | later
          · rw [here]
            exact Ne.symm apart
          · exact ne_of_gt (lt_trans less (behind later))
        rw [List.mem_cons]
        exact or_congr_right ⟨fun member => ⟨member, different member⟩, And.left⟩
      next =>
        have different (here : entry = (other, kept)) : entry.1 ≠ name := by
          rw [here]
          exact Ne.symm apart
        rw [List.mem_cons, ih tail, List.mem_cons]
        constructor
        · rintro (here | here | ⟨later, different⟩)
          · exact .inr ⟨.inl here, different here⟩
          · exact .inl here
          · exact .inr ⟨.inr later, different⟩
        · rintro (here | ⟨here | later, different⟩)
          · exact .inr (.inl here)
          · exact .inl here
          · exact .inr (.inr ⟨later, different⟩)

theorem insert_sorted (name : String) (value : α) {entries : Keyed α} (sorted : Sorted entries) :
    Sorted (insert name value entries) := by
  induction entries with
  | nil => simp [insert, Sorted]
  | cons first rest ih =>
    obtain ⟨other, kept⟩ := first
    obtain ⟨least, tail⟩ := List.pairwise_cons.mp sorted
    unfold insert
    split
    next same =>
      subst same
      exact List.pairwise_cons.mpr ⟨least, tail⟩
    next apart =>
      split
      next less =>
        refine List.pairwise_cons.mpr ⟨fun entry member => ?_, sorted⟩
        rcases List.mem_cons.mp member with here | later
        · rw [here]
          exact less
        · exact lt_trans less (least entry later)
      next notLess =>
        refine List.pairwise_cons.mpr ⟨fun entry member => ?_, ih tail⟩
        rcases (mem_insert tail entry).mp member with here | ⟨later, -⟩
        · rw [here]
          exact lt_of_le_of_ne (not_lt.mp notLess) (Ne.symm apart)
        · exact least entry later

theorem lookup_cons (name : String) (value : α) (rest : Keyed α) (other : String) :
    List.lookup other ((name, value) :: rest) = if other = name then some value else rest.lookup other := by
  rw [List.lookup_cons]
  by_cases here : other = name
  · simp [here]
  · rw [beq_eq_false_iff_ne.mpr here, if_neg here]

theorem lookup_insert (name : String) (value : α) (entries : Keyed α) (other : String) :
    (insert name value entries).lookup other =
      if other = name then some value else entries.lookup other := by
  induction entries with
  | nil => exact lookup_cons name value [] other
  | cons entry rest ih =>
    obtain ⟨first, kept⟩ := entry
    unfold insert
    split
    next same =>
      subst same
      rw [lookup_cons, lookup_cons]
      split <;> rfl
    next apart =>
      split
      next less => rw [lookup_cons]
      next =>
        rw [lookup_cons, lookup_cons, ih]
        by_cases here : other = name
        · rw [if_pos here, if_pos here, if_neg (here ▸ apart)]
        · rw [if_neg here, if_neg here]

/-! ### Maps made of entries -/

theorem ofList_append_one (entries : List (String × α)) (entry : String × α) :
    ofList (entries ++ [entry]) = insert entry.1 entry.2 (ofList entries) :=
  List.foldl_append

theorem ofList_sorted (entries : List (String × α)) : Sorted (ofList entries) := by
  induction entries using List.reverseRecOn with
  | nil => exact List.Pairwise.nil
  | append_singleton entries entry ih =>
    rw [ofList_append_one]
    exact insert_sorted _ _ ih

/-- The last entry of a name counts. -/
theorem lookup_ofList (entries : List (String × α)) (name : String) :
    (ofList entries).lookup name = entries.reverse.lookup name := by
  induction entries using List.reverseRecOn with
  | nil => rfl
  | append_singleton entries entry ih =>
    rw [ofList_append_one, lookup_insert, ih, List.reverse_append, List.reverse_singleton,
      List.singleton_append]
    exact (lookup_cons entry.1 entry.2 _ name).symm

theorem mem_of_mem_ofList {entries : List (String × α)} {entry : String × α}
    (filed : entry ∈ ofList entries) : entry ∈ entries := by
  induction entries using List.reverseRecOn with
  | nil => exact filed
  | append_singleton entries last ih =>
    rw [ofList_append_one, mem_insert (ofList_sorted entries)] at filed
    rw [List.mem_append, List.mem_singleton]
    rcases filed with here | ⟨before, -⟩
    · exact .inr here
    · exact .inl (ih before)

theorem mem_names_ofList {entries : List (String × α)} {name : String} :
    name ∈ (ofList entries).map Prod.fst ↔ name ∈ entries.map Prod.fst := by
  rw [← lookup_isSome_iff, lookup_ofList, lookup_isSome_iff, List.map_reverse, List.mem_reverse]

theorem length_ofList_iff (entries : List (String × α)) :
    (ofList entries).length = entries.length ↔ (entries.map Prod.fst).Nodup := by
  have distinct := (ofList_sorted entries).distinct
  have names (list : List (String × α)) : list.length = (list.map Prod.fst).length :=
    (List.length_map _).symm
  rw [names (ofList entries), names entries]
  constructor
  · intro same
    have among : ((ofList entries).map Prod.fst).Subperm (entries.map Prod.fst) :=
      List.subperm_of_subset distinct fun name inside => mem_names_ofList.mp inside
    exact (among.perm_of_length_le same.ge).nodup_iff.mp distinct
  · intro apart
    exact ((List.perm_ext_iff_of_nodup distinct apart).mpr fun name => mem_names_ofList).length_eq

/-- A map made of entries with distinct names is in order and has these entries. -/
theorem ofList_spec {entries : List (String × α)} (distinct : (entries.map Prod.fst).Nodup) :
    Sorted (ofList entries) ∧ ∀ entry, entry ∈ ofList entries ↔ entry ∈ entries := by
  have sorted := ofList_sorted entries
  refine ⟨sorted, fun entry => ?_⟩
  have distinctReverse : (entries.reverse.map Prod.fst).Nodup := by
    rw [List.map_reverse]
    exact List.nodup_reverse.mpr distinct
  rw [← lookup_eq_some_iff sorted.distinct, lookup_ofList, lookup_eq_some_iff distinctReverse,
    List.mem_reverse]

end Keyed

end Stagecraft
