import Stagecraft.Proofs.Script.Moments
import Stagecraft.Script.InPlace

/-!
Odometers: a body runs for every tuple with one member of each list. The tuples come in lexicographic order,
each of them once, and a cursor whose digits carry over comes through the same tuples in the same order.
-/

namespace Stagecraft.Script

/-! ### Tuples -/

theorem mem_tuples_iff {lists : List (List Entity)} {tuple : List Entity} :
    tuple ∈ tuples lists ↔ List.Forall₂ (fun entity options => entity ∈ options) tuple lists := by
  induction lists generalizing tuple with
  | nil => simp [tuples]
  | cons options rest ih =>
    rw [tuples, List.mem_flatMap, List.forall₂_cons_right_iff]
    constructor
    · intro found
      obtain ⟨entity, inside, found⟩ := found
      obtain ⟨others, member, rfl⟩ := List.mem_map.mp found
      exact ⟨entity, others, inside, ih.mp member, rfl⟩
    · intro every
      obtain ⟨entity, others, inside, every, rfl⟩ := every
      exact ⟨entity, inside, List.mem_map_of_mem (ih.mpr every)⟩

theorem tuples_eq_nil_iff {lists : List (List Entity)} : tuples lists = [] ↔ [] ∈ lists := by
  induction lists with
  | nil => simp [tuples]
  | cons options rest ih =>
    rw [tuples, List.flatMap_eq_nil_iff, List.mem_cons, ← ih]
    cases options with
    | nil => simp
    | cons entity others => simp +contextual

theorem length_tuples (lists : List (List Entity)) :
    (tuples lists).length = lists.foldr (fun options rounds => options.length * rounds) 1 := by
  induction lists with
  | nil => rfl
  | cons options rest ih =>
    simp only [tuples, List.length_flatMap, List.length_map, List.map_const', List.sum_replicate_nat,
      List.foldr_cons, ih]

/-- Of two tuples, the one with the lesser member where they first differ comes first. So the last members
change fastest. -/
theorem tuples_ascending {lists : List (List Entity)}
    (ascending : ∀ options ∈ lists, options.Pairwise (fun one other => one.id < other.id)) :
    (tuples lists).Pairwise (List.Lex (fun one other => one.id < other.id)) := by
  induction lists with
  | nil => exact List.pairwise_singleton _ _
  | cons options rest ih =>
    obtain ⟨here, others⟩ := List.forall_mem_cons.mp ascending
    rw [tuples, List.pairwise_flatMap]
    constructor
    · intro entity _
      rw [List.pairwise_map]
      exact (ih others).imp List.Lex.cons
    · apply here.imp
      intro one other less first inFirst second inSecond
      obtain ⟨_, -, rfl⟩ := List.mem_map.mp inFirst
      obtain ⟨_, -, rfl⟩ := List.mem_map.mp inSecond
      exact List.Lex.rel less

/-! ### Cursors -/

namespace Deed

inductive Ticks (lists : List (List Entity)) : List Nat → List (List Entity) → Prop
  | last {cursor : List Nat} (stopped : advance lists cursor = none) :
      Ticks lists cursor [chosen lists cursor]
  | next {cursor later : List Nat} {behind : List (List Entity)}
      (advanced : advance lists cursor = some later) (ticks : Ticks lists later behind) :
      Ticks lists cursor (chosen lists cursor :: behind)

variable {options : List Entity} {lists : List (List Entity)} {entity : Entity} {digit : Nat}

theorem chosen_cons (here : options[digit]? = some entity) (cursor : List Nat) :
    chosen (options :: lists) (digit :: cursor) = entity :: chosen lists cursor := by
  simp [chosen, here]

/-- While the digits behind it turn, a digit stays; when they have turned over, it goes on, if it can. -/
theorem Ticks.cons {cursor : List Nat} {passed behind : List (List Entity)}
    (ticks : Ticks lists cursor passed) (here : options[digit]? = some entity)
    (outcome : (digit + 1 = options.length ∧ behind = []) ∨
      (digit + 1 < options.length ∧
        Ticks (options :: lists) ((digit + 1) :: lists.map (fun _ => 0)) behind)) :
    Ticks (options :: lists) (digit :: cursor) (passed.map (entity :: ·) ++ behind) := by
  induction ticks with
  | @last cursor stopped =>
    rw [List.map_singleton, List.singleton_append, ← chosen_cons here]
    cases outcome with
    | inl ends =>
      rw [ends.2]
      apply Ticks.last
      simp [advance, stopped, ends.1]
    | inr goes =>
      apply Ticks.next _ goes.2
      simp [advance, stopped, goes.1]
  | @next cursor later _ advanced _ ih =>
    rw [List.map_cons, List.cons_append, ← chosen_cons here]
    apply Ticks.next _ ih
    simp [advance, advanced]

/-- The odometer begins with the first tuple and comes through all of them. -/
theorem ticks_tuples (inhabited : [] ∉ lists) : Ticks lists (lists.map (fun _ => 0)) (tuples lists) := by
  induction lists with
  | nil => exact .last rfl
  | cons options rest ih =>
    rw [List.mem_cons, not_or] at inhabited
    obtain ⟨here, others⟩ := inhabited
    have inner := ih others
    -- From the first member on, or from any other: on the members that are left, one of them at least.
    have onwards (left : List Entity) (passed : List Entity) (all : options = passed ++ left)
        (more : left ≠ []) : Ticks (options :: rest) (passed.length :: rest.map (fun _ => 0))
          (left.flatMap (fun entity => (tuples rest).map (entity :: ·))) := by
      induction left generalizing passed with
      | nil => exact absurd rfl more
      | cons entity left again =>
        have found : options[passed.length]? = some entity := by simp [all]
        rw [List.flatMap_cons]
        apply inner.cons found
        cases left with
        | nil => exact .inl ⟨by simp [all], rfl⟩
        | cons second left =>
          refine .inr ⟨by simp [all], ?_⟩
          have later := again (passed ++ [entity]) (by simp [all]) (List.cons_ne_nil second left)
          rwa [List.length_append] at later
    exact onwards options [] rfl (Ne.symm here)

theorem Ticks.turnOver {cursor : List Nat} {passed : List (List Entity)} (ticks : Ticks lists cursor passed)
    (deed : List Entity → Deed Unit) {rounds : Nat} (enough : passed.length ≤ rounds) :
    Deed.turnOver deed lists rounds cursor = passed.forM deed := by
  induction ticks generalizing rounds with
  | last stopped =>
    cases rounds with
    | zero => cases enough
    | succ rounds =>
      rw [Deed.turnOver, stopped]
      rfl
  | next advanced _ ih =>
    cases rounds with
    | zero => cases enough
    | succ rounds =>
      rw [Deed.turnOver, advanced]
      dsimp only
      rw [ih (Nat.le_of_succ_le_succ enough)]
      rfl

/-- Counting through the lists is going through the tuples. -/
theorem forEachChoice_eq (deed : List Entity → Deed Unit) (inhabited : [] ∉ lists) :
    forEachChoice deed lists = (tuples lists).forM deed :=
  (ticks_tuples inhabited).turnOver deed (Nat.le_of_eq (length_tuples lists))

end Deed

end Stagecraft.Script
