import Mathlib.Data.List.Sort
import Mathlib.Tactic.Common
import Stagecraft.Handle

/-!
Slots: arrays of optional contents that go by the numbers of entities. Signatures and values are kept
alike, so what is counted and listed of them is settled here once.
-/

namespace Stagecraft

/-- Lists of entities in ascending order are known by their members. -/
theorem eq_of_ascending {first second : List Entity}
    (ascending : first.Pairwise (fun entity next => entity.id < next.id))
    (ascendingOther : second.Pairwise (fun entity next => entity.id < next.id))
    (same : ∀ entity, entity ∈ first ↔ entity ∈ second) : first = second := by
  have injective : Function.Injective Entity.id := by
    rintro ⟨_⟩ ⟨_⟩ rfl
    rfl
  apply List.map_injective_iff.mpr injective
  apply List.Pairwise.eq_of_mem_iff (List.pairwise_map.mpr ascending)
    (List.pairwise_map.mpr ascendingOther)
  intro number
  simp only [List.mem_map, same]

theorem getElem?_modify_of {α : Type} {places : Array α} {index : Nat} {content : α}
    (placed : places[index]? = some content) (change : α → α) (other : Nat) :
    (places.modify index change)[other]? = if index = other then some (change content) else places[other]? := by
  rw [Array.getElem?_modify]
  split
  · next same => rw [← same, placed, Option.map_some]
  · rfl

namespace Slots

variable {α : Type}

theorem ascending (bound : Nat) (test : Entity → Bool) :
    (((List.range bound).map Entity.mk).filter test).Pairwise
      (fun first second => first.id < second.id) := by
  apply List.Pairwise.filter
  rw [List.pairwise_map]
  exact List.pairwise_lt_range

theorem toList_eq_map_range (slots : Array (Option α)) :
    slots.toList = (List.range slots.size).map (fun i => slots[i]?.join) := by
  apply List.ext_getElem
  · simp
  · intro i inside _
    have bound : i < slots.size := by simpa using inside
    simp [bound]

theorem length_occupied (slots : Array (Option α)) :
    (((List.range slots.size).map Entity.mk).filter
      (fun entity => (slots[entity.id]?.join).isSome)).length = slots.countP Option.isSome := by
  rw [List.filter_map, List.length_map, ← Array.countP_toList, toList_eq_map_range,
    List.countP_map, List.countP_eq_length_filter]
  rfl

theorem join_setIfInBounds (slots : Array (Option α)) (i j : Nat) (inside : i < slots.size)
    (content : Option α) :
    (slots.setIfInBounds i content)[j]?.join = if i = j then content else slots[j]?.join := by
  rw [Array.getElem?_setIfInBounds]
  by_cases same : i = j
  · rw [if_pos same, if_pos same, if_pos inside]
    rfl
  · rw [if_neg same, if_neg same]

/-- Replacing the content of a slot changes the count by what comes and what goes. -/
theorem countP_setIfInBounds (slots : Array (Option α)) (i : Nat) (inside : i < slots.size)
    (content : Option α) :
    (slots.setIfInBounds i content).countP Option.isSome + (slots[i]?.join).isSome.toNat =
      slots.countP Option.isSome + content.isSome.toNat := by
  have occupied : slots[i]?.join = slots[i] := by simp [inside]
  have positive : slots[i].isSome = true → 0 < slots.countP Option.isSome := by
    intro filled
    exact Array.countP_pos_iff.mpr ⟨slots[i], Array.getElem_mem inside, filled⟩
  rw [Array.setIfInBounds_def, dif_pos inside, Array.countP_set inside, occupied]
  generalize slots[i] = previous at positive ⊢
  generalize slots.countP Option.isSome = count at positive ⊢
  cases previous <;> cases content <;> simp at positive ⊢ <;> omega

end Slots

end Stagecraft
