import Stagecraft.Handle
import Stagecraft.Value

/-!
Columns: the values of one component, by entity.
-/

namespace Stagecraft

/-- Slots by the number of the entity; every slot past the end is empty. -/
structure Column where
  slots : Array (Option Value)
  /-- How many slots hold a value. -/
  size : Nat
deriving Inhabited

namespace Column

def empty : Column := ⟨#[], 0⟩

def get? (column : Column) (entity : Entity) : Option Value := column.slots[entity.id]?.join

def extend (slots : Array (Option Value)) (entity : Entity) : Array (Option Value) :=
  slots ++ Array.replicate (entity.id + 1 - slots.size) none

def recount (size : Nat) (previous content : Option Value) : Nat :=
  match previous, content with
  | none, some _ => size + 1
  | some _, none => size - 1
  | _, _ => size

/-- Replace what an entity has. Slots are added only for a value. -/
def set (column : Column) (entity : Entity) (content : Option Value) : Column :=
  if column.slots.size ≤ entity.id ∧ content.isNone then column
  else
    ⟨(extend column.slots entity).setIfInBounds entity.id content,
      recount column.size (column.get? entity) content⟩

def entities (column : Column) : List Entity :=
  ((List.range column.slots.size).map Entity.mk).filter (fun entity => (column.get? entity).isSome)

theorem get?_empty (entity : Entity) : empty.get? entity = none := by
  simp [empty, get?]

theorem size_extend (slots : Array (Option Value)) (entity : Entity) :
    (extend slots entity).size = max slots.size (entity.id + 1) := by
  simp only [extend, Array.size_append, Array.size_replicate]
  omega

/-- Slots that are added are empty, as those past the end were before. -/
theorem getElem?_extend (slots : Array (Option Value)) (entity : Entity) (i : Nat) :
    (extend slots entity)[i]?.join = slots[i]?.join := by
  rw [extend, Array.getElem?_append]
  split
  next => rfl
  next past =>
    rw [Array.getElem?_eq_none (Nat.le_of_not_lt past), Array.getElem?_replicate]
    split <;> rfl

theorem get?_set (column : Column) (entity other : Entity) (content : Option Value) :
    (column.set entity content).get? other = if entity = other then content else column.get? other := by
  obtain ⟨i⟩ := entity
  obtain ⟨j⟩ := other
  simp only [set, Entity.mk.injEq]
  split
  next absent =>
    split
    next same =>
      subst same
      have nothing : content = none := Option.isNone_iff_eq_none.mp absent.2
      rw [nothing, get?, Array.getElem?_eq_none absent.1]
      rfl
    next => rfl
  next =>
    simp only [get?]
    rw [Array.getElem?_setIfInBounds, size_extend]
    split
    next same =>
      subst same
      rw [if_pos (Nat.lt_of_lt_of_le (Nat.lt_succ_self i) (Nat.le_max_right _ _))]
      rfl
    next => exact getElem?_extend _ _ _

end Column

end Stagecraft
