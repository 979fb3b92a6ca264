import Stagecraft.Fault
import Stagecraft.Signature

/-!
Rosters: which entities are alive, and what components they own. Numbers that were given back are
given out before fresh ones, the least of them first.
-/

namespace Stagecraft

structure Roster where
  capacity : Nat
  /-- The numbers that were given back and wait to be given out again, in ascending order. -/
  free : List Nat
  /-- The least number that was never given out. -/
  fresh : Nat
  /-- A signature for every number given out; an entity without a signature is not alive. -/
  slots : Array (Option Signature)
  /-- How many entities are alive. -/
  size : Nat
deriving Inhabited

namespace Roster

def defaultCapacity : Nat := 5000

def empty (capacity : Nat) : Roster := ⟨capacity, [], 0, #[], 0⟩

def signature? (roster : Roster) (entity : Entity) : Option Signature :=
  roster.slots[entity.id]?.join

def isAlive (roster : Roster) (entity : Entity) : Bool := (roster.signature? entity).isSome

def signature (roster : Roster) (entity : Entity) : Except Fault Signature :=
  if roster.capacity ≤ entity.id then .error (.entityOutOfRange entity)
  else match roster.signature? entity with
    | some signature => .ok signature
    | none => .error (.entityNotAlive entity)

def checkAlive (roster : Roster) (entity : Entity) : Except Fault Unit := do
  let _ ← roster.signature entity

def insertNumber (number : Nat) : List Nat → List Nat
  | [] => [number]
  | other :: rest =>
    if number < other then number :: other :: rest
    else if number = other then other :: rest
    else other :: insertNumber number rest

def take (roster : Roster) : Except Fault (Nat × Roster) :=
  match roster.free with
  | number :: free => .ok (number, { roster with free := free })
  | [] =>
    if roster.fresh < roster.capacity then
      .ok (roster.fresh,
        { roster with fresh := roster.fresh + 1, slots := roster.slots.push none })
    else .error .tooManyEntities

def create (roster : Roster) : Except Fault (Entity × Roster) := do
  let (number, roster) ← roster.take
  return (⟨number⟩, { roster with
    slots := roster.slots.setIfInBounds number (some .empty)
    size := roster.size + 1 })

def destroy (roster : Roster) (entity : Entity) : Except Fault Roster := do
  roster.checkAlive entity
  return { roster with
    free := insertNumber entity.id roster.free
    slots := roster.slots.setIfInBounds entity.id none
    size := roster.size - 1 }

def setSignature (roster : Roster) (entity : Entity) (signature : Signature) :
    Except Fault Roster := do
  roster.checkAlive entity
  return { roster with slots := roster.slots.setIfInBounds entity.id (some signature) }

def entities (roster : Roster) : List Entity :=
  ((List.range roster.slots.size).map Entity.mk).filter roster.isAlive

theorem mem_entities (roster : Roster) (entity : Entity) :
    entity ∈ roster.entities ↔ roster.isAlive entity = true := by
  obtain ⟨id⟩ := entity
  simp only [entities, List.mem_filter, List.mem_map, List.mem_range, Entity.mk.injEq,
    exists_eq_right, and_iff_right_iff_imp]
  intro alive
  by_cases inside : id < roster.slots.size
  · exact inside
  · simp [isAlive, signature?, Array.getElem?_eq_none (Nat.le_of_not_lt inside)] at alive

end Roster

end Stagecraft
