import Stagecraft.Attempt
import Stagecraft.Roster

/-!
Rosters in place: a scene holds a roster and changes its parts one after the other. What was changed before
a refusal stays changed.
-/

namespace Stagecraft.Roster

inductive Call where
  | create
  | destroy (entity : Entity)
  | setSignature (entity : Entity) (signature : Signature)
  | signature (entity : Entity)
deriving DecidableEq

inductive Answer where
  | created (entity : Entity)
  | done
  | owned (signature : Signature)
deriving DecidableEq

def play : Call → Operation Roster Answer
  | .create => .replace fun roster => do
    let (entity, roster) ← roster.create
    return (.created entity, roster)
  | .destroy entity => .replace fun roster => do
    let roster ← roster.destroy entity
    return (.done, roster)
  | .setSignature entity signature => .replace fun roster => do
    let roster ← roster.setSignature entity signature
    return (.done, roster)
  | .signature entity => .replace fun roster => do
    let signature ← roster.signature entity
    return (.owned signature, roster)

namespace InPlace

def onSlot {α : Type} (number : Nat) (attempt : Attempt (Option Signature) α) : Attempt Roster α :=
  .within slots (fun slots roster => { roster with slots := slots }) (.onPlace number attempt)

def take : Attempt Roster Nat := do
  let roster ← get
  match roster.free with
  | number :: free =>
    set { roster with free := free }
    return number
  | [] =>
    if roster.fresh < roster.capacity then
      set { roster with fresh := roster.fresh + 1, slots := roster.slots.push none }
      return roster.fresh
    else throw .tooManyEntities

def create : Attempt Roster Entity := do
  let number ← take
  onSlot number (set (some Signature.empty))
  modify fun roster => { roster with size := roster.size + 1 }
  return ⟨number⟩

def checkAlive (entity : Entity) : Attempt Roster Unit := do
  let roster ← get
  if roster.capacity ≤ entity.id then throw (.entityOutOfRange entity)
  unless roster.isAlive entity do throw (.entityNotAlive entity)

def destroy (entity : Entity) : Attempt Roster Unit := do
  checkAlive entity
  onSlot entity.id (set (none : Option Signature))
  modify fun roster => { roster with free := insertNumber entity.id roster.free }
  .within size (fun size roster => { roster with size := size }) .countDown

def setSignature (entity : Entity) (signature : Signature) : Attempt Roster Unit := do
  checkAlive entity
  onSlot entity.id (set (some signature))

def signature (entity : Entity) : Attempt Roster Signature := do
  checkAlive entity
  let slot ← onSlot entity.id get
  return slot.getD .empty

def play : Call → Attempt Roster Answer
  | .create => do return .created (← create)
  | .destroy entity => do
    destroy entity
    return .done
  | .setSignature entity signature => do
    setSignature entity signature
    return .done
  | .signature entity => do return .owned (← signature entity)

end InPlace

end Stagecraft.Roster
