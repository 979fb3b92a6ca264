import Stagecraft.Attempt
import Stagecraft.Store

/-!
Stores in place: a ledger keeps the components of a scene, the numbers of their names and their columns apart,
and changes each of them where it is. What was changed before a refusal stays changed.
-/

namespace Stagecraft

namespace Store

inductive Call where
  | register (component : Component)
  | add (entity : Entity) (id : ComponentId) (value : Value)
  | set (entity : Entity) (id : ComponentId) (value : Value)
  | remove (entity : Entity) (id : ComponentId)
  | drop (entity : Entity)

inductive Answer where
  | registered (id : ComponentId)
  | done
  | taken (content : Option Value)

def play : Call → Operation Store Answer
  | .register component => .replace fun store => do
    let (id, store) ← store.register component
    return (.registered id, store)
  | .add entity id value => (fun _ => .done) <$> add entity id value
  | .set entity id value => fun store =>
    let (result, store) := store.set entity id value
    (result.map fun _ => .done, store)
  | .remove entity id => .replace fun store => do
    let (content, store) ← store.remove entity id
    return (.taken content, store)
  | .drop entity => fun store => (.ok .done, store.drop entity)

end Store

namespace Column.InPlace

def recount (previous content : Option Value) : Attempt Nat Unit :=
  match previous, content with
  | none, some _ => modify (· + 1)
  | some _, none => .countDown
  | _, _ => return ()

def swap (entity : Entity) (content : Option Value) : Attempt Column (Option Value) := do
  let previous ← .within slots (fun slots column => { column with slots := slots })
    (.onPlace entity.id (modifyGet fun previous => (previous, content)))
  .within size (fun size column => { column with size := size }) (recount previous content)
  return previous

def set (entity : Entity) (content : Option Value) : Attempt Column (Option Value) := do
  let column ← get
  if column.slots.size ≤ entity.id then
    if content.isNone then return none
    else do
      modify fun column => { column with slots := extend column.slots entity }
      swap entity content
  else swap entity content

end Column.InPlace

structure Shelf where
  component : Component
  column : Column

namespace Shelf

def set (entity : Entity) (content : Option Value) : Attempt Shelf (Option Value) := do
  let shelf ← get
  match content with
  | some value => shelf.component.accept value
  | none => pure ()
  .within column (fun column shelf => { shelf with column := column }) (Column.InPlace.set entity content)

def clear (entity : Entity) : Attempt (Option Shelf) (Option Value)
  | none => some (.ok none, none)
  | some shelf => (set entity none shelf).map fun (result, shelf) => (result, some shelf)

end Shelf

/-- Components in the order of their registration, a shelf for each once it was opened, and the kinds by the
names of their components. -/
structure Ledger where
  components : Array Component
  shelves : Array (Option Shelf)
  byName : List (String × ComponentId)

namespace Ledger

def empty : Ledger := ⟨#[], #[], []⟩

def componentId? (ledger : Ledger) (name : String) : Option ComponentId := ledger.byName.lookup name

def shelf? (ledger : Ledger) (id : ComponentId) : Option Shelf := ledger.shelves[id.index]?.join

def get? (ledger : Ledger) (entity : Entity) (id : ComponentId) : Option Value :=
  (ledger.shelf? id).bind fun shelf => shelf.column.get? entity

def ids (ledger : Ledger) : List ComponentId := (List.range ledger.components.size).map ComponentId.mk

def valuesOf (ledger : Ledger) (entity : Entity) : List (ComponentId × Value) :=
  ledger.ids.filterMap fun id => (ledger.get? entity id).map fun value => (id, value)

def component (id : ComponentId) : Attempt Ledger Component := do
  match (← get).components[id.index]? with
  | some component => return component
  | none => throw (.unknownComponent id)

def onShelf {α : Type} (id : ComponentId) (attempt : Attempt (Option Shelf) α) : Attempt Ledger α :=
  .within shelves (fun shelves ledger => { ledger with shelves := shelves }) (.onPlace id.index attempt)

def register (component : Component) : Attempt Ledger ComponentId := do
  let ledger ← get
  match ledger.componentId? component.name with
  | some id => return id
  | none =>
    let id : ComponentId := ⟨ledger.components.size⟩
    if maxKinds ≤ ledger.components.size then throw (.tooManyComponents maxKinds)
    else do
      modify fun ledger => { ledger with byName := (component.name, id) :: ledger.byName }
      modify fun ledger => { ledger with components := ledger.components.push component }
      modify fun ledger => { ledger with shelves := ledger.shelves.push none }
      return id

def add (entity : Entity) (id : ComponentId) (value : Value) : Attempt Ledger Unit := do
  let component ← component id
  let _ ← onShelf id
    (.within (fun shelf => shelf.getD ⟨component, .empty⟩) (fun shelf _ => some shelf)
      (Shelf.set entity (some value)))

def set (entity : Entity) (id : ComponentId) (value : Value) : Attempt Ledger Unit := do
  let ledger ← get
  match ledger.get? entity id with
  | none => do
    let component ← component id
    throw (.missingComponent entity component.name)
  | some _ => add entity id value

def remove (entity : Entity) (id : ComponentId) : Attempt Ledger (Option Value) := do
  let _ ← component id
  onShelf id (Shelf.clear entity)

def drop (entity : Entity) : Attempt Ledger Unit :=
  .within (fun ledger => ledger.shelves.toList) (fun shelves ledger => { ledger with shelves := shelves.toArray })
    (.onEach do let _ ← Shelf.clear entity)

def play : Store.Call → Attempt Ledger Store.Answer
  | .register component => do return .registered (← register component)
  | .add entity id value => do
    add entity id value
    return .done
  | .set entity id value => do
    set entity id value
    return .done
  | .remove entity id => do return .taken (← remove entity id)
  | .drop entity => do
    drop entity
    return .done

end Ledger

end Stagecraft
