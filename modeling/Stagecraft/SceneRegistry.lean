import Stagecraft.Scene

/-!
The scenes that a host keeps. They go by numbers, which are given out in turn, and one of the scenes may be
the current one.
-/

namespace Stagecraft

/-- Scenes by ascending number. `next` is the number that is given out next. -/
structure SceneRegistry where
  scenes : List (Nat × Scene)
  next : Nat
  current : Option Nat
deriving Inhabited

namespace SceneRegistry

def empty : SceneRegistry := ⟨[], 0, none⟩

/-- How many numbers there are: as many as words of 32 bits. Past the last one they begin anew. -/
def numbers : Nat := 4294967296

def insertScene (number : Nat) (scene : Scene) : List (Nat × Scene) → List (Nat × Scene)
  | [] => [(number, scene)]
  | (other, kept) :: rest =>
    if number < other then (number, scene) :: (other, kept) :: rest
    else if number = other then (other, scene) :: rest
    else (other, kept) :: insertScene number scene rest

def scene? (registry : SceneRegistry) (id : Nat) : Option Scene := registry.scenes.lookup id

protected def get (registry : SceneRegistry) (id : Nat) : Except Fault Scene :=
  match registry.scene? id with
  | some scene => .ok scene
  | none => .error (.unknownScene id)

def currentScene? (registry : SceneRegistry) : Option Scene := registry.current.bind registry.scene?

def find? (registry : SceneRegistry) (name : String) : Option Nat :=
  (registry.scenes.find? (fun entry => entry.2.name == name)).map Prod.fst

def size (registry : SceneRegistry) : Nat := registry.scenes.length

/-- Keep a scene. It becomes the current one if there is none. -/
def add (scene : Scene) : Operation SceneRegistry Nat := do
  let id := (← get).next
  modify fun registry => { registry with next := (registry.next + 1) % numbers }
  modify fun registry => { registry with scenes := insertScene id scene registry.scenes }
  modify fun registry => { registry with current := registry.current.or (some id) }
  return id

def without (registry : SceneRegistry) (id : Nat) : SceneRegistry :=
  { registry with scenes := registry.scenes.filter (fun entry => entry.1 != id) }

/-- Give a scene away. If it was the current one, there is none then. -/
def remove (id : Nat) : Operation SceneRegistry Scene := do
  let found := (← get).scene? id
  modify (·.without id)
  match found with
  | none => throw (.unknownScene id)
  | some scene =>
    modify fun registry => { registry with current := registry.current.filter (· != id) }
    return scene

def setCurrent (id : Nat) : Operation SceneRegistry Unit := do
  unless ((← get).scene? id).isSome do throw (.unknownScene id)
  modify fun registry => { registry with current := some id }

def alter (registry : SceneRegistry) (id : Nat) (change : Scene → Scene) : SceneRegistry :=
  { registry with
    scenes := registry.scenes.map (fun entry => if entry.1 == id then (id, change entry.2) else entry) }

def edit (id : Nat) (change : Scene → Scene) : Operation SceneRegistry Unit := do
  let _ ← (← get).get id
  modify (·.alter id change)

def editCurrent (change : Scene → Scene) : Operation SceneRegistry Bool := do
  let registry ← get
  match registry.current with
  | none => return false
  | some id =>
    modify (·.alter id change)
    return (registry.scene? id).isSome

inductive Call where
  | add (scene : Scene)
  | remove (id : Nat)
  | setCurrent (id : Nat)
  | edit (id : Nat) (change : Scene → Scene)
  | editCurrent (change : Scene → Scene)

inductive Answer where
  | added (id : Nat)
  | removed (scene : Scene)
  | done
  /-- There is no current scene. -/
  | nothing

def play : Call → Operation SceneRegistry Answer
  | .add scene => do return .added (← add scene)
  | .remove id => do return .removed (← remove id)
  | .setCurrent id => do
    setCurrent id
    return .done
  | .edit id change => do
    edit id change
    return .done
  | .editCurrent change => do
    if ← editCurrent change then return .done else return .nothing

end SceneRegistry

end Stagecraft
