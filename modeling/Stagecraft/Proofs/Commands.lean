import Stagecraft.Scene.Dispatch
import Stagecraft.Scene.Snapshot
import Stagecraft.Proofs.Steps

/-!
Commands: everything that a host may ask of a scene, with what comes back of a refusal. The scenes that
a host can have are those after any commands to a new one, the refused ones included.
-/

namespace Stagecraft

inductive Command where
  | configure (limits : Limits)
  | create
  | createNamed (name : String)
  | destroy (entity : Entity)
  | register (component : Component)
  | add (entity : Entity) (id : ComponentId) (value : Value)
  | insert (entity : Entity) (component : Component) (value : Value)
  | remove (entity : Entity) (id : ComponentId)
  | enroll (name : String) (catalog : Catalog)
  | load (snapshot : Snapshot) (components : Registry Component)
  | dispatch (events : Registry Contract) (event : Event)

def Operation.refusal? {σ α : Type} (operation : Operation σ α) (state : σ) :
    Option Fault × σ :=
  match operation state with
  | (.ok _, later) => (none, later)
  | (.error fault, later) => (some fault, later)

/-- The refusal of a dispatch, which is that of the sent event, and the scene afterwards. A dispatch that
is cut short is not refused. -/
def Outcome.refusal? (outcome : Outcome) : Option Fault × Scene :=
  match outcome.result with
  | .error (.rejected fault) => (some fault, outcome.scene)
  | _ => (none, outcome.scene)

namespace Command

def perform : Command → Scene → Option Fault × Scene
  | configure limits, scene => (none, { scene with limits := limits })
  | create, scene => Scene.create.refusal? scene
  | createNamed name, scene => (Scene.createNamed name).refusal? scene
  | destroy entity, scene => (Scene.destroy entity).refusal? scene
  | register component, scene => (Scene.register component).refusal? scene
  | add entity id value, scene => (Scene.add entity id value).refusal? scene
  | insert entity component value, scene => (Scene.insert entity component value).refusal? scene
  | remove entity id, scene => (Scene.remove entity id).refusal? scene
  | enroll name catalog, scene => (Scene.enroll name catalog).refusal? scene
  | load snapshot components, scene => (Scene.load snapshot components).refusal? scene
  | dispatch events event, scene => (scene.dispatch events event).refusal?

end Command

/-- The scene after some commands, one after the other, whether they are refused or not. -/
def Scene.after (scene : Scene) (commands : List Command) : Scene :=
  commands.foldl (fun scene command => (command.perform scene).2) scene

theorem Operation.refusal?_snd {σ α : Type} (operation : Operation σ α) (state : σ) :
    (operation.refusal? state).2 = (operation state).2 := by
  unfold refusal?
  split
  · next ran => rw [ran]
  · next ran => rw [ran]

theorem Operation.eq_of_refusal? {σ α : Type} {operation : Operation σ α} {state : σ}
    {fault : Fault} (refused : (operation.refusal? state).1 = some fault) :
    operation state = (.error fault, (operation.refusal? state).2) := by
  unfold refusal? at refused ⊢
  split at refused
  · cases refused
  · next ran =>
    cases refused
    rw [ran]

theorem Operation.exists_of_not_refusal? {σ α : Type} {operation : Operation σ α} {state : σ}
    (accepted : (operation.refusal? state).1 = none) :
    ∃ result, operation state = (.ok result, (operation.refusal? state).2) := by
  unfold refusal? at accepted ⊢
  split at accepted
  · next result later ran =>
    rw [ran]
    exact ⟨result, rfl⟩
  · cases accepted

theorem Operation.refusal?_of_ok {σ α : Type} {operation : Operation σ α} {state later : σ}
    {result : α} (ran : operation state = (.ok result, later)) :
    operation.refusal? state = (none, later) := by
  rw [refusal?, ran]

theorem Operation.Keeps.refusal? {σ α : Type} {holds : σ → Prop} {operation : Operation σ α}
    (keeps : operation.Keeps holds) {state : σ} (before : holds state) :
    holds (operation.refusal? state).2 := by
  rw [refusal?_snd]
  exact keeps state before

theorem Outcome.refusal?_snd (outcome : Outcome) : outcome.refusal?.2 = outcome.scene := by
  unfold refusal?
  split <;> rfl

def Scene.Accepts (scene : Scene) : List Command → Prop
  | [] => True
  | command :: rest => (command.perform scene).1 = none ∧ Accepts (command.perform scene).2 rest

theorem Scene.after_cons (scene : Scene) (command : Command) (rest : List Command) :
    scene.after (command :: rest) = (command.perform scene).2.after rest := rfl

theorem Scene.after_append (scene : Scene) (first second : List Command) :
    scene.after (first ++ second) = (scene.after first).after second :=
  List.foldl_append

theorem Scene.accepts_append {scene : Scene} {first second : List Command} :
    scene.Accepts (first ++ second) ↔ scene.Accepts first ∧ (scene.after first).Accepts second := by
  induction first generalizing scene with
  | nil => exact (and_iff_right trivial).symm
  | cons command rest ih => rw [List.cons_append, Accepts, Accepts, ih, and_assoc]; rfl

/-- What holds of a new scene, and after each command to a scene of which it holds, holds of every scene
that a host can have. -/
theorem Scene.after_induction {holds : Scene → Prop} {scene : Scene} (before : holds scene)
    (step : ∀ (scene : Scene) (command : Command), holds scene → holds (command.perform scene).2)
    (commands : List Command) : holds (scene.after commands) := by
  induction commands generalizing scene with
  | nil => exact before
  | cons command rest ih => exact ih (step scene command before)

end Stagecraft
