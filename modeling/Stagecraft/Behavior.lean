import Stagecraft.View

/-!
Behaviors: what systems do. A behavior asks its view one request after the other, each of which may
depend on the answers before it, and ends with a result or a failure. Nothing but the answers reaches
it, and nothing but the requests leaves it.
-/

namespace Stagecraft

inductive Output where
  /-- A line that was printed. -/
  | printed (line : String)
  /-- A remark on what happened. -/
  | noted (remark : String)
deriving DecidableEq, Repr

inductive Request where
  | components
  | componentId (name : String)
  | componentName (id : ComponentId)
  | matching (ids : List ComponentId)
  | value (entity : Entity) (id : ComponentId)
  | write (entity : Entity) (id : ComponentId) (value : Value)
  | output (line : Output)
  /-- Leave to execute one more step. It is always granted, and marks the step for an observer. -/
  | step
deriving DecidableEq

def Request.Answer : Request → Type
  | components => List ComponentId
  | componentId _ => Option ComponentId
  | componentName _ => Option String
  | matching _ => List Entity
  | value _ _ => Option Value
  | write _ _ _ => Except Fault Unit
  | output _ => Unit
  | step => Unit

/-- A finite interaction with failures in `ε` and results in `α`. -/
inductive Behavior (ε α : Type) : Type where
  | done (result : α)
  | fail (reason : ε)
  | ask (request : Request) (next : request.Answer → Behavior ε α)

namespace Behavior

variable {ε δ α β : Type}

def bind : Behavior ε α → (α → Behavior ε β) → Behavior ε β
  | done result, next => next result
  | fail reason, _ => fail reason
  | ask request rest, next => ask request (fun answer => bind (rest answer) next)

instance : Monad (Behavior ε) where
  pure := done
  bind := bind

def mapReason (change : ε → δ) : Behavior ε α → Behavior δ α
  | done result => done result
  | fail reason => fail (change reason)
  | ask request rest => ask request (fun answer => mapReason change (rest answer))

def components : Behavior ε (List ComponentId) := ask .components done

def componentId (name : String) : Behavior ε (Option ComponentId) := ask (.componentId name) done

def componentName (id : ComponentId) : Behavior ε (Option String) := ask (.componentName id) done

def matching (ids : List ComponentId) : Behavior ε (List Entity) := ask (.matching ids) done

def value (entity : Entity) (id : ComponentId) : Behavior ε (Option Value) :=
  ask (.value entity id) done

def write (entity : Entity) (id : ComponentId) (value : Value) : Behavior ε (Except Fault Unit) :=
  ask (.write entity id value) done

def output (line : Output) : Behavior ε Unit := ask (.output line) done

def step : Behavior ε Unit := ask .step done

def ofExcept : Except ε α → Behavior ε α
  | .ok result => done result
  | .error reason => fail reason

end Behavior

/-- What a behavior acts on: its view, and what it left for the host so far. -/
structure Situation where
  view : View
  output : Array Output
deriving Inhabited

namespace Situation

def answer : Situation → (request : Request) → request.Answer × Situation
  | situation, .components => (situation.view.components, situation)
  | situation, .componentId name => (situation.view.componentId? name, situation)
  | situation, .componentName id => (situation.view.componentName? id, situation)
  | situation, .matching ids => (situation.view.matching ids, situation)
  | situation, .value entity id => (situation.view.get? entity id, situation)
  | ⟨view, output⟩, .write entity id value =>
    let (written, view) := view.set entity id value
    (written, ⟨view, output⟩)
  | ⟨view, output⟩, .output line => ((), ⟨view, output.push line⟩)
  | situation, .step => ((), situation)

end Situation

namespace Behavior

variable {ε α β : Type}

def run : Behavior ε α → Situation → Except ε α × Situation
  | done result, situation => (.ok result, situation)
  | fail reason, situation => (.error reason, situation)
  | ask request next, situation =>
    let (answer, later) := situation.answer request
    run (next answer) later

theorem bind_assoc {γ : Type} (behavior : Behavior ε α) (f : α → Behavior ε β)
    (g : β → Behavior ε γ) : (behavior.bind f).bind g = behavior.bind (fun a => (f a).bind g) := by
  induction behavior with
  | done => rfl
  | fail => rfl
  | ask request next ih => simp only [bind, ih]

theorem bind_done (behavior : Behavior ε α) : behavior.bind done = behavior := by
  induction behavior with
  | done => rfl
  | fail => rfl
  | ask request next ih => simp only [bind, ih]

instance : LawfulMonad (Behavior ε) :=
  LawfulMonad.mk' (Behavior ε) (fun behavior => bind_done behavior) (fun _ _ => rfl)
    (fun behavior f g => bind_assoc behavior f g)

theorem run_bind (behavior : Behavior ε α) (f : α → Behavior ε β) (situation : Situation) :
    (behavior.bind f).run situation =
      match behavior.run situation with
      | (.ok result, later) => (f result).run later
      | (.error reason, later) => (.error reason, later) := by
  induction behavior generalizing situation with
  | done => rfl
  | fail => rfl
  | ask request next ih => simp only [bind, run, ih]

theorem run_bind_ok {behavior : Behavior ε α} {next : α → Behavior ε β} {situation middle : Situation}
    {result : α} (ran : behavior.run situation = (.ok result, middle)) :
    (behavior >>= next).run situation = (next result).run middle := by
  change (behavior.bind next).run situation = _
  rw [run_bind, ran]

theorem run_bind_inv {behavior : Behavior ε α} {next : α → Behavior ε β} {situation later : Situation}
    {result : β} (ran : (behavior >>= next).run situation = (.ok result, later)) :
    ∃ value middle, behavior.run situation = (.ok value, middle) ∧
      (next value).run middle = (.ok result, later) := by
  change (behavior.bind next).run situation = _ at ran
  rw [run_bind] at ran
  split at ran
  · next value middle first => exact ⟨value, middle, first, ran⟩
  · cases ran

end Behavior

end Stagecraft
