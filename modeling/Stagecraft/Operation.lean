import Stagecraft.Fault

/-!
Operations: what may be refused half-way. What an operation did before the refusal stays done.
-/

namespace Stagecraft

abbrev Operation (σ α : Type) : Type := ExceptT Fault (StateM σ) α

namespace Operation

variable {σ τ α : Type}

def replace (step : σ → Except Fault (α × σ)) : Operation σ α := fun state =>
  match step state with
  | .ok (result, next) => (.ok result, next)
  | .error fault => (.error fault, state)

def within (part : σ → τ) (rebuild : τ → σ → σ) (operation : Operation τ α) : Operation σ α :=
  fun state =>
    let (result, next) := operation (part state)
    (result, rebuild next state)

def times (operation : Operation σ α) : (count : Nat) → σ → Nat × Option Fault × σ
  | 0, state => (0, none, state)
  | count + 1, state =>
    match operation state with
    | (.error fault, state) => (0, some fault, state)
    | (.ok _, state) =>
      match times operation count state with
      | (done, refusal, state) => (done + 1, refusal, state)

end Operation

end Stagecraft
