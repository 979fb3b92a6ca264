import Stagecraft.Operation

/-!
Attempts: operations that may break. An operation breaks where it reaches for a place that is not there, or
counts below zero; there is neither an answer nor a state then.
-/

namespace Stagecraft

/-- Play calls one after the other, whatever becomes of each, and keep their answers. -/
def Operation.playAll {σ κ α : Type} (play : κ → Operation σ α) :
    List κ → σ → List (Except Fault α) × σ
  | [], state => ([], state)
  | call :: calls, state =>
    let (answer, next) := play call state
    let (answers, last) := playAll play calls next
    (answer :: answers, last)

/-- A replacement that is refused leaves the state as it was. -/
theorem Operation.replace_refused {σ α : Type} {step : σ → Except Fault (α × σ)} {state : σ}
    {fault : Fault} (refused : (replace step state).1 = .error fault) : (replace step state).2 = state := by
  unfold replace at refused ⊢
  cases stepped : step state with
  | ok result =>
    rw [stepped] at refused
    cases refused
  | error reason => rfl

/-- A step on a state, with a result or a refusal unless it breaks. -/
abbrev Attempt (σ α : Type) : Type := ExceptT Fault (StateT σ Option) α

namespace Attempt

variable {σ τ κ α β : Type}

def within (part : σ → τ) (rebuild : τ → σ → σ) (attempt : Attempt τ α) : Attempt σ α := fun state =>
  (attempt (part state)).map fun (result, next) => (result, rebuild next state)

def onPlace (index : Nat) (attempt : Attempt τ α) : Attempt (Array τ) α := fun places =>
  if inside : index < places.size then
    (attempt places[index]).map fun (result, next) => (result, places.set index next inside)
  else none

def onEach (attempt : Attempt τ Unit) : Attempt (List τ) Unit
  | [] => some (.ok (), [])
  | place :: places => do
    match ← attempt place with
    | (.error fault, place) => some (.error fault, place :: places)
    | (.ok (), place) => (onEach attempt places).map fun (result, places) => (result, place :: places)

def countDown : Attempt Nat Unit
  | 0 => none
  | count + 1 => some (.ok (), count)

def playAll (play : κ → Attempt σ α) : List κ → σ → Option (List (Except Fault α) × σ)
  | [], state => some ([], state)
  | call :: calls, state => do
    let (answer, next) ← play call state
    let (answers, last) ← playAll play calls next
    return (answer :: answers, last)

/-! ### Attempts at work -/

theorem bind_apply (attempt : Attempt σ α) (next : α → Attempt σ β) (state : σ) :
    (attempt >>= next) state = (attempt state).bind fun
      | (.ok result, later) => next result later
      | (.error fault, later) => some (.error fault, later) := by
  change (attempt state).bind (fun outcome => ExceptT.bindCont next outcome.1 outcome.2) = _
  congr 1
  funext ⟨outcome, later⟩
  cases outcome <;> rfl

theorem bind_ok {attempt : Attempt σ α} {state later : σ} {result : α}
    (done : attempt state = some (.ok result, later)) (next : α → Attempt σ β) :
    (attempt >>= next) state = next result later := by
  rw [bind_apply, done]
  rfl

theorem bind_error {attempt : Attempt σ α} {state later : σ} {fault : Fault}
    (refused : attempt state = some (.error fault, later)) (next : α → Attempt σ β) :
    (attempt >>= next) state = some (.error fault, later) := by
  rw [bind_apply, refused]
  rfl

theorem bind_get (next : σ → Attempt σ β) (state : σ) : (get >>= next) state = next state state := rfl

theorem bind_modify (change : σ → σ) (next : PUnit → Attempt σ β) (state : σ) :
    (modify change >>= next) state = next ⟨⟩ (change state) := rfl

theorem bind_pure_eq {attempt : Attempt σ α} {step : σ → Except Fault (α × σ)} {form : α → β}
    {other : σ → Except Fault (β × σ)} {state : σ}
    (done : attempt state = some (Operation.replace step state))
    (formed : other state = (step state).map fun (result, next) => (form result, next)) :
    (attempt >>= fun result => pure (form result)) state = some (Operation.replace other state) := by
  unfold Operation.replace at done ⊢
  rw [formed]
  cases stepped : step state with
  | error fault =>
    rw [stepped] at done
    exact bind_error done _
  | ok result =>
    rw [stepped] at done
    exact bind_ok done _

theorem within_eq {part : σ → τ} {rebuild : τ → σ → σ} {attempt : Attempt τ α} {state : σ}
    {result : Except Fault α} {next : τ} (done : attempt (part state) = some (result, next)) :
    within part rebuild attempt state = some (result, rebuild next state) := by
  rw [within, done]
  rfl

theorem onPlace_eq {attempt : Attempt τ α} {places : Array τ} {index : Nat} {result : Except Fault α}
    {next : τ} (inside : index < places.size) (done : attempt places[index] = some (result, next)) :
    onPlace index attempt places = some (result, places.set index next) := by
  rw [onPlace, dif_pos inside, done]
  rfl

theorem onEach_eq {attempt : Attempt τ Unit} {change : τ → τ} {places : List τ}
    (done : ∀ place ∈ places, attempt place = some (.ok (), change place)) :
    onEach attempt places = some (.ok (), places.map change) := by
  induction places with
  | nil => rfl
  | cons place places ih =>
    have first := done place List.mem_cons_self
    have others := ih fun other member => done other (List.mem_cons_of_mem place member)
    simp only [onEach, first, others, Option.bind_eq_bind, Option.bind_some, Option.map_some, List.map_cons]

theorem countDown_eq {count : Nat} (positive : 0 < count) : countDown count = some (.ok (), count - 1) := by
  cases count with
  | zero => exact absurd positive (Nat.lt_irrefl 0)
  | succ count => rfl

/-! ### Runs in step -/

/-- Attempts that keep in step with operations on another state never break, and get the same answers. -/
theorem playAll_inStep {play : κ → Attempt σ α} {other : κ → Operation τ α} {related : σ → τ → Prop}
    (inStep : ∀ call state image, related state image →
      ∃ next, play call state = some ((other call image).1, next) ∧ related next (other call image).2)
    (calls : List κ) {state : σ} {image : τ} (begun : related state image) :
    ∃ last, playAll play calls state = some ((Operation.playAll other calls image).1, last) ∧
      related last (Operation.playAll other calls image).2 := by
  induction calls generalizing state image with
  | nil => exact ⟨state, rfl, begun⟩
  | cons call calls ih =>
    obtain ⟨next, played, kept⟩ := inStep call state image begun
    obtain ⟨last, rest, ended⟩ := ih kept
    refine ⟨last, ?_, ended⟩
    simp only [playAll, played, rest, Option.bind_eq_bind, Option.bind_some]
    rfl

end Attempt

theorem Operation.playAll_inStep {σ τ κ α : Type} {play : κ → Operation σ α}
    {other : κ → Operation τ α} {related : σ → τ → Prop}
    (inStep : ∀ call state image, related state image →
      (play call state).1 = (other call image).1 ∧ related (play call state).2 (other call image).2)
    (calls : List κ) {state : σ} {image : τ} (begun : related state image) :
    (playAll play calls state).1 = (playAll other calls image).1 ∧
      related (playAll play calls state).2 (playAll other calls image).2 := by
  induction calls generalizing state image with
  | nil => exact ⟨rfl, begun⟩
  | cons call calls ih =>
    obtain ⟨answered, kept⟩ := inStep call state image begun
    obtain ⟨answers, ended⟩ := ih kept
    refine ⟨?_, ended⟩
    change (play call state).1 :: _ = (other call image).1 :: _
    rw [answered, answers]

end Stagecraft
