/-!
Queues: what comes first goes first. The later part is kept in reverse, so that adding costs no more
than what is added.
-/

namespace Stagecraft

structure Queue (α : Type) where
  front : List α
  back : List α
deriving Inhabited

namespace Queue

variable {α σ : Type}

def toList (queue : Queue α) : List α := queue.front ++ queue.back.reverse

def isEmpty (queue : Queue α) : Bool := queue.front.isEmpty && queue.back.isEmpty

def singleton (member : α) : Queue α := ⟨[member], []⟩

def append (queue : Queue α) (members : List α) : Queue α :=
  ⟨queue.front, members.reverse ++ queue.back⟩

/-- Pass over members from the front, as long as `pass` yields a next state. -/
def passList (pass : σ → α → Option σ) : σ → List α → σ × List α
  | state, [] => (state, [])
  | state, member :: rest =>
    match pass state member with
    | some next => passList pass next rest
    | none => (state, member :: rest)

/-- Pass over members as long as `pass` yields a next state, and take the first other one. -/
def next? (pass : σ → α → Option σ) (state : σ) (queue : Queue α) : σ × Option (α × Queue α) :=
  match passList pass state queue.front with
  | (state, member :: rest) => (state, some (member, ⟨rest, queue.back⟩))
  | (state, []) =>
    match passList pass state queue.back.reverse with
    | (state, member :: rest) => (state, some (member, ⟨rest, []⟩))
    | (state, []) => (state, none)

theorem isEmpty_iff (queue : Queue α) : queue.isEmpty = true ↔ queue.toList = [] := by
  simp [isEmpty, toList]

theorem toList_append (queue : Queue α) (members : List α) :
    (queue.append members).toList = queue.toList ++ members := by
  simp [append, toList]

theorem passList_append (pass : σ → α → Option σ) (state : σ) (first second : List α) :
    passList pass state (first ++ second) =
      match passList pass state first with
      | (later, member :: rest) => (later, member :: rest ++ second)
      | (later, []) => passList pass later second := by
  induction first generalizing state with
  | nil => rfl
  | cons member rest ih =>
    simp only [List.cons_append, passList]
    split
    · exact ih _
    · rfl

theorem next?_toList (pass : σ → α → Option σ) (state : σ) (queue : Queue α) :
    ((queue.next? pass state).1,
      match (queue.next? pass state).2 with
      | some (member, rest) => member :: rest.toList
      | none => []) = passList pass state queue.toList := by
  simp only [toList, next?]
  rw [passList_append]
  split
  · rfl
  · split <;> simp_all

theorem passList_keeps {holds : σ → Prop} {pass : σ → α → Option σ}
    (step : ∀ state member next, holds state → pass state member = some next → holds next)
    (members : List α) {state : σ} (before : holds state) : holds (passList pass state members).1 := by
  induction members generalizing state with
  | nil => exact before
  | cons member rest ih =>
    unfold passList
    split
    · next passed => exact ih (step _ _ _ before passed)
    · exact before

theorem next?_keeps {holds : σ → Prop} {pass : σ → α → Option σ}
    (step : ∀ state member next, holds state → pass state member = some next → holds next)
    (queue : Queue α) {state : σ} (before : holds state) : holds (queue.next? pass state).1 := by
  have same := congrArg Prod.fst (next?_toList pass state queue)
  rw [show (queue.next? pass state).1 = _ from same]
  exact passList_keeps step queue.toList before

end Queue

end Stagecraft
