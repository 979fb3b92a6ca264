import Stagecraft.Scene.Dispatch

/-!
Generations: what a sent event brings about, told without a queue. The sent event is the first
generation; the events that follow from a generation, in the order in which they are found, are the next.
The store goes from one handing of an event to a system to the next one.
-/

namespace Stagecraft

structure Handing where
  event : Event
  enrolled : Enrolled
  result : Except Failure (List Event)

namespace Handing

def succeeded (handing : Handing) : Bool := handing.result.isOk

def failures (handing : Handing) : List Failure :=
  match handing.result with
  | .ok _ => []
  | .error failure => [failure]

def followUps (handing : Handing) : List Event :=
  match handing.result with
  | .ok found => found
  | .error _ => []

end Handing

inductive Turn where
  | passed (event : Event) (fault : Fault)
  | delivered (event : Event) (handings : List Handing)

namespace Turn

def dispatched : Turn → List Event
  | passed _ _ => []
  | delivered event _ => [event]

def handings : Turn → List Handing
  | passed _ _ => []
  | delivered _ handings => handings

def failures : Turn → List Failure
  | passed _ fault => [.refused fault]
  | delivered _ handings => handings.flatMap Handing.failures

def followUps (turn : Turn) : List Event := turn.handings.flatMap Handing.followUps

end Turn

/-- The events of one generation, and the store and the output when the first of them has its turn. -/
structure Generation where
  events : List Event
  store : Store
  output : Array Output

namespace Scene

variable (scene : Scene) (events : Registry Contract)

def recipients (event : Event) : List (Event × Enrolled) :=
  (scene.systems.filter (fun enrolled => enrolled.system.listensTo event.name)).map (event, ·)

def handAll : List (Event × Enrolled) → Store → Array Output → List Handing × Store × Array Output
  | [], store, output => ([], store, output)
  | (event, enrolled) :: rest, store, output =>
    match scene.invoke enrolled event store output with
    | (result, store, output) =>
      match handAll rest store output with
      | (handings, store, output) => (⟨event, enrolled, result⟩ :: handings, store, output)

def takeTurn (event : Event) (store : Store) (output : Array Output) :
    Turn × Store × Array Output :=
  match scene.checkEvent events store event with
  | .error fault => (.passed event fault, store, output)
  | .ok () =>
    match scene.handAll (scene.recipients event) store output with
    | (handings, store, output) => (.delivered event handings, store, output)

def takeTurns : List Event → Store → Array Output → List Turn × Store × Array Output
  | [], store, output => ([], store, output)
  | event :: rest, store, output =>
    match scene.takeTurn events event store output with
    | (turn, store, output) =>
      match takeTurns rest store output with
      | (turns, store, output) => (turn :: turns, store, output)

def turnsOf (generation : Generation) : List Turn :=
  (scene.takeTurns events generation.events generation.store generation.output).1

def following (generation : Generation) : Generation :=
  match scene.takeTurns events generation.events generation.store generation.output with
  | (turns, store, output) => ⟨turns.flatMap Turn.followUps, store, output⟩

def generations (first : Generation) : Nat → Generation
  | 0 => first
  | k + 1 => scene.following events (generations first k)

def turnsIn (first : Generation) (count : Nat) : List Turn :=
  (List.range count).flatMap (fun k => scene.turnsOf events (scene.generations events first k))

def sent (event : Event) : Generation := ⟨[event], scene.store, #[]⟩

theorem handAll_append (first second : List (Event × Enrolled)) (store : Store)
    (output : Array Output) :
    scene.handAll (first ++ second) store output =
      match scene.handAll first store output with
      | (handings, store, output) =>
        match scene.handAll second store output with
        | (others, store, output) => (handings ++ others, store, output) := by
  induction first generalizing store output with
  | nil => rfl
  | cons pair rest ih =>
    obtain ⟨event, enrolled⟩ := pair
    simp only [List.cons_append, handAll, ih]

/-- Every handing is one of an event to a system that were to come together, in their order. -/
theorem handAll_pairs (pairs : List (Event × Enrolled)) (store : Store) (output : Array Output) :
    (scene.handAll pairs store output).1.map (fun handing => (handing.event, handing.enrolled)) =
      pairs := by
  induction pairs generalizing store output with
  | nil => rfl
  | cons pair rest ih =>
    obtain ⟨event, enrolled⟩ := pair
    simp only [handAll, List.map_cons, ih]

theorem generations_succ (first : Generation) (k : Nat) :
    scene.generations events first (k + 1) =
      scene.generations events (scene.following events first) k := by
  induction k with
  | zero => rfl
  | succ k ih =>
    unfold generations
    rw [ih]

theorem turnsIn_succ (first : Generation) (count : Nat) :
    scene.turnsIn events first (count + 1) =
      scene.turnsOf events first ++ scene.turnsIn events (scene.following events first) count := by
  unfold turnsIn
  rw [List.range_succ_eq_map, List.flatMap_cons, List.flatMap_map]
  simp only [generations_succ]
  rfl

/-- Once a generation is empty, so are all that come after it, and nothing changes any more. -/
theorem generations_of_empty {first : Generation} {count k : Nat} {store : Store}
    {output : Array Output} (last : scene.generations events first count = ⟨[], store, output⟩)
    (later : count ≤ k) : scene.generations events first k = ⟨[], store, output⟩ := by
  obtain ⟨more, rfl⟩ := Nat.exists_eq_add_of_le later
  induction more with
  | zero => exact last
  | succ more ih =>
    rw [← Nat.add_assoc, generations, ih (Nat.le_add_right count more)]
    rfl

theorem takeTurn_handed (event : Event) (store : Store) (output : Array Output) :
    scene.handAll ((scene.takeTurn events event store output).1.dispatched.flatMap scene.recipients)
        store output =
      ((scene.takeTurn events event store output).1.handings,
        (scene.takeTurn events event store output).2) := by
  unfold takeTurn
  split
  · rfl
  · simp only [Turn.dispatched, Turn.handings, List.flatMap_singleton]

theorem takeTurns_handed (members : List Event) (store : Store) (output : Array Output) :
    scene.handAll (((scene.takeTurns events members store output).1.flatMap Turn.dispatched).flatMap
        scene.recipients) store output =
      ((scene.takeTurns events members store output).1.flatMap Turn.handings,
        (scene.takeTurns events members store output).2) := by
  induction members generalizing store output with
  | nil => rfl
  | cons event rest ih =>
    simp only [takeTurns, List.flatMap_cons, List.flatMap_append]
    rw [handAll_append, takeTurn_handed]
    dsimp only
    rw [ih]

/-- All handings together: the events of the generations, each to its recipients, one after the
other. -/
theorem turnsIn_handed (first : Generation) (count : Nat) :
    scene.handAll (((scene.turnsIn events first count).flatMap Turn.dispatched).flatMap
        scene.recipients) first.store first.output =
      ((scene.turnsIn events first count).flatMap Turn.handings,
        (scene.generations events first count).store,
        (scene.generations events first count).output) := by
  induction count generalizing first with
  | zero => rfl
  | succ count ih =>
    rw [turnsIn_succ, List.flatMap_append, List.flatMap_append, handAll_append]
    unfold turnsOf
    rw [takeTurns_handed]
    have others := ih (scene.following events first)
    rw [generations_succ, List.flatMap_append]
    simp only [following] at others ⊢
    rw [others]

end Scene

end Stagecraft
