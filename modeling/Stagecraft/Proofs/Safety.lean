import Stagecraft.Proofs.Consistency
import Stagecraft.Script.Routine

/-!
Safety: which reasons a behavior may fail for. What a behavior does to its view keeps every value at its
place and of its schema, so a fact about the view that it began with answers every later request.
-/

namespace Stagecraft

structure View.Sound (view : View) : Prop where
  store : view.store.WellFormed
  owned : ∀ entity id, view.store.contains entity id = view.roster.owns entity id

def Store.Fits (store : Store) (id : ComponentId) (value : Value) : Prop :=
  ∀ component, store.component? id = some component → value.schema = component.schema

def View.Offers (view : View) (entity : Entity) (component : String) : Prop :=
  ∃ id ∈ view.components, view.store.componentId? component = some id ∧
    view.store.contains entity id = true

namespace View.Evolves

variable {before after : View}

theorem componentId? (evolves : before.Evolves after) (name : String) :
    after.componentId? name = before.componentId? name := by
  rw [View.componentId?, View.componentId?, evolves.rewrites.componentId?, evolves.components]

theorem matching (evolves : before.Evolves after) (ids : List ComponentId) :
    after.matching ids = before.matching ids := by
  rw [View.matching, View.matching, evolves.components, evolves.roster]

theorem sound (evolves : before.Evolves after) (sound : before.Sound) : after.Sound where
  store := evolves.wellFormed
  owned entity id := by rw [evolves.rewrites.contains, sound.owned, evolves.roster]

end View.Evolves

namespace Behavior

variable {ε α β : Type} {view : View} {permitted : ε → Prop}

/-- Begun in any view that the given one may evolve to, a behavior ends with a result as described, or
fails for a permitted reason. -/
def Safe (view : View) (permitted : ε → Prop) (post : α → Prop) (behavior : Behavior ε α) : Prop :=
  ∀ situation, view.Evolves situation.view →
    match (behavior.run situation).1 with
    | .ok result => post result
    | .error reason => permitted reason

theorem run_mapReason {δ : Type} (change : ε → δ) (behavior : Behavior ε α) (situation : Situation) :
    (behavior.mapReason change).run situation =
      ((behavior.run situation).1.mapError change, (behavior.run situation).2) := by
  induction behavior generalizing situation with
  | done => rfl
  | fail => rfl
  | ask request next ih => simp only [mapReason, run, ih]

namespace Safe

variable {post : α → Prop}

theorem pure {result : α} (satisfied : post result) :
    (Pure.pure result : Behavior ε α).Safe view permitted post :=
  fun _ _ => satisfied

theorem fail {reason : ε} (allowed : permitted reason) :
    (Behavior.fail reason : Behavior ε α).Safe view permitted post :=
  fun _ _ => allowed

theorem bind {behavior : Behavior ε α} {next : α → Behavior ε β} {middle : α → Prop}
    {final : β → Prop} (first : behavior.Safe view permitted middle)
    (second : ∀ result, middle result → (next result).Safe view permitted final) :
    (behavior >>= next).Safe view permitted final := by
  intro situation evolves
  have ended := first situation evolves
  have later := behavior.run_evolves situation evolves.wellFormed
  change match ((behavior.bind next).run situation).1 with
    | .ok result => final result
    | .error reason => permitted reason
  rw [run_bind]
  rcases ran : behavior.run situation with ⟨reason | result, after⟩
  · rw [ran] at ended
    exact ended
  · rw [ran] at ended later
    exact second result ended after (evolves.trans later)

theorem mono {behavior : Behavior ε α} {weaker : α → Prop}
    (safe : behavior.Safe view permitted post) (implied : ∀ result, post result → weaker result) :
    behavior.Safe view permitted weaker := by
  intro situation evolves
  have ended := safe situation evolves
  split at ended
  · exact implied _ ended
  · exact ended

theorem ofExcept {result : Except ε α} (succeeded : ∀ value, result = .ok value → post value)
    (failed : ∀ reason, result = .error reason → permitted reason) :
    (Behavior.ofExcept result).Safe view permitted post := by
  cases result with
  | ok value => exact pure (succeeded value rfl)
  | error reason => exact fail (failed reason rfl)

end Safe

theorem componentId_safe (name : String) :
    (componentId name : Behavior ε (Option ComponentId)).Safe view permitted
      (fun answer => answer = view.componentId? name) :=
  fun _ evolves => evolves.componentId? name

theorem matching_safe (ids : List ComponentId) :
    (matching ids : Behavior ε (List Entity)).Safe view permitted
      (fun answer => answer = view.matching ids) :=
  fun _ evolves => evolves.matching ids

theorem output_safe (line : Output) :
    (output line : Behavior ε Unit).Safe view permitted (fun _ => True) :=
  fun _ _ => trivial

theorem step_safe : (step : Behavior ε Unit).Safe view permitted (fun _ => True) :=
  fun _ _ => trivial

theorem value_safe {entity : Entity} {id : ComponentId} (inside : id ∈ view.components)
    (present : view.store.contains entity id = true) :
    (value entity id : Behavior ε (Option Value)).Safe view permitted
      (fun answer => ∃ value, answer = some value ∧ view.store.Fits id value) := by
  intro situation evolves
  rw [← evolves.rewrites.contains] at present
  obtain ⟨held, found⟩ := Option.isSome_iff_exists.mp present
  refine ⟨held, ?_, ?_⟩
  · change (if id ∈ situation.view.components then situation.view.store.get? entity id else none) =
      some held
    rw [evolves.components, if_pos inside, found]
  · intro component known
    rw [← evolves.rewrites.component?] at known
    exact evolves.wellFormed.typed id component entity held known found

theorem write_safe {entity : Entity} {id : ComponentId} {value : Value}
    (inside : id ∈ view.components) (present : view.store.contains entity id = true)
    (fits : view.store.Fits id value) :
    (write entity id value : Behavior ε (Except Fault Unit)).Safe view permitted
      (fun answer => answer = .ok ()) := by
  intro situation evolves
  rw [← evolves.rewrites.contains] at present
  obtain ⟨held, found⟩ := Option.isSome_iff_exists.mp present
  obtain ⟨component, known⟩ := Store.component?_of_get? found
  have accepted : component.accept value = .ok () := by
    rw [Component.accept_ok_iff]
    rw [evolves.rewrites.component?] at known
    exact fits component known
  rw [← evolves.components] at inside
  obtain ⟨⟨store, roster, components⟩, output⟩ := situation
  change (View.set ⟨store, roster, components⟩ entity id value).1 = .ok ()
  rw [View.set, if_pos inside, Store.set]
  dsimp only at known present
  simp only [known, present, accepted, if_true]

end Behavior

namespace Script.Run

variable {α β : Type} {view : View} {permitted : Script.Fault → Prop} {holds : Progress → Prop}

def Safe (view : View) (permitted : Script.Fault → Prop) (holds : Progress → Prop) (post : α → Prop)
    (run : Run α) : Prop :=
  ∀ progress, holds progress →
    (run progress).Safe view permitted (fun outcome => post outcome.1 ∧ holds outcome.2)

namespace Safe

theorem pure {result : α} {post : α → Prop} (satisfied : post result) :
    (Pure.pure result : Run α).Safe view permitted holds post :=
  fun _ before => Behavior.Safe.pure ⟨satisfied, before⟩

theorem bind {run : Run α} {next : α → Run β} {middle : α → Prop} {final : β → Prop}
    (first : run.Safe view permitted holds middle)
    (second : ∀ result, middle result → (next result).Safe view permitted holds final) :
    (run >>= next).Safe view permitted holds final :=
  fun progress before => Behavior.Safe.bind (first progress before)
    (fun outcome after => second outcome.1 after.1 outcome.2 after.2)

theorem fail {fault : Script.Fault} {post : α → Prop} (allowed : permitted fault) :
    (Run.fail fault : Run α).Safe view permitted holds post :=
  fun _ _ => Behavior.Safe.fail allowed

theorem lift {behavior : Behavior Script.Fault α} {post : α → Prop}
    (safe : behavior.Safe view permitted post) :
    Run.Safe view permitted holds post (liftM behavior) :=
  fun _ before => Behavior.Safe.bind safe
    (fun _ satisfied => Behavior.Safe.pure ⟨satisfied, before⟩)

theorem get : (MonadState.get : Run Progress).Safe view permitted holds holds :=
  fun _ before => Behavior.Safe.pure ⟨before, before⟩

theorem put {next : Progress} (kept : holds next) :
    (set next : Run PUnit).Safe view permitted holds (fun _ => True) :=
  fun _ _ => Behavior.Safe.pure ⟨trivial, kept⟩

theorem update {change : Progress → Progress}
    (kept : ∀ progress, holds progress → holds (change progress)) :
    (modify change : Run PUnit).Safe view permitted holds (fun _ => True) :=
  fun progress before => Behavior.Safe.pure ⟨trivial, kept progress before⟩

end Safe

end Script.Run

end Stagecraft
