import Stagecraft.Scene.Dispatch
import Stagecraft.Proofs.Storage

/-!
Rewriting: all that systems can do to a store. They replace values by values of the same schemas; which
components are registered, and who has a value of which, stays as it was through a whole dispatch.
-/

namespace Stagecraft

namespace Store

/-- The second store has the components of the first, and values of the same schemas at the same
places. -/
structure Rewrites (before after : Store) : Prop where
  component? : ∀ id, after.component? id = before.component? id
  schema? : ∀ entity id, after.schema? entity id = before.schema? entity id

namespace Rewrites

theorem refl (store : Store) : store.Rewrites store := ⟨fun _ => rfl, fun _ _ => rfl⟩

theorem trans {first second third : Store} (one : first.Rewrites second)
    (other : second.Rewrites third) : first.Rewrites third where
  component? id := (other.component? id).trans (one.component? id)
  schema? entity id := (other.schema? entity id).trans (one.schema? entity id)

variable {before after : Store}

theorem componentId? (rewrites : before.Rewrites after) (name : String) :
    after.componentId? name = before.componentId? name :=
  componentId?_congr rewrites.component? name

theorem contains (rewrites : before.Rewrites after) (entity : Entity) (id : ComponentId) :
    after.contains entity id = before.contains entity id := by
  have same := congrArg Option.isSome (rewrites.schema? entity id)
  simp only [Store.schema?, Option.isSome_map] at same
  exact same

end Rewrites

theorem set_rewrites {store : Store} (wellFormed : store.WellFormed) (entity : Entity)
    (id : ComponentId) (value : Value) :
    store.Rewrites (store.set entity id value).2 ∧ (store.set entity id value).2.WellFormed := by
  unfold set
  split
  · exact ⟨.refl store, wellFormed⟩
  · next component known =>
    split
    · next present =>
      split
      · next accepted =>
        have fits := (component.accept_ok_iff value).mp accepted
        refine ⟨⟨fun kind => component?_write store entity id kind (some value), ?_⟩,
          write_wellFormed wellFormed entity id _ ?_⟩
        · intro other kind
          unfold schema?
          rw [get?_write]
          split
          · next same =>
            obtain ⟨rfl, rfl⟩ := same
            obtain ⟨old, found⟩ := Option.isSome_iff_exists.mp present
            obtain ⟨column, opened, -⟩ := Option.bind_eq_some_iff.mp found
            have typed := wellFormed.typed id component entity old known found
            simp [opened, found, fits, typed]
          · rfl
        · intro written target content named
          cases content
          rw [known] at named
          cases named
          exact fits
      · exact ⟨.refl store, wellFormed⟩
    · exact ⟨.refl store, wellFormed⟩

end Store

/-- What a view may become under a behavior: the same kinds and entities over a rewritten store. -/
structure View.Evolves (before after : View) : Prop where
  roster : after.roster = before.roster
  components : after.components = before.components
  rewrites : before.store.Rewrites after.store
  wellFormed : after.store.WellFormed

namespace View.Evolves

theorem refl {view : View} (wellFormed : view.store.WellFormed) : view.Evolves view :=
  ⟨rfl, rfl, .refl _, wellFormed⟩

theorem trans {first second third : View} (one : first.Evolves second)
    (other : second.Evolves third) : first.Evolves third where
  roster := other.roster.trans one.roster
  components := other.components.trans one.components
  rewrites := one.rewrites.trans other.rewrites
  wellFormed := other.wellFormed

end View.Evolves

theorem View.set_evolves {view : View} (wellFormed : view.store.WellFormed) (entity : Entity)
    (id : ComponentId) (value : Value) : view.Evolves (view.set entity id value).2 := by
  obtain ⟨store, roster, components⟩ := view
  by_cases inside : id ∈ components
  · rw [View.set, if_pos inside]
    obtain ⟨rewrites, later⟩ := Store.set_rewrites wellFormed entity id value
    exact ⟨rfl, rfl, rewrites, later⟩
  · rw [View.set, if_neg inside]
    exact .refl wellFormed

/-- Of all requests, only one to write changes anything but the output. -/
theorem Situation.answer_evolves {situation : Situation}
    (wellFormed : situation.view.store.WellFormed) (request : Request) :
    situation.view.Evolves (situation.answer request).2.view := by
  cases request with
  | write entity id value => exact View.set_evolves wellFormed entity id value
  | _ => exact .refl wellFormed

theorem Behavior.run_evolves {ε α : Type} (behavior : Behavior ε α) (situation : Situation)
    (wellFormed : situation.view.store.WellFormed) :
    situation.view.Evolves (behavior.run situation).2.view := by
  induction behavior generalizing situation with
  | done result => exact .refl wellFormed
  | fail reason => exact .refl wellFormed
  | ask request next ih =>
    have answered := situation.answer_evolves wellFormed request
    exact answered.trans (ih _ _ answered.wellFormed)

namespace Scene

variable (scene : Scene)

theorem invoke_rewrites (enrolled : Enrolled) (event : Event) {store : Store}
    (wellFormed : store.WellFormed) (output : Array Output) :
    store.Rewrites (scene.invoke enrolled event store output).2.1 ∧
      (scene.invoke enrolled event store output).2.1.WellFormed := by
  unfold invoke
  split
  · exact ⟨.refl store, wellFormed⟩
  · next roles bound =>
    have evolves := (enrolled.system.body ⟨event, roles⟩).run_evolves
      ⟨⟨store, scene.roster, enrolled.components⟩, output⟩ wellFormed
    split
    · next ran =>
      rw [ran] at evolves
      exact ⟨evolves.rewrites, evolves.wellFormed⟩
    · next ran =>
      rw [ran] at evolves
      exact ⟨evolves.rewrites, evolves.wellFormed⟩

/-- The stores that a scene goes through while events are delivered: its own, and each that a system
leaves behind. -/
inductive Meets (scene : Scene) : Store → Prop
  | start : Meets scene scene.store
  | invoked {store : Store} {enrolled : Enrolled} (met : Meets scene store)
      (member : enrolled ∈ scene.systems) (event : Event) (output : Array Output) :
      Meets scene (scene.invoke enrolled event store output).2.1

variable {scene}

theorem Meets.rewrites {store : Store} (met : scene.Meets store)
    (wellFormed : scene.store.WellFormed) : scene.store.Rewrites store ∧ store.WellFormed := by
  induction met with
  | start => exact ⟨.refl _, wellFormed⟩
  | invoked _ _ event output ih =>
    obtain ⟨before, formed⟩ := ih
    obtain ⟨rewrites, later⟩ := scene.invoke_rewrites _ event formed output
    exact ⟨before.trans rewrites, later⟩

theorem deliverTo_meets (event : Event) {systems : List Enrolled} (enrolled : systems ⊆ scene.systems)
    {progress : Progress} (followUps : List Event) (met : scene.Meets progress.store) :
    scene.Meets (scene.deliverTo event systems progress followUps).1.store := by
  induction systems generalizing progress followUps with
  | nil => exact met
  | cons first rest ih =>
    obtain ⟨store, output, report⟩ := progress
    obtain ⟨member, others⟩ := List.cons_subset.mp enrolled
    unfold deliverTo
    split
    · have left := met.invoked member event output
      split
      · next ran =>
        rw [ran] at left
        exact ih others _ left
      · next ran =>
        rw [ran] at left
        exact ih others _ left
    · exact ih others followUps met

theorem drain_meets (events : Registry Contract) (allowance : Nat) (queue : Queue Pending)
    {progress : Progress} (met : scene.Meets progress.store) :
    scene.Meets (scene.drain events allowance queue progress).2.store := by
  induction allowance generalizing queue progress with
  | zero =>
    unfold drain
    split <;> exact met
  | succ allowance ih =>
    obtain ⟨store, output, report⟩ := progress
    unfold drain
    split
    · exact met
    · next report event depth rest taken =>
      have left : scene.Meets (scene.deliver event ⟨store, output, report⟩).1.store :=
        deliverTo_meets event (List.Subset.refl _) [] met
      split
      next progress followUps delivered =>
      rw [delivered] at left
      split
      · exact ih _ left
      · split
        · exact ih _ left
        · exact left

theorem dispatch_rewrites (events : Registry Contract) (event : Event)
    (wellFormed : scene.store.WellFormed) :
    ∃ store, (scene.dispatch events event).scene = { scene with store := store } ∧
      scene.store.Rewrites store ∧ store.WellFormed := by
  unfold dispatch
  split
  · exact ⟨scene.store, rfl, .refl _, wellFormed⟩
  · have met : scene.Meets (scene.drain events scene.limits.events (.singleton ⟨event, 0⟩)
        ⟨scene.store, #[], .empty⟩).2.store := drain_meets events _ _ .start
    exact ⟨_, rfl, met.rewrites wellFormed⟩

end Scene

end Stagecraft
