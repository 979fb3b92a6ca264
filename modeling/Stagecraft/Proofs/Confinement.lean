import Stagecraft.Proofs.Frames

/-!
Confinement: what systems leave alone. A system writes to the kinds of its own components, over values
that are there already. So a whole dispatch changes nothing but values, none of them outside the
components of the systems that listened to its events.
-/

namespace Stagecraft

def Store.EqualOutside (ids : List ComponentId) (before after : Store) : Prop :=
  ∀ entity, ∀ id ∉ ids, after.get? entity id = before.get? entity id

namespace Store.EqualOutside

variable {ids : List ComponentId}

theorem refl (store : Store) : store.EqualOutside ids store := fun _ _ _ => rfl

theorem trans {first second third : Store} (one : first.EqualOutside ids second)
    (other : second.EqualOutside ids third) : first.EqualOutside ids third :=
  fun entity id outside => (other entity id outside).trans (one entity id outside)

end Store.EqualOutside

/-! ### One system -/

theorem Store.set_equalOutside (store : Store) (entity : Entity) {id : ComponentId} (value : Value)
    {ids : List ComponentId} (inside : id ∈ ids) :
    store.EqualOutside ids (store.set entity id value).2 := by
  unfold Store.set
  split
  · exact .refl store
  · split
    · split
      · intro other kind outside
        have apart : ¬(entity = other ∧ id = kind) := fun same => outside (same.2 ▸ inside)
        rw [get?_write, if_neg apart]
      · exact .refl store
    · exact .refl store

/-- Outside the view, a request to write is refused. -/
theorem Situation.answer_equalOutside (situation : Situation) (request : Request) :
    situation.view.store.EqualOutside situation.view.components
      (situation.answer request).2.view.store := by
  cases request with
  | write entity id value =>
    obtain ⟨⟨store, roster, components⟩, output⟩ := situation
    change store.EqualOutside components (View.set ⟨store, roster, components⟩ entity id value).2.store
    by_cases inside : id ∈ components
    · rw [View.set, if_pos inside]
      exact store.set_equalOutside entity value inside
    · rw [View.set, if_neg inside]
      exact .refl store
  | _ => exact .refl _

theorem Behavior.run_equalOutside {ε α : Type} (behavior : Behavior ε α) (situation : Situation)
    (wellFormed : situation.view.store.WellFormed) :
    situation.view.store.EqualOutside situation.view.components
      (behavior.run situation).2.view.store := by
  induction behavior generalizing situation with
  | done result => exact .refl _
  | fail reason => exact .refl _
  | ask request next ih =>
    have answered := situation.answer_evolves wellFormed request
    have later := ih (situation.answer request).1 (situation.answer request).2 answered.wellFormed
    rw [answered.components] at later
    exact (situation.answer_equalOutside request).trans later

namespace Scene

variable {scene : Scene}

theorem invoke_equalOutside (scene : Scene) (enrolled : Enrolled) (event : Event) {store : Store}
    (wellFormed : store.WellFormed) (output : Array Output) :
    store.EqualOutside enrolled.components (scene.invoke enrolled event store output).2.1 := by
  unfold invoke
  split
  · exact .refl store
  · next roles bound =>
    have ran := (enrolled.system.body ⟨event, roles⟩).run_equalOutside
      ⟨⟨store, scene.roster, enrolled.components⟩, output⟩ wellFormed
    split
    · next outcome =>
      rw [outcome] at ran
      exact ran
    · next outcome =>
      rw [outcome] at ran
      exact ran

/-! ### A whole dispatch -/

def Heard (systems : List Enrolled) (event : Event) (id : ComponentId) : Prop :=
  ∃ enrolled ∈ systems, enrolled.system.listensTo event.name = true ∧ id ∈ enrolled.components

theorem deliverTo_changed (scene : Scene) (event : Event) (systems : List Enrolled) {progress : Progress}
    (followUps : List Event) (wellFormed : progress.store.WellFormed) {entity : Entity}
    {id : ComponentId}
    (changed : (scene.deliverTo event systems progress followUps).1.store.get? entity id ≠
      progress.store.get? entity id) : Heard systems event id := by
  induction systems generalizing progress followUps with
  | nil => exact absurd rfl changed
  | cons first rest ih =>
    obtain ⟨store, output, report⟩ := progress
    have behind (heard : Heard rest event id) : Heard (first :: rest) event id := by
      obtain ⟨enrolled, member, listens, inside⟩ := heard
      exact ⟨enrolled, List.mem_cons_of_mem first member, listens, inside⟩
    unfold deliverTo at changed
    split at changed
    · next listens =>
      have left := invoke_equalOutside scene first event wellFormed output
      have formed := (scene.invoke_rewrites first event wellFormed output).2
      -- Either the first system was allowed to change the value, or one of the others changed it.
      by_cases inside : id ∈ first.components
      · exact ⟨first, List.mem_cons_self, listens, inside⟩
      · have same := left entity id inside
        split at changed
        · next ran =>
          rw [ran] at same formed
          exact behind (ih _ formed (by rwa [← same] at changed))
        · next ran =>
          rw [ran] at same formed
          exact behind (ih _ formed (by rwa [← same] at changed))
    · exact behind (ih followUps wellFormed changed)

theorem deliverTo_dispatched (scene : Scene) (event : Event) (systems : List Enrolled) (progress : Progress)
    (followUps : List Event) :
    (scene.deliverTo event systems progress followUps).1.report.dispatched =
      progress.report.dispatched := by
  induction systems generalizing progress followUps with
  | nil => rfl
  | cons first rest ih =>
    obtain ⟨store, output, report⟩ := progress
    unfold deliverTo
    split
    · split
      · rw [ih]
      · rw [ih, Report.fail]
    · rw [ih]

/-- Every value that a dispatch changed so far belongs to a kind in the view of a system that listens to
one of the delivered events. -/
def Accounted (scene : Scene) (progress : Progress) : Prop :=
  ∀ entity id, progress.store.get? entity id ≠ scene.store.get? entity id →
    ∃ event ∈ progress.report.dispatched, Heard scene.systems event id

theorem Accounted.deliver {progress : Progress} (accounted : scene.Accounted progress)
    (wellFormed : progress.store.WellFormed) (event : Event) :
    scene.Accounted (scene.deliver event progress).1 := by
  intro entity id changed
  have recorded : (scene.deliver event progress).1.report.dispatched =
      progress.report.dispatched.push event :=
    congrArg (fun dispatched => dispatched.push event)
      (scene.deliverTo_dispatched event scene.systems progress [])
  have touched : (scene.deliver event progress).1.store.get? entity id ≠
      progress.store.get? entity id → Heard scene.systems event id :=
    scene.deliverTo_changed event scene.systems [] wellFormed
  rw [recorded]
  by_cases before : progress.store.get? entity id = scene.store.get? entity id
  · rw [← before] at changed
    exact ⟨event, Array.mem_push_self, touched changed⟩
  · obtain ⟨earlier, member, heard⟩ := accounted entity id before
    exact ⟨earlier, Array.mem_push_of_mem event member, heard⟩

theorem next?_dispatched (scene : Scene) (events : Registry Contract) (store : Store) (report : Report)
    (queue : Queue Pending) :
    (queue.next? (scene.reject? events store) report).1.dispatched = report.dispatched := by
  let holds (later : Report) : Prop := later.dispatched = report.dispatched
  have step : ∀ before pending after, holds before →
      scene.reject? events store before pending = some after → holds after := by
    intro before pending after kept passed
    unfold reject? at passed
    split at passed
    · cases passed
    · split at passed
      · cases passed
      · cases passed
        exact kept
  exact Queue.next?_keeps step queue rfl

theorem drain_accounted (events : Registry Contract) (allowance : Nat) (queue : Queue Pending)
    {progress : Progress} (formed : scene.store.WellFormed) (met : scene.Meets progress.store)
    (accounted : scene.Accounted progress) :
    scene.Accounted (scene.drain events allowance queue progress).2 := by
  induction allowance generalizing queue progress with
  | zero =>
    unfold drain
    split <;> exact accounted
  | succ allowance ih =>
    obtain ⟨store, output, report⟩ := progress
    have passed := scene.next?_dispatched events store report queue
    unfold drain
    split
    · next taken =>
      rw [taken] at passed
      intro entity id changed
      rw [show (⟨store, output, _⟩ : Progress).report.dispatched = _ from passed]
      exact accounted entity id changed
    · next later event depth rest taken =>
      rw [taken] at passed
      have before : scene.Accounted ⟨store, output, later⟩ := by
        intro entity id changed
        rw [show (⟨store, output, later⟩ : Progress).report.dispatched = _ from passed]
        exact accounted entity id changed
      have delivered := before.deliver (met.rewrites formed).2 event
      have left : scene.Meets (scene.deliver event ⟨store, output, later⟩).1.store :=
        deliverTo_meets event (List.Subset.refl _) [] met
      split
      next progress followUps outcome =>
      rw [outcome] at delivered left
      split
      · exact ih _ left delivered
      · split
        · exact ih _ left delivered
        · exact delivered

end Scene

def Report.ofResult? : Except DispatchFault Report → Option Report
  | .ok report => some report
  | .error fault => fault.report?

/-- What comes back of a dispatch that was not rejected carries the record of all that was done. -/
theorem Scene.drain_record (scene : Scene) (events : Registry Contract) (allowance : Nat)
    (queue : Queue Pending) (progress : Progress) :
    Report.ofResult? (scene.drain events allowance queue progress).1 =
      some (scene.drain events allowance queue progress).2.report := by
  induction allowance generalizing queue progress with
  | zero =>
    unfold drain
    split <;> rfl
  | succ allowance ih =>
    unfold drain
    split
    · rfl
    · split
      next progress followUps _ =>
      split
      · exact ih _ progress
      · split
        · exact ih _ progress
        · rfl

def System.Names (system : System) (store : Store) (id : ComponentId) : Prop :=
  ∃ name ∈ system.allComponents, store.componentId? name = some id

/-- A dispatch replaced values by values of the same schemas, in the components of those systems that
listen to what it delivered, and did nothing else to a scene. -/
structure Outcome.Confined (scene : Scene) (outcome : Outcome) : Prop where
  title : outcome.scene.name = scene.name
  limits : outcome.scene.limits = scene.limits
  /-- The entities that are alive, their signatures, and the numbers that wait to be given out. -/
  roster : outcome.scene.roster = scene.roster
  answers : ∀ allocations,
    Scene.answers allocations outcome.scene = Scene.answers allocations scene
  find? : ∀ name, outcome.scene.find? name = scene.find? name
  givenName? : ∀ entity, outcome.scene.givenName? entity = scene.givenName? entity
  systems : outcome.scene.systems = scene.systems
  components : outcome.scene.store.components = scene.store.components
  kinds : scene.store.SameKinds outcome.scene.store
  contains : ∀ entity id,
    outcome.scene.store.contains entity id = scene.store.contains entity id
  schema? : ∀ entity id, outcome.scene.store.schema? entity id = scene.store.schema? entity id
  changed : ∀ entity id, outcome.scene.store.get? entity id ≠ scene.store.get? entity id →
    ∃ report, Report.ofResult? outcome.result = some report ∧ ∃ event ∈ report.dispatched,
      ∃ enrolled ∈ scene.systems, enrolled.system.listensTo event.name = true ∧
        enrolled.system.Names scene.store id

namespace Scene

variable {scene : Scene}

theorem dispatch_changed (events : Registry Contract) (event : Event)
    (wellFormed : scene.WellFormed) (enlisted : scene.Enlisted) {entity : Entity} {id : ComponentId}
    (changed : (scene.dispatch events event).scene.store.get? entity id ≠
      scene.store.get? entity id) :
    ∃ report, Report.ofResult? (scene.dispatch events event).result = some report ∧
      ∃ event ∈ report.dispatched, ∃ enrolled ∈ scene.systems,
        enrolled.system.listensTo event.name = true ∧ enrolled.system.Names scene.store id := by
  unfold dispatch at changed ⊢
  split at changed
  · exact absurd rfl changed
  · have start : scene.Accounted ⟨scene.store, #[], .empty⟩ := fun _ _ same => absurd rfl same
    have accounted := drain_accounted events scene.limits.events (.singleton ⟨event, 0⟩)
      wellFormed.store .start start
    have record := scene.drain_record events scene.limits.events (.singleton ⟨event, 0⟩)
      ⟨scene.store, #[], .empty⟩
    obtain ⟨delivered, member, enrolled, among, listens, inside⟩ := accounted entity id changed
    exact ⟨_, record, delivered, member, enrolled, among, listens,
      (enlisted.stand enrolled among).mem_ids_iff.mp inside⟩

theorem dispatch_confined (events : Registry Contract) (event : Event)
    (wellFormed : scene.WellFormed) (enlisted : scene.Enlisted)
    (distinct : (scene.store.components.map Component.name).Nodup) :
    (scene.dispatch events event).Confined scene := by
  have changed (entity : Entity) (id : ComponentId) :=
    @dispatch_changed scene events event wellFormed enlisted entity id
  have registers : scene.store.Registers [] (scene.dispatch events event).scene.store :=
    scene.dispatch_registers events event
  have formed := dispatch_wellFormed events event wellFormed
  obtain ⟨store, same, rewrites, -⟩ := dispatch_rewrites events event wellFormed.store
  rw [same] at registers formed
  constructor
  case changed => exact changed
  all_goals rw [same]
  case answers =>
    exact Alike.answers ⟨formed, wellFormed, ⟨rfl, fun _ => rfl⟩, fun _ => rfl⟩
  case components => exact Store.components_congr rewrites.component?
  case kinds => exact registers.sameKinds distinct nofun
  case contains => exact rewrites.contains
  case schema? => exact rewrites.schema?
  all_goals intros; rfl

/-- Whatever a host asked of a new scene before, whatever its systems do with their views, and whether the
dispatch comes to its end or is cut short: all that changes is values, in the components of systems that
listened, and each keeps its schema. -/
theorem after_confined (title : String) (limits : Limits) (commands : List Command)
    (events : Registry Contract) (event : Event) :
    let scene := (empty title limits).after commands
    (scene.dispatch events event).Confined scene :=
  dispatch_confined events event (after_wellFormed title limits commands)
    (after_enlisted title limits commands) (after_distinct title limits commands)

end Scene

end Stagecraft
