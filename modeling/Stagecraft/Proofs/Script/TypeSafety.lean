import Stagecraft.Proofs.Script.Loading
import Stagecraft.Proofs.Script.Moments
import Stagecraft.Proofs.Script.Typing
import Stagecraft.Proofs.TypedCourse

/-!
Type safety: scripts make nothing but typed values of typed values. The parser accepts no literal that has
parts, so a body that was read from a source keeps its locals, its events and the store typed, from moment to
moment.
-/

namespace Stagecraft

namespace Script

/-! ### Moments -/

structure Moment.Typed (moment : Moment) : Prop where
  progress : moment.progress.Typed
  stored : moment.situation.view.store.Typed

theorem Run.KeepsTyped.leads {α : Type} {post : α → Prop} {run : Run α} (keeps : run.KeepsTyped post)
    {before after : Moment} {result : α} (leads : run.Leads before result after) (typed : before.Typed) :
    post result ∧ after.Typed := by
  have along := keeps before.progress typed.progress
  have left := along.leaves typed.stored
  rw [leads] at left
  obtain ⟨satisfied, progress⟩ := along.ends typed.stored (congrArg Prod.fst leads)
  exact ⟨satisfied, progress, left⟩

section

variable {bindings : Bindings}

theorem Bindings.Rounds.typed {condition : Expr} {body : List Stmt} (proper : condition.Proper)
    (properBody : Stmt.AllProper body) {before entered : Moment}
    (rounds : bindings.Rounds condition body before entered) (typed : before.Typed) : entered.Typed := by
  have asking {before asked : Moment} {answer : Bool}
      (holds : (bindings.holds condition).Leads before answer asked) (typed : before.Typed) : asked.Typed :=
    ((holds_keepsTyped bindings proper).leads holds typed).2
  induction rounds with
  | first holds => exact asking holds typed
  | next holds round step _ ih =>
    have done := (execBlock_keepsTyped bindings body properBody).leads round (asking holds typed)
    exact ih ((step_keepsTyped bindings).leads step done.2).2

theorem Bindings.Enters.typed {stmt : Stmt} {block : List Stmt} {before entered : Moment}
    (enters : bindings.Enters stmt before block entered) (proper : stmt.Proper) (typed : before.Typed) :
    Stmt.AllProper block ∧ entered.Typed := by
  cases enters with
  | @branch _ _ _ _ _ _ _ holds step chosen =>
    rw [Stmt.Proper] at proper
    obtain ⟨asked, -, first, second⟩ := proper
    have begun := ((step_keepsTyped bindings).leads step typed).2
    refine ⟨?_, ((holds_keepsTyped bindings asked).leads chosen begun).2⟩
    cases holds with
    | false => exact second
    | true => exact first
  | loop step round =>
    rw [Stmt.Proper] at proper
    have begun := ((step_keepsTyped bindings).leads step typed).2
    exact ⟨proper.2.2, round.typed proper.1 proper.2.2 begun⟩

/-- From a typed moment, a proper block comes through typed moments only. -/
theorem Bindings.Visits.typed {stmts : List Stmt} {before moment : Moment}
    (visits : bindings.Visits stmts before moment) (proper : Stmt.AllProper stmts) (typed : before.Typed) :
    moment.Typed := by
  induction visits with
  | here => exact typed
  | inside enters _ ih =>
    rw [Stmt.AllProper] at proper
    obtain ⟨inside, entered⟩ := enters.typed proper.1 typed
    exact ih inside entered
  | behind ended _ ih =>
    rw [Stmt.AllProper] at proper
    exact ih proper.2 ((exec_keepsTyped bindings _ proper.1).leads ended typed).2

end

/-! ### Runs -/

namespace Routine

variable {routine : Routine} {event : Event}

theorem given_typed (carried : event.payload.Typed) : LocalsTyped (routine.given event) := by
  unfold given
  split
  · exact List.forall_mem_singleton.mpr carried
  · exact nofun

theorem candidates_keepsTyped (routine : Routine) (params : List RoleDecl) :
    (routine.candidates params).KeepsTyped (fun _ => True) := by
  induction params with
  | nil => exact .pure trivial
  | cons param rest ih =>
    refine .bind (.mapM (componentId_keepsTyped routine) _) (fun ids _ =>
      .bind (Behavior.matching_keepsTyped ids) (fun entities _ => ?_))
    split
    · exact .pure trivial
    · exact .bind ih (fun _ _ => .pure trivial)

theorem runOn_keepsTyped (proper : Stmt.AllProper routine.decl.body) (carried : event.payload.Typed)
    (tuple : List Entity) : (routine.runOn event tuple).KeepsTyped (fun _ => True) :=
  .bind (.update (fun _ before => ⟨given_typed carried, before.emitted⟩))
    (fun _ _ => execBlock_keepsTyped (routine.bindings event tuple) routine.decl.body proper)

/-- A run of a proper body keeps the store typed all along, and emits typed payloads. -/
theorem run_keepsTyped (proper : Stmt.AllProper routine.decl.body) (carried : event.payload.Typed) :
    (routine.run event).KeepsTyped (fun found => ∀ emitted ∈ found, emitted.payload.Typed) := by
  have performs : (routine.perform event).KeepsTyped (fun _ => True) := by
    refine .bind (.lift (candidates_keepsTyped routine _)) (fun answer _ => ?_)
    cases answer with
    | none => exact .pure trivial
    | some lists =>
      dsimp only
      rw [forEachTuple_eq]
      exact .forM (runOn_keepsTyped proper carried) (tuples lists)
  rw [run_eq]
  refine .bind (performs _ ⟨nofun, nofun⟩) (fun outcome after => .pure ?_)
  exact fun emitted member => after.2.emitted emitted (Array.mem_toList_iff.mp member)

theorem toSystem_keepsTyped (proper : Stmt.AllProper routine.decl.body) (contract : Contract) :
    (routine.toSystem contract).KeepsTyped :=
  fun _ carried => (run_keepsTyped proper carried).mapReason _

theorem Visits.typed {situation : Situation} {moment : Moment}
    (visits : routine.Visits event situation moment) (proper : Stmt.AllProper routine.decl.body)
    (carried : event.payload.Typed) (stored : situation.view.store.Typed) : moment.Typed := by
  cases visits with
  | body searched _ before visits =>
    have found := (candidates_keepsTyped routine routine.decl.params).leaves stored
    rw [searched] at found
    obtain ⟨-, reached⟩ := (Run.KeepsTyped.forM (runOn_keepsTyped proper carried) _).leads before
      ⟨⟨nofun, nofun⟩, found⟩
    exact visits.typed proper ⟨⟨given_typed carried, reached.progress.emitted⟩, reached.stored⟩

end Routine

/-! ### Loaded systems -/

def Routine.Scripted (routine : Routine) : Prop :=
  ∃ source tree, parse source = .ok tree ∧ routine.decl ∈ tree.systems

theorem Routine.Scripted.proper {routine : Routine} (scripted : routine.Scripted) :
    Stmt.AllProper routine.decl.body := by
  obtain ⟨source, tree, parsed, member⟩ := scripted
  obtain ⟨item, inside, system⟩ := List.mem_filterMap.mp member
  have proper := parse_proper parsed item inside
  cases item with
  | system decl =>
    cases system
    exact SystemDecl.Proper.body proper
  | _ => cases system

theorem Loaded.exists_routine {system : System} (loaded : Loaded system) :
    ∃ (routine : Routine) (contract : Contract), routine.Scripted ∧ system = routine.toSystem contract := by
  obtain ⟨settings, source, before, summary, after, brought, put, new⟩ := loaded
  obtain ⟨tree, decl, parsed, member, checked⟩ := load_checked brought put new
  obtain ⟨catalog, contract, -, -, same⟩ := checked.exists_routine
  exact ⟨settings.routine source catalog decl, contract, ⟨source, tree, parsed, member⟩, same⟩

theorem Loaded.keepsTyped {system : System} (loaded : Loaded system) : system.KeepsTyped := by
  obtain ⟨routine, contract, scripted, rfl⟩ := loaded.exists_routine
  exact Routine.toSystem_keepsTyped scripted.proper contract

end Script

/-! ### Dispatches -/

open Script

/-- All that a system has in hand while it acts on an event is typed: the values in the store at every
request of its body, and, as the routine of a script, its locals and the payloads of what it emitted at every
moment of its run. -/
structure Enrolled.ActsTyped (enrolled : Enrolled) (event : Event) (situation : Situation) : Prop where
  along : ∀ refs, situation.view.store.bindRoles enrolled.system.roles event = .ok refs →
    ∀ passed ∈ (enrolled.system.body ⟨event, refs⟩).situations situation, passed.view.store.Typed
  routine : ∃ (routine : Routine) (contract : Contract), routine.Scripted ∧
    enrolled.system = routine.toSystem contract
  moments : ∀ (routine : Routine) (contract : Contract), routine.Scripted →
    enrolled.system = routine.toSystem contract →
    ∀ moment, routine.Visits event situation moment → moment.Typed

namespace Scene

/-- What a schema starts from and what a document gives for it is typed, and scripts make nothing else. A sent
event that is rejected does nothing. One that is not sets off a course which is typed after every turn and
wherever a system acts on an event, and the dispatch, however it ends, leaves a typed store. -/
theorem dispatch_typed (scene : Scene) (events : Registry Contract) (sent : Event)
    (stored : scene.store.Typed)
    (carried : ∀ contract, events.find? sent.name = some contract → sent.payload.Fits contract.payload)
    (loaded : ∀ enrolled ∈ scene.systems, Loaded enrolled.system) :
    (∀ schema, (Value.initial schema).Fits schema) ∧
    (∀ schema json value, Value.decodeAs schema json = .ok value → value.Fits schema) ∧
    (∀ fault, scene.checkEvent events scene.store sent = .error fault →
      scene.dispatch events sent = ⟨.error (.rejected fault), scene, #[]⟩) ∧
    (scene.checkEvent events scene.store sent = .ok () →
      (∃ count, scene.Follows events sent (scene.dispatch events sent) count) ∧
      (∀ k, (scene.course events sent k).Typed) ∧
      ∀ enrolled event store output, scene.Hands events sent enrolled event store output →
        enrolled.ActsTyped event ⟨⟨store, scene.roster, enrolled.components⟩, output⟩) ∧
    (scene.dispatch events sent).scene.store.Typed := by
  have keep (enrolled : Enrolled) (member : enrolled ∈ scene.systems) : enrolled.system.KeepsTyped :=
    (loaded enrolled member).keepsTyped
  have typed (accepted : scene.checkEvent events scene.store sent = .ok ()) : sent.payload.Typed := by
    cases found : events.find? sent.name with
    | some contract => exact (carried contract found).typed
    | none =>
      rw [checkEvent, found] at accepted
      cases accepted
  refine ⟨Value.initial_fits, fun schema _ _ => Value.decodeAs_fits schema, ?_, ?_, ?_⟩
  · intro fault rejected
    rw [dispatch, rejected]
  · intro accepted
    refine ⟨dispatch_follows accepted, course_typed events keep stored (typed accepted), ?_⟩
    intro enrolled event store output hands
    obtain ⟨here, payload⟩ := hands.typed events keep stored (typed accepted)
    have member := hands.enrolled
    refine ⟨fun refs _ => (keep enrolled member ⟨event, refs⟩ payload).along here,
      (loaded enrolled member).exists_routine, ?_⟩
    intro routine contract scripted _ moment visits
    exact visits.typed scripted.proper payload here
  · cases checked : scene.checkEvent events scene.store sent with
    | error fault =>
      rw [dispatch, checked]
      exact stored
    | ok => exact dispatch_stored events keep stored (typed checked) checked

def torchScript : String :=
  "component Lamp\n\tOptional<Boolean> lit\n" ++
    "system Turn(lamp<Lamp>) event Tell(Optional<Boolean> lit)\n\tlamp.Lamp.lit = lit\n"

def torchCatalog : Catalog :=
  match Script.load .standard torchScript .empty with
  | .ok (_, after) => after
  | .error _ => .empty

def torch : Scene :=
  ⟨"torch", .standard, ⟨1, [], 1, #[some (Signature.empty.insert ⟨0⟩)], 1⟩,
    ⟨#[⟨.of "Lamp" (.record [("lit", .optional (.basic .boolean))]),
      some ⟨#[some (.record [("lit", .vacant (.basic .boolean))])], 1⟩⟩]⟩, [], [],
    torchCatalog.systems.entries.map (⟨·, [⟨0⟩]⟩)⟩

theorem torch_typed :
    let lit := Value.filled (.boolean true)
    let tell : Event := ⟨"Tell", [], lit⟩
    let outcome := torch.dispatch torchCatalog.events tell
    torch.store.Typed ∧ tell.payload.Fits (.optional (.basic .boolean)) ∧
      (∀ enrolled ∈ torch.systems, Loaded enrolled.system) ∧
      outcome.result = .ok ⟨#[tell], 1, #[]⟩ ∧
      outcome.scene.store.get? ⟨0⟩ ⟨0⟩ = some (.record [("lit", lit)]) ∧ outcome.scene.store.Typed ∧
      ∀ k, (torch.course torchCatalog.events tell k).Typed := by
  intro lit tell outcome
  have carried : tell.payload.Fits (.optional (.basic .boolean)) := (Value.typed_boolean true).filled
  have stored : torch.store.Typed := by
    apply Store.Typed.of_slots
    intro kind member column opened value held
    cases Array.mem_singleton.mp member
    cases opened
    cases Array.mem_singleton.mp held
    change Value.FieldsFit [("lit", .vacant (.basic .boolean))] [("lit", .optional (.basic .boolean))]
    rw [Value.FieldsFit, Value.FieldsFit]
    exact ⟨rfl, Value.vacant_fits _, rfl⟩
  obtain ⟨succeeded, accepted, result, left, known⟩ :
      (Script.load .standard torchScript .empty).isOk = true ∧
        torch.checkEvent torchCatalog.events torch.store tell = .ok () ∧
        outcome.result = .ok ⟨#[tell], 1, #[]⟩ ∧
        outcome.scene.store.get? ⟨0⟩ ⟨0⟩ = some (.record [("lit", lit)]) ∧
        torchCatalog.events.find? tell.name = some ⟨"Tell", [], .optional (.basic .boolean)⟩ := by
    decide +kernel
  have loaded : ∀ enrolled ∈ torch.systems, Loaded enrolled.system := by
    intro enrolled member
    obtain ⟨system, put, rfl⟩ := List.mem_map.mp member
    obtain ⟨⟨summary, after⟩, loads⟩ := exists_ok_of_isOk succeeded
    rw [torchCatalog, loads] at put
    exact ⟨_, _, _, summary, after, loads, put, List.not_mem_nil⟩
  obtain ⟨-, -, -, goes, ends⟩ := dispatch_typed torch torchCatalog.events tell stored
    (fun contract found => by
      rw [known] at found
      cases found
      exact carried) loaded
  exact ⟨stored, carried, loaded, result, left, ends, (goes accepted).2.1⟩

end Scene

end Stagecraft
