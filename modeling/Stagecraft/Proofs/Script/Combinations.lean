import Stagecraft.Proofs.Blindness
import Stagecraft.Proofs.Integrity
import Stagecraft.Proofs.Script.Odometer

/-!
Combinations: the body of a system runs once for every combination of entities that own what the parameters
ask for. Every execution begins with the payload as its only local, and what was emitted before it makes no
difference to it. The store goes from one execution to the next, and so do the steps that are spent.
-/

namespace Stagecraft

namespace Script

/-! ### What was emitted before

Emitted events are written and never read, so a part of a run may be told apart from what came before it. -/

def Progress.behind (prior : Array Event) (progress : Progress) : Progress :=
  { progress with emitted := prior ++ progress.emitted }

/-- A part of a run does the same whatever was emitted before, and leaves that in front of its own events. -/
def Run.Adds {α : Type} (run : Run α) : Prop :=
  ∀ prior progress, run (progress.behind prior) =
    (run progress).bind (fun outcome => .done (outcome.1, outcome.2.behind prior))

namespace Run.Adds

variable {α β : Type}

theorem pure (result : α) : (Pure.pure result : Run α).Adds := fun _ _ => rfl

theorem fail (fault : Fault) : (Run.fail fault : Run α).Adds := fun _ _ => rfl

theorem bind {run : Run α} {next : α → Run β} (first : run.Adds) (others : ∀ result, (next result).Adds) :
    (run >>= next).Adds := by
  intro prior progress
  change (run (progress.behind prior)).bind (fun outcome => next outcome.1 outcome.2) =
    ((run progress).bind (fun outcome => next outcome.1 outcome.2)).bind _
  rw [first prior progress, Behavior.bind_assoc, Behavior.bind_assoc]
  exact congrArg _ (funext fun outcome => others outcome.1 prior outcome.2)

theorem lift (behavior : Behavior Fault α) : Run.Adds (liftM behavior) := by
  intro prior progress
  change behavior.bind _ = (behavior.bind _).bind _
  rw [Behavior.bind_assoc]
  rfl

theorem get {next : Progress → Run β} (blind : ∀ prior progress, next (progress.behind prior) = next progress)
    (others : ∀ progress, (next progress).Adds) : Run.Adds (MonadState.get >>= next) := by
  intro prior progress
  change next (progress.behind prior) (progress.behind prior) = (next progress progress).bind _
  rw [blind, others progress]

theorem setLocals (change : Keyed Value → Keyed Value) :
    Run.Adds (modify fun progress => { progress with locals := change progress.locals } : Run PUnit) :=
  fun _ _ => rfl

theorem push (event : Event) : Run.Adds
    (modify fun progress => { progress with emitted := progress.emitted.push event } : Run PUnit) := by
  intro prior progress
  have same : (prior ++ progress.emitted).push event = prior ++ progress.emitted.push event :=
    Array.push_append
  change Behavior.done _ = Behavior.done _
  simp only [Progress.behind, same]

theorem leads_iff {run : Run α} (adds : run.Adds) {prior : Array Event} {progress : Progress}
    {situation : Situation} {result : α} {after : Moment} :
    run.Leads ⟨progress.behind prior, situation⟩ result after ↔
      ∃ own, run.Leads ⟨progress, situation⟩ result ⟨own, after.situation⟩ ∧
        after.progress = own.behind prior := by
  obtain ⟨last, later⟩ := after
  unfold Run.Leads
  rw [adds, Behavior.run_bind]
  dsimp only
  cases ran : (run progress).run situation with
  | mk outcome left =>
    cases outcome with
    | error fault => simp
    | ok ended =>
      obtain ⟨value, own⟩ := ended
      simp only [Behavior.run, Prod.mk.injEq, Except.ok.injEq]
      constructor
      · intro same
        obtain ⟨⟨rfl, rfl⟩, rfl⟩ := same
        exact ⟨own, ⟨⟨rfl, rfl⟩, rfl⟩, rfl⟩
      · intro found
        obtain ⟨_, ⟨⟨rfl, rfl⟩, rfl⟩, rfl⟩ := found
        exact ⟨⟨rfl, rfl⟩, rfl⟩

end Run.Adds

section

variable (bindings : Bindings)

theorem step_adds : bindings.step.Adds := by
  intro prior progress
  rw [step_eq, step_eq]
  change (if bindings.routine.limit ≤ progress.steps then _ else _) = _
  split <;> rfl

theorem evalHere_adds (expr : Expr) : (bindings.evalHere expr).Adds :=
  .get (fun _ _ => rfl) (fun _ => .lift _)

theorem holds_adds (condition : Expr) : (bindings.holds condition).Adds :=
  .bind (evalHere_adds bindings condition) (fun _ => .lift _)

theorem assign_adds (target : Place) (value : Value) : (bindings.assign target value).Adds := by
  unfold Bindings.assign
  split
  · split
    · exact .fail _
    · exact .lift _
  · apply Run.Adds.get (fun _ _ => rfl)
    intro progress
    split
    · exact .bind (.lift _) (fun _ => .setLocals _)
    · split
      · exact .setLocals _
      · exact .fail _

theorem emit_adds (event : String) (args : List Expr) : (bindings.emit event args).Adds := by
  unfold Bindings.emit
  dsimp only
  split
  · exact .fail _
  · split
    · exact .fail _
    · split
      · exact .push _
      · next payload _ =>
        exact .bind (evalHere_adds bindings payload) (fun _ => .bind (.lift _) (fun _ => .push _))

theorem repeatWhile_adds {condition : Run Bool} {body : Run Unit} (asked : condition.Adds)
    (repeated : body.Adds) (rounds : Nat) : (bindings.repeatWhile condition body rounds).Adds := by
  induction rounds with
  | zero => exact .fail _
  | succ rounds ih =>
    apply Run.Adds.bind asked
    intro holds
    cases holds with
    | false => exact .pure ()
    | true => exact .bind repeated (fun _ => .bind (step_adds bindings) (fun _ => ih))

mutual

theorem exec_adds : (stmt : Stmt) → (bindings.exec stmt).Adds
  | .assign target value _ =>
    .bind (step_adds bindings) (fun _ => .bind (evalHere_adds bindings value)
      (fun _ => assign_adds bindings target _))
  | .declare _ _ value _ =>
    .bind (step_adds bindings) (fun _ => .bind (.lift _) (fun _ =>
      .bind (evalHere_adds bindings value) (fun _ => .bind (.lift _) (fun _ => .setLocals _))))
  | .expr value =>
    .bind (step_adds bindings) (fun _ => .bind (evalHere_adds bindings value) (fun _ => .pure ()))
  | .branch condition yes no _ =>
    .bind (step_adds bindings) (fun _ => .bind (evalHere_adds bindings condition) (fun _ =>
      .bind (.lift _) (fun holds => by
        cases holds with
        | false => exact execBlock_adds no
        | true => exact execBlock_adds yes)))
  | .loop condition body _ =>
    .bind (step_adds bindings) (fun _ => .get (fun _ _ => rfl) (fun _ =>
      repeatWhile_adds bindings (holds_adds bindings condition) (execBlock_adds body) _))
  | .emit event args _ => .bind (step_adds bindings) (fun _ => emit_adds bindings event args)
termination_by structural stmt => stmt

theorem execBlock_adds : (stmts : List Stmt) → (bindings.execBlock stmts).Adds
  | [] => .pure ()
  | stmt :: rest => .bind (exec_adds stmt) (fun _ => execBlock_adds rest)
termination_by structural stmts => stmts

end

end

/-! ### The search for entities -/

end Script

def View.owners (view : View) (names : List String) : List Entity :=
  view.roster.entities.filter (fun entity => names.all (fun name => (view.store.valueOf entity name).isSome))

namespace View

theorem mem_owners {view : View} {names : List String} {entity : Entity} :
    entity ∈ view.owners names ↔ view.roster.isAlive entity = true ∧
      ∀ name ∈ names, ∃ value, view.store.valueOf entity name = some value := by
  rw [owners, List.mem_filter, Roster.mem_entities, List.all_eq_true]
  simp only [Option.isSome_iff_exists]

theorem owners_ascending (view : View) (names : List String) :
    (view.owners names).Pairwise (fun one other => one.id < other.id) :=
  view.roster.entities_ascending.filter _

end View

namespace Script

namespace Routine

variable {routine : Routine} {situation : Situation}

theorem componentIds_run {names : List String} {ids : List ComponentId}
    (stand : situation.view.Stand names ids) :
    (names.mapM routine.componentId).run situation = (.ok ids, situation) := by
  induction stand with
  | nil => rfl
  | @cons name id names ids here _ ih =>
    have asked : (Behavior.componentId name : Behavior Fault _).run situation = (.ok (some id), situation) :=
      congrArg (fun answer => (Except.ok answer, situation)) here
    have found : (routine.componentId name).run situation = (.ok id, situation) :=
      Behavior.run_bind_ok asked
    rw [List.mapM_cons, Behavior.run_bind_ok found, Behavior.run_bind_ok ih]
    rfl

/-- The search finds all owners for every parameter. It asks the view and changes nothing. -/
theorem candidates_run (formed : situation.view.roster.WellFormed) (sound : situation.view.Sound)
    {params : List RoleDecl}
    (asked : ∀ param ∈ params, param.components ≠ [] ∧ ∃ ids, situation.view.Stand param.components ids) :
    (routine.candidates params).run situation =
      (.ok (if [] ∈ params.map (fun param => situation.view.owners param.components) then none
        else some (params.map (fun param => situation.view.owners param.components))), situation) := by
  induction params with
  | nil => rfl
  | cons param rest ih =>
    obtain ⟨⟨more, ids, stand⟩, others⟩ := List.forall_mem_cons.mp asked
    have matched : (Behavior.matching ids : Behavior Fault _).run situation =
        (.ok (situation.view.owners param.components), situation) := by
      change (Except.ok (situation.view.matching ids), situation) = _
      rw [View.matching_eq formed sound stand, if_neg (by simpa using more)]
      rfl
    unfold candidates
    rw [Behavior.run_bind_ok (componentIds_run stand), Behavior.run_bind_ok matched, List.map_cons]
    cases found : situation.view.owners param.components with
    | nil => simp; rfl
    | cons entity behind =>
      rw [List.isEmpty_cons, if_neg Bool.false_ne_true, Behavior.run_bind_ok (ih others)]
      split
      · next missing => simp [missing]; rfl
      · next all => simp [all]; rfl

/-! ### Names -/

def lastNamed (roles : List RoleDecl) (entities : List Entity) (name : String) : Option Entity :=
  ((roles.zip entities).reverse.find? (fun pair => pair.1.name == some name)).map Prod.snd

theorem lookup_bindNames (bound : List (String × Entity)) (roles : List RoleDecl) (entities : List Entity)
    (name : String) : (bindNames bound roles entities).lookup name =
      (lastNamed roles entities name).or (bound.lookup name) := by
  induction roles generalizing bound entities with
  | nil => rfl
  | cons role rest ih =>
    cases entities with
    | nil => rfl
    | cons entity others =>
      have last : lastNamed (role :: rest) (entity :: others) name =
          (lastNamed rest others name).or (if role.name = some name then some entity else none) := by
        unfold lastNamed
        rw [List.zip_cons_cons, List.reverse_cons, List.find?_append, Option.map_or]
        by_cases same : role.name = some name <;> simp [same]
      unfold bindNames
      rw [last, Option.or_assoc]
      cases named : role.name with
      | none => simp [ih]
      | some given =>
        dsimp only
        rw [ih, List.lookup_cons]
        by_cases same : name = given
        · simp [same]
        · rw [beq_eq_false_iff_ne.mpr same, if_neg (fun other => same (Option.some.inj other).symm),
            Option.none_or]

/-! ### The executions of a run -/

variable (routine) in
/-- One execution of the body for each of some tuples, in their order. Each begins with the payload as its
only local, without events, and with the steps and the situation that the one before it left. The events of
all of them are found, one execution after the other. -/
inductive Plays (event : Event) :
    List (List Entity) → (steps : Nat) → Situation → (found : List Event) → (later : Situation) → Prop
  | done {steps : Nat} {situation : Situation} : Plays event [] steps situation [] situation
  | next {tuple : List Entity} {rest : List (List Entity)} {steps : Nat} {situation middle later : Situation}
      {ended : Progress} {found : List Event}
      (execution : ((routine.bindings event tuple).execBlock routine.decl.body).Leads
        ⟨⟨routine.given event, #[], steps⟩, situation⟩ () ⟨ended, middle⟩)
      (others : Plays event rest ended.steps middle found later) :
      Plays event (tuple :: rest) steps situation (ended.emitted.toList ++ found) later

/-- The body runs behind the events that were emitted before; alone it ends with its own. -/
theorem runOn_leads_iff {event : Event} {tuple : List Entity} {progress : Progress} {after : Moment} :
    (routine.runOn event tuple).Leads ⟨progress, situation⟩ () after ↔
      ∃ ended, ((routine.bindings event tuple).execBlock routine.decl.body).Leads
          ⟨⟨routine.given event, #[], progress.steps⟩, situation⟩ () ⟨ended, after.situation⟩ ∧
        after.progress = ended.behind progress.emitted := by
  have begun : { progress with locals := routine.given event } =
      Progress.behind progress.emitted ⟨routine.given event, #[], progress.steps⟩ := by
    simp [Progress.behind]
  change ((routine.bindings event tuple).execBlock routine.decl.body).Leads
    ⟨{ progress with locals := routine.given event }, situation⟩ () after ↔ _
  rw [begun]
  exact (execBlock_adds _ _).leads_iff

theorem forM_leads_iff {event : Event} {tuples : List (List Entity)} {later : Situation}
    {emitted : List Event} (progress : Progress) :
    (∃ ended, Run.Leads (tuples.forM (routine.runOn event)) ⟨progress, situation⟩ () ⟨ended, later⟩ ∧
        ended.emitted.toList = emitted) ↔
      ∃ found, routine.Plays event tuples progress.steps situation found later ∧
        emitted = progress.emitted.toList ++ found := by
  induction tuples generalizing progress situation with
  | nil =>
    constructor
    · intro performed
      obtain ⟨ended, leads, rfl⟩ := performed
      cases leads.of_pure.2
      exact ⟨[], .done, (List.append_nil _).symm⟩
    · intro played
      obtain ⟨found, plays, rfl⟩ := played
      cases plays
      exact ⟨progress, rfl, (List.append_nil _).symm⟩
  | cons tuple rest ih =>
    constructor
    · intro performed
      obtain ⟨last, leads, all⟩ := performed
      obtain ⟨_, middle, first, others⟩ := Run.Leads.of_bind leads
      obtain ⟨ended, execution, same⟩ := runOn_leads_iff.mp first
      obtain ⟨found, plays, rest⟩ := (ih middle.progress).mp ⟨last, others, all⟩
      rw [same] at plays rest
      refine ⟨ended.emitted.toList ++ found, .next execution plays, ?_⟩
      rw [rest, Progress.behind, Array.toList_append, List.append_assoc]
    · intro played
      obtain ⟨_, plays, rfl⟩ := played
      cases plays with
      | @next _ _ _ _ middle _ ended found execution others =>
        have first : (routine.runOn event tuple).Leads ⟨progress, situation⟩ ()
            ⟨ended.behind progress.emitted, middle⟩ := runOn_leads_iff.mpr ⟨ended, execution, rfl⟩
        have split : progress.emitted.toList ++ (ended.emitted.toList ++ found) =
            (ended.behind progress.emitted).emitted.toList ++ found := by
          rw [Progress.behind, Array.toList_append, List.append_assoc]
        obtain ⟨last, leads, all⟩ := (ih (ended.behind progress.emitted)).mpr ⟨found, others, split⟩
        exact ⟨last, (Behavior.run_bind_ok first).trans leads, all⟩

theorem emitted_iff {run : Run Unit} {start : Progress} {found : List Event} {later : Situation} :
    ((run start).bind (fun outcome => .done outcome.2.emitted.toList)).run situation = (.ok found, later) ↔
      ∃ ended, run.Leads ⟨start, situation⟩ () ⟨ended, later⟩ ∧ ended.emitted.toList = found := by
  unfold Run.Leads
  rw [Behavior.run_bind]
  cases (run start).run situation with
  | mk result left =>
    cases result with
    | error fault => simp
    | ok outcome => simp [Behavior.run, Prod.ext_iff, and_comm, and_assoc]

/-- A run that succeeds plays the executions for all tuples of owners, and one that plays them succeeds. -/
theorem run_ok_iff (formed : situation.view.roster.WellFormed) (sound : situation.view.Sound)
    (asked : ∀ param ∈ routine.decl.params,
      param.components ≠ [] ∧ ∃ ids, situation.view.Stand param.components ids)
    {event : Event} {found : List Event} {later : Situation} :
    (routine.run event).run situation = (.ok found, later) ↔
      routine.Plays event
        (tuples (routine.decl.params.map (fun param => situation.view.owners param.components))) 0 situation
        found later := by
  unfold run
  rw [Behavior.run_bind_ok (candidates_run formed sound asked)]
  by_cases missing : [] ∈ routine.decl.params.map (fun param => situation.view.owners param.components)
  · rw [if_pos missing, tuples_eq_nil_iff.mpr missing]
    constructor
    · intro same
      cases same
      exact .done
    · intro plays
      cases plays
      rfl
  · rw [if_neg missing]
    dsimp only
    rw [forEachTuple_eq]
    apply emitted_iff.trans
    simp only [List.reverse_nil, List.nil_append]
    apply (forM_leads_iff ⟨[], #[], 0⟩).trans
    simp

theorem entity?_bindings (routine : Routine) (event : Event) (tuple : List Entity) (name : String) :
    (routine.bindings event tuple).entity? name =
      (lastNamed routine.decl.params tuple name).or
        (lastNamed routine.decl.event.roles event.targets name) := by
  change (bindNames (bindNames [] _ _) _ _).lookup name = _
  rw [lookup_bindNames, lookup_bindNames, List.lookup_nil, Option.or_none]

end Routine

/-! ### Scenes -/

/-- What the parameters of an enrolled system ask for is in its view, wherever a dispatch has got to. -/
theorem asked_stand {scene : Scene} (formed : scene.WellFormed) {enrolled : Enrolled}
    (member : enrolled ∈ scene.systems) {routine : Routine} {contract : Contract}
    (scripted : enrolled.system = routine.toSystem contract) {store : Store} (met : scene.Meets store)
    {param : RoleDecl} (asked : param ∈ routine.decl.params) :
    ∃ ids, View.Stand ⟨store, scene.roster, enrolled.components⟩ param.components ids := by
  have rewrites := (met.rewrites formed.store).1
  have known : ∀ name ∈ param.components, ∃ id,
      View.componentId? ⟨store, scene.roster, enrolled.components⟩ name = some id := by
    intro name inside
    have among : name ∈ enrolled.system.allComponents := by
      rw [scripted, System.allComponents, List.mem_eraseDups]
      exact List.mem_flatMap.mpr ⟨param.toRole,
        List.mem_append_left _ (List.mem_map_of_mem asked), inside⟩
    obtain ⟨id, visible, named⟩ := formed.equipped enrolled member name among
    exact ⟨id, View.componentId?_eq_some_iff.mpr ⟨(rewrites.componentId? name).trans named, visible⟩⟩
  choose! id named using known
  exact ⟨param.components.map id, List.forall₂_map_right_iff.mpr (List.forall₂_same.mpr named)⟩

/-- A scripted system runs its body for the combinations of the owners of what its parameters ask for. The
owners of each parameter are all entities that are alive and have the values, in ascending order. The
combinations are all tuples of owners, each of them once and in lexicographic order, as an odometer counts
them. Without an owner for a parameter nothing runs. And a run succeeds with some events exactly if the
executions for these tuples, one after the other, end with these events. -/
theorem combinations_played (title : String) (limits : Limits) (commands : List Command) (catalog : Catalog)
    (enrolled : Enrolled) (routine : Routine) (contract : Contract)
    (member : enrolled ∈ ((Scene.empty title limits).after commands).systems)
    (scripted : enrolled.system = routine.toSystem contract)
    (valid : enrolled.system.validate catalog.components = .ok ()) (store : Store)
    (met : ((Scene.empty title limits).after commands).Meets store) (output : Array Output) (event : Event) :
    let view : View := ⟨store, ((Scene.empty title limits).after commands).roster, enrolled.components⟩
    let lists := routine.decl.params.map (fun param => view.owners param.components)
    (∀ param ∈ routine.decl.params,
      (view.owners param.components).Pairwise (fun one other => one.id < other.id) ∧
      ∀ entity, entity ∈ view.owners param.components ↔ view.roster.isAlive entity = true ∧
        ∀ name ∈ param.components, ∃ value, store.valueOf entity name = some value) ∧
    (∀ tuple, tuple ∈ tuples lists ↔ List.Forall₂ (fun entity options => entity ∈ options) tuple lists) ∧
    (tuples lists).Pairwise (List.Lex (fun one other => one.id < other.id)) ∧
    ([] ∉ lists → ∀ deed, Deed.forEachChoice deed lists = (tuples lists).forM deed) ∧
    (∀ tuple name, (routine.bindings event tuple).entity? name =
      (Routine.lastNamed routine.decl.params tuple name).or
        (Routine.lastNamed routine.decl.event.roles event.targets name)) ∧
    ([] ∈ lists → (routine.run event).run ⟨view, output⟩ = (.ok [], ⟨view, output⟩)) ∧
    ∀ found later, (routine.run event).run ⟨view, output⟩ = (.ok found, later) ↔
      routine.Plays event (tuples lists) 0 ⟨view, output⟩ found later := by
  intro view lists
  have formed := Scene.after_wellFormed title limits commands
  have admits := Catalog.admits_of_valid valid
  have asked : ∀ param ∈ routine.decl.params,
      param.components ≠ [] ∧ ∃ ids, view.Stand param.components ids := by
    intro param inside
    have role : param.toRole ∈ enrolled.system.params := by
      rw [scripted]
      exact List.mem_map_of_mem inside
    exact ⟨admits.asking _ role, asked_stand formed member scripted met inside⟩
  have plays (found : List Event) (later : Situation) :
      (routine.run event).run ⟨view, output⟩ = (.ok found, later) ↔
        routine.Plays event (tuples lists) 0 ⟨view, output⟩ found later :=
    Routine.run_ok_iff formed.roster (met.sound formed enrolled.components) asked
  refine ⟨?_, fun tuple => mem_tuples_iff, tuples_ascending ?_, fun inhabited deed =>
    Deed.forEachChoice_eq deed inhabited, routine.entity?_bindings event, ?_, plays⟩
  · intro param _
    exact ⟨view.owners_ascending param.components, fun entity => View.mem_owners⟩
  · intro options inside
    obtain ⟨param, -, rfl⟩ := List.mem_map.mp inside
    exact view.owners_ascending param.components
  · intro missing
    rw [plays, tuples_eq_nil_iff.mpr missing]
    exact .done

def gaze : Routine where
  decl := ⟨"Gaze", [⟨some "one", ["Lamp"], ⟨0, 0⟩⟩, ⟨some "other", ["Lamp"], ⟨0, 0⟩⟩],
    ⟨"Tick", [], none, ⟨0, 0⟩⟩, [.emit "See" [.var "one" ⟨0, 0⟩, .var "other" ⟨0, 0⟩] ⟨0, 0⟩], ⟨0, 0⟩⟩
  source := ""
  components := ⟨[.of "Lamp" (.basic .boolean)]⟩
  events := ⟨[⟨"See", [⟨"one", ["Lamp"]⟩, ⟨"other", ["Lamp"]⟩], .record []⟩]⟩
  keys := .all
  budget := none

def gazeCatalog : Catalog := ⟨gaze.components, gaze.events, ⟨[gaze.toSystem ⟨"Tick", [], .record []⟩]⟩⟩

def gazeCommands : List Command :=
  [.create, .create, .create, .insert ⟨0⟩ (.of "Lamp" (.basic .boolean)) (.boolean true),
    .insert ⟨2⟩ (.of "Lamp" (.basic .boolean)) (.boolean false), .enroll "Gaze" gazeCatalog]

theorem gaze_played :
    let scene := (Scene.empty "stage" .standard).after gazeCommands
    let see (one other : Nat) : Event := ⟨"See", [⟨one⟩, ⟨other⟩], .empty⟩
    ∃ enrolled ∈ scene.systems, ∃ later, enrolled.system = gaze.toSystem ⟨"Tick", [], .record []⟩ ∧
      gaze.Plays ⟨"Tick", [], .empty⟩ [[⟨0⟩, ⟨0⟩], [⟨0⟩, ⟨2⟩], [⟨2⟩, ⟨0⟩], [⟨2⟩, ⟨2⟩]] 0
        ⟨⟨scene.store, scene.roster, enrolled.components⟩, #[]⟩
        [see 0 0, see 0 2, see 2 0, see 2 2] later := by
  intro scene see
  have allowed : (Scene.enroll "Gaze" gazeCatalog
      ((Scene.empty "stage" .standard).after (gazeCommands.take 5))).1 = .ok () := by
    decide +kernel
  obtain ⟨system, ids, found, systems⟩ := Scene.systems_perform_enroll allowed
  have member : ⟨system, ids⟩ ∈ scene.systems := systems ▸ List.mem_append_right _ List.mem_cons_self
  have scripted : system = gaze.toSystem ⟨"Tick", [], .record []⟩ := (Option.some.inj found).symm
  have seen : ∀ enrolled ∈ scene.systems,
      ((gaze.run ⟨"Tick", [], .empty⟩).run ⟨⟨scene.store, scene.roster, enrolled.components⟩, #[]⟩).1 =
          .ok [see 0 0, see 0 2, see 2 0, see 2 2] ∧
        tuples (gaze.decl.params.map (fun param =>
            View.owners ⟨scene.store, scene.roster, enrolled.components⟩ param.components)) =
          [[⟨0⟩, ⟨0⟩], [⟨0⟩, ⟨2⟩], [⟨2⟩, ⟨0⟩], [⟨2⟩, ⟨2⟩]] := by
    decide +kernel
  obtain ⟨ended, counted⟩ := seen _ member
  have valid : system.validate gazeCatalog.components = .ok () := by
    rw [scripted]
    decide +kernel
  obtain ⟨-, -, -, -, -, -, plays⟩ := combinations_played "stage" .standard gazeCommands gazeCatalog
    ⟨system, ids⟩ gaze _ member scripted valid scene.store .start #[] ⟨"Tick", [], .empty⟩
  have played := (plays _ _).mp (Prod.ext ended rfl)
  rw [counted] at played
  exact ⟨_, member, _, scripted, played⟩

end Script

end Stagecraft
