import Stagecraft.Proofs.Attendance

/-!
Emission: what scripts send. Every emission in a body was checked against the events that the body refers
to, and a payload is brought into the schema of its event. So an event that a script emits meets its
contract in everything but what its targets own.
-/

namespace Stagecraft

/-- An event meets its contract, apart from what its targets own. -/
structure Event.Suits (events : Registry Contract) (roster : Roster) (event : Event) : Prop where
  exists_contract : ∃ contract, events.find? event.name = some contract ∧
    event.targets.length = contract.roles.length ∧ event.payload.schema = contract.payload
  alive : ∀ target ∈ event.targets, roster.isAlive target = true

theorem Event.Suits.append {events : Registry Contract} {roster : Roster} {event : Event}
    (suits : event.Suits events roster) (more : Registry Contract) :
    event.Suits (events.append more) roster := by
  obtain ⟨contract, found, fits⟩ := suits.exists_contract
  exact ⟨⟨contract, Registry.find?_append found more, fits⟩, suits.alive⟩

theorem Behavior.safe_of_any {ε α : Type} {view : View} (behavior : Behavior ε α) :
    behavior.Safe view (fun _ => True) (fun _ => True) := by
  intro situation _
  split <;> trivial

theorem View.isAlive_of_matching {view : View} {ids : List ComponentId} {entity : Entity}
    (matched : entity ∈ view.matching ids) : view.roster.isAlive entity = true := by
  unfold matching at matched
  split at matched
  · cases matched
  · exact (Roster.mem_entities _ _).mp (List.mem_filter.mp matched).1

/-! ### Refusals -/

namespace Store

theorem bindRole_error {store : Store} {entity : Entity} {components : List String} {fault : Fault}
    (failed : store.bindRole entity components = .error fault) :
    ∃ component, fault = .missingComponent entity component := by
  have refused := congrArg (Except.map fun _ => ()) failed
  rw [bindRole_eq] at refused
  split at refused
  · next component _ =>
    cases refused
    exact ⟨component, rfl⟩
  · cases refused

/-- With enough targets, only what one of them lacks can be missing. -/
theorem bindTargets_error {store : Store} {missing fault : Fault} {roles : List Role}
    {targets : List Entity} (enough : roles.length ≤ targets.length)
    (failed : store.bindTargets missing roles targets = .error fault) :
    ∃ entity ∈ targets, ∃ component, fault = .missingComponent entity component := by
  induction roles generalizing targets with
  | nil => cases failed
  | cons role rest ih =>
    cases targets with
    | nil => cases enough
    | cons entity others =>
      rcases bind_error failed with here | ⟨refs, -, behind⟩
      · exact ⟨entity, List.mem_cons_self, bindRole_error here⟩
      · rcases bind_error behind with later | ⟨more, -, impossible⟩
        · obtain ⟨other, member, lacks⟩ := ih (Nat.le_of_succ_le_succ enough) later
          exact ⟨other, List.mem_cons_of_mem entity member, lacks⟩
        · cases impossible

end Store

/-- An event that suits is refused only for a component that a target does not have. -/
theorem Event.Suits.refused {scene : Scene} (formed : scene.roster.WellFormed)
    {events : Registry Contract} {event : Event} (suits : event.Suits events scene.roster)
    {store : Store} {fault : Fault} (failed : scene.checkEvent events store event = .error fault) :
    ∃ entity ∈ event.targets, ∃ component, fault = .missingComponent entity component := by
  obtain ⟨contract, found, length, payload⟩ := suits.exists_contract
  rw [Scene.checkEvent_eq formed events store suits.alive, found] at failed
  dsimp only at failed
  rw [if_neg (not_not.mpr payload), if_neg (Nat.not_lt.mpr length.ge)] at failed
  cases bound : store.bindRoles contract.roles event with
  | error reason =>
    rw [bound] at failed
    cases failed
    exact Store.bindTargets_error length.ge bound
  | ok refs =>
    rw [bound] at failed
    cases failed

namespace Script

/-! ### The emissions of a body -/

mutual

def Stmt.emissions : Stmt → List (String × List Expr)
  | .assign _ _ _ => []
  | .declare _ _ _ _ => []
  | .expr _ => []
  | .branch _ yes no _ => Stmt.emissionsAll yes ++ Stmt.emissionsAll no
  | .loop _ body _ => Stmt.emissionsAll body
  | .emit event args _ => [(event, args)]
termination_by structural stmt => stmt

def Stmt.emissionsAll : List Stmt → List (String × List Expr)
  | [] => []
  | stmt :: rest => Stmt.emissions stmt ++ Stmt.emissionsAll rest
termination_by structural stmts => stmts

end

def Scope.Checks (scope : Scope) (emission : String × List Expr) : Prop :=
  ∃ locals, scope.checkEmit locals emission.1 emission.2 = .ok ()

mutual

theorem checkStmt_emissions {scope : Scope} : (stmt : Stmt) → {locals later : List String} →
    scope.checkStmt locals stmt = .ok later → ∀ emission ∈ stmt.emissions, scope.Checks emission
  | .assign _ _ _, _, _, _ => nofun
  | .declare _ _ _ _, _, _, _ => nofun
  | .expr _, _, _, _ => nofun
  | .branch _ yes no _, _, _, checked => by
    obtain ⟨_, -, others⟩ := bind_ok checked
    obtain ⟨middle, first, second⟩ := bind_ok others
    rw [Stmt.emissions, List.forall_mem_append]
    exact ⟨checkBlock_emissions yes first, checkBlock_emissions no second⟩
  | .loop _ body _, _, _, checked => by
    obtain ⟨_, -, repeated⟩ := bind_ok checked
    rw [Stmt.emissions]
    exact checkBlock_emissions body repeated
  | .emit _ _ _, locals, _, checked => by
    obtain ⟨_, emitted, -⟩ := bind_ok checked
    rw [Stmt.emissions, List.forall_mem_singleton]
    exact ⟨locals, emitted⟩
termination_by structural stmt => stmt

theorem checkBlock_emissions {scope : Scope} : (stmts : List Stmt) → {locals later : List String} →
    scope.checkBlock locals stmts = .ok later →
      ∀ emission ∈ Stmt.emissionsAll stmts, scope.Checks emission
  | [], _, _, _ => nofun
  | stmt :: rest, _, _, checked => by
    obtain ⟨middle, first, others⟩ := bind_ok checked
    rw [Stmt.emissionsAll, List.forall_mem_append]
    exact ⟨checkStmt_emissions stmt first, checkBlock_emissions rest others⟩
termination_by structural stmts => stmts

end

/-! ### What a run emits -/

variable {view : View} {fits : Event → Prop}

def Emitted (fits : Event → Prop) (progress : Progress) : Prop := ∀ event ∈ progress.emitted, fits event

def Run.Emits {α : Type} (view : View) (fits : Event → Prop) (run : Run α) : Prop :=
  run.Safe view (fun _ => True) (Emitted fits) (fun _ => True)

namespace Run.Emits

variable {α β : Type}

theorem bind {run : Run α} {next : α → Run β} (first : run.Emits view fits)
    (second : ∀ result, (next result).Emits view fits) : Run.Emits view fits (run >>= next) :=
  Run.Safe.bind first (fun result _ => second result)

theorem fail (fault : Fault) : (Run.fail fault : Run α).Emits view fits := Run.Safe.fail trivial

theorem lift (behavior : Behavior Fault α) : Run.Emits view fits (liftM behavior) :=
  Run.Safe.lift behavior.safe_of_any

end Run.Emits

section

variable {bindings : Bindings}

theorem step_emits : bindings.step.Emits view fits := by
  apply Run.Safe.bind Run.Safe.get
  intro progress before
  split
  · exact .fail trivial
  · exact .bind (.put before) (fun _ _ => Run.Emits.lift _)

theorem evalHere_emits (expr : Expr) : (bindings.evalHere expr).Emits view fits :=
  Run.Safe.bind Run.Safe.get (fun _ _ => Run.Emits.lift _)

theorem setLocal_emits (name : String) (value : Value) : (Bindings.setLocal name value).Emits view fits :=
  Run.Safe.update (fun _ before => before)

theorem assign_emits (target : Place) (value : Value) : (bindings.assign target value).Emits view fits := by
  unfold Bindings.assign
  split
  · split
    · exact .fail _
    · exact .lift _
  · apply Run.Safe.bind Run.Safe.get
    intro progress _
    split
    · exact Run.Emits.bind (.lift _) (fun _ => setLocal_emits _ _)
    · split
      · exact setLocal_emits _ _
      · exact .fail trivial

theorem condition_emits (expr : Expr) : Run.Emits view fits (do
    let value ← bindings.evalHere expr
    liftM (Behavior.ofExcept (Bindings.asCondition value))) :=
  .bind (evalHere_emits expr) (fun _ => .lift _)

theorem repeatWhile_emits {condition : Run Bool} {body : Run Unit} (asked : condition.Emits view fits)
    (repeated : body.Emits view fits) (rounds : Nat) :
    (bindings.repeatWhile condition body rounds).Emits view fits := by
  induction rounds with
  | zero => exact .fail _
  | succ rounds ih =>
    apply Run.Emits.bind asked
    intro holds
    cases holds with
    | false => exact Run.Safe.pure trivial
    | true => exact .bind repeated (fun _ => .bind step_emits (fun _ => ih))

theorem length_of_mapM {α β : Type} {step : α → Option β} {members : List α} {results : List β}
    (stepped : members.mapM step = some results) : results.length = members.length := by
  induction members generalizing results with
  | nil =>
    cases stepped
    rfl
  | cons member rest ih =>
    rw [List.mapM_cons, Option.bind_eq_bind, Option.bind_eq_some_iff] at stepped
    obtain ⟨result, -, others⟩ := stepped
    rw [Option.bind_eq_bind, Option.bind_eq_some_iff] at others
    obtain ⟨behind, remaining, same⟩ := others
    cases same
    rw [List.length_cons, List.length_cons, ih remaining]

/-- An emission that was checked names an entity for every role, and its payload is brought into the schema
of the event. -/
theorem emit_emits (living : bindings.Living view) {scope : Scope}
    (same : bindings.routine.events = scope.events) {emission : String × List Expr}
    (checks : scope.Checks emission) :
    (bindings.emit emission.1 emission.2).Emits view
      (fun event => event.Suits bindings.routine.events view.roster) := by
  obtain ⟨event, args⟩ := emission
  obtain ⟨locals, checked⟩ := checks
  unfold Scope.checkEmit at checked
  unfold Bindings.emit
  rw [same]
  cases found : scope.events.find? event with
  | none => exact .fail _
  | some contract =>
    rw [found] at checked
    dsimp only at checked ⊢
    split at checked
    · cases checked
    · next count =>
      split at checked
      · cases checked
      · cases named : (args.take contract.roles.length).mapM bindings.target? with
        | none => exact .fail _
        | some targets =>
          have length : targets.length = contract.roles.length := by
            rw [length_of_mapM named, List.length_take]
            omega
          have recorded (payload : Value) (typed : payload.schema = contract.payload) :
              Run.Emits view (fun event => event.Suits scope.events view.roster)
                (modify fun progress : Progress =>
                  { progress with emitted := progress.emitted.push ⟨event, targets, payload⟩ }) := by
            apply Run.Safe.update
            intro progress before emitted member
            rcases Array.mem_push.mp member with earlier | rfl
            · exact before emitted earlier
            · exact ⟨⟨contract, found, length, typed⟩, living.targets named⟩
          dsimp only
          split at checked
          · next payload given =>
            rw [given]
            apply Run.Emits.bind (evalHere_emits payload)
            intro value
            have coerced : (Behavior.ofExcept (coerce event value contract.payload)).Safe view
                (fun _ => True) (fun payload => payload.schema = contract.payload) :=
              .ofExcept (fun _ => coerce_schema) (fun _ _ => trivial)
            exact Run.Safe.bind (.lift coerced) (fun payload => recorded payload)
          · next nothing =>
            rw [nothing]
            split at checked
            · next empty => exact recorded .empty empty.symm
            · cases checked

mutual

/-- A statement emits by its emissions alone. -/
theorem exec_emits : (stmt : Stmt) →
    (∀ emission ∈ stmt.emissions, (bindings.emit emission.1 emission.2).Emits view fits) →
      (bindings.exec stmt).Emits view fits
  | .assign target value _, _ =>
    .bind step_emits (fun _ => .bind (evalHere_emits value) (fun _ => assign_emits target _))
  | .declare _ name value _, _ =>
    .bind step_emits (fun _ => .bind (.lift _) (fun _ => .bind (evalHere_emits value)
      (fun _ => .bind (.lift _) (fun _ => setLocal_emits name _))))
  | .expr value, _ =>
    .bind step_emits (fun _ => .bind (evalHere_emits value) (fun _ => Run.Safe.pure trivial))
  | .branch condition yes no _, emits => by
    rw [Stmt.emissions, List.forall_mem_append] at emits
    refine .bind step_emits (fun _ => .bind (evalHere_emits condition) (fun _ => .bind (.lift _) ?_))
    intro holds
    cases holds with
    | false => exact execBlock_emits no emits.2
    | true => exact execBlock_emits yes emits.1
  | .loop condition body _, emits => by
    rw [Stmt.emissions] at emits
    exact .bind step_emits (fun _ => Run.Safe.bind Run.Safe.get
      (fun _ _ => repeatWhile_emits (condition_emits condition) (execBlock_emits body emits) _))
  | .emit event args _, emits => by
    rw [Stmt.emissions, List.forall_mem_singleton] at emits
    exact .bind step_emits (fun _ => emits)
termination_by structural stmt => stmt

theorem execBlock_emits : (stmts : List Stmt) →
    (∀ emission ∈ Stmt.emissionsAll stmts, (bindings.emit emission.1 emission.2).Emits view fits) →
      (bindings.execBlock stmts).Emits view fits
  | [], _ => Run.Safe.pure trivial
  | stmt :: rest, emits => by
    rw [Stmt.emissionsAll, List.forall_mem_append] at emits
    exact .bind (exec_emits stmt emits.1) (fun _ => execBlock_emits rest emits.2)
termination_by structural stmts => stmts

end

end

/-! ### Whole runs -/

namespace Routine

variable {routine : Routine}

theorem candidates_alive (params : List RoleDecl) :
    (routine.candidates params).Safe view (fun _ => True) (fun answer => ∀ lists, answer = some lists →
      List.Forall₂ (fun _ options => ∀ entity ∈ options, view.roster.isAlive entity = true) params
        lists) := by
  induction params with
  | nil =>
    apply Behavior.Safe.pure
    rintro _ ⟨⟩
    exact .nil
  | cons param rest ih =>
    apply Behavior.Safe.bind (Behavior.safe_of_any _)
    intro ids _
    apply Behavior.Safe.bind (Behavior.matching_safe ids)
    rintro entities rfl
    split
    · exact .pure nofun
    · apply Behavior.Safe.bind ih
      intro others alive
      apply Behavior.Safe.pure
      intro lists same
      obtain ⟨remaining, rfl, rfl⟩ := Option.map_eq_some_iff.mp same
      exact .cons (fun _ => View.isAlive_of_matching) (alive remaining rfl)

/-- What a checked routine emits suits the events that it refers to. -/
theorem run_emits (checked : routine.decl.check routine.components routine.events routine.source =
      .ok ()) {event : Event}
    (targets : ∀ target ∈ event.targets, view.roster.isAlive target = true) :
    (routine.run event).Safe view (fun _ => True)
      (fun found => ∀ emitted ∈ found, emitted.Suits routine.events view.roster) := by
  obtain ⟨entities, locals, later, -, -, body⟩ := SystemDecl.check_ok checked
  apply Behavior.Safe.bind (candidates_alive routine.decl.params)
  intro answer alive
  cases answer with
  | none => exact .pure nofun
  | some lists =>
    have acts (tuple : List Entity)
        (meets : List.Forall₂ (fun _ entity => view.roster.isAlive entity = true) ([] ++ routine.decl.params)
          tuple) :
        (routine.runOn event tuple).Emits view (fun event => event.Suits routine.events view.roster) := by
      have living : (routine.bindings event tuple).Living view :=
        bindings_living targets (fun entity member => (exists_member_of_forall₂ meets member).elim
          fun _ fits => fits.2)
      refine Run.Emits.bind (Run.Safe.update fun _ before => before) fun _ => ?_
      apply execBlock_emits routine.decl.body
      intro emission member
      exact emit_emits living rfl (checkBlock_emissions routine.decl.body body emission member)
    have all := forEachTuple_safe (routine.runOn event) (alive lists rfl) [] [] .nil acts
    refine Behavior.Safe.bind (all ⟨[], #[], 0⟩ nofun) fun outcome emitted => ?_
    exact .pure (fun event member => emitted.2 event (Array.mem_toList_iff.mp member))

end Routine

/-! ### Loaded systems -/

section

variable {settings : Settings} {source : String} {catalog next : Catalog} {system : System}

theorem events_loadSystems {decls : List SystemDecl} {contracts : List Contract}
    (length : decls.length = contracts.length)
    (listed : ∀ contract ∈ contracts, catalog.events.contains contract.name = true)
    (loaded : loadSystems settings source decls contracts catalog = .ok next) :
    next.events = catalog.events := by
  obtain ⟨more, grows, names⟩ := loadSystems_gains length listed loaded
  have none : more.events.entries = [] := List.map_eq_nil_iff.mp (congrArg Summary.events names)
  rw [grows.after]
  change catalog.events.append more.events = catalog.events
  rw [Registry.append, none, List.append_nil]

structure CheckedAgainst (settings : Settings) (source : String) (events : Registry Contract)
    (system : System) : Prop where
  exists_routine : ∃ (decl : SystemDecl) (catalog : Catalog) (contract : Contract),
    decl.check catalog.components events source = .ok () ∧ catalog.events = events ∧
    system = (settings.routine source catalog decl).toSystem contract

/-- All systems of a script are checked against the same events: those that the script leaves behind. -/
theorem loadSystems_checkedAgainst {decls : List SystemDecl} {contracts : List Contract}
    (length : decls.length = contracts.length)
    (listed : ∀ contract ∈ contracts, catalog.events.contains contract.name = true)
    (loaded : loadSystems settings source decls contracts catalog = .ok next)
    (member : system ∈ next.systems.entries) :
    system ∈ catalog.systems.entries ∨ CheckedAgainst settings source next.events system := by
  induction decls generalizing catalog contracts with
  | nil =>
    cases loaded
    exact .inl member
  | cons decl rest ih =>
    cases contracts with
    | nil => cases length
    | cons contract others =>
      have events := events_loadSystems length listed loaded
      obtain ⟨_, checked, remaining⟩ := bind_ok loaded
      obtain ⟨middle, declared, last⟩ := bind_ok remaining
      have kept : ∀ contract ∈ others, middle.events.contains contract.name = true := by
        rw [(Catalog.declareSystem_grows (mapError_ok declared)).after]
        exact fun other behind => Registry.contains_append (listed other (List.mem_cons_of_mem _ behind)) _
      rcases ih (Nat.succ_inj.mp length) kept last with before | found
      · rcases Catalog.mem_systems_declareSystem (mapError_ok declared) before with rfl | earlier
        · exact .inr ⟨decl, catalog, contract, events ▸ checked, events.symm, rfl⟩
        · exact .inl earlier
      · exact .inr found

theorem load_checkedAgainst {before after : Catalog} {summary : Summary}
    (loaded : load settings source before = .ok (summary, after))
    (put : system ∈ after.systems.entries) (new : system ∉ before.systems.entries) :
    CheckedAgainst settings source after.events system := by
  obtain ⟨tree, -, loadedTree⟩ := load_ok loaded
  obtain ⟨components, events, introduced, contracts, listening, first, second, third, fourth, -⟩ :=
    loadTree_ok loadedTree
  obtain ⟨systems, roles⟩ := loadListeners_ok third
  obtain ⟨-, listed⟩ := loadListeners_gains third
  refine (loadSystems_checkedAgainst roles.length_eq listed fourth put).resolve_left ?_
  rw [systems, systems_loadEvents second, systems_loadComponents first]
  exact new

theorem CheckedAgainst.suits {events : Registry Contract} {scene : Scene} {enrolled : Enrolled}
    (checked : CheckedAgainst settings source events enrolled.system) (wellFormed : scene.WellFormed)
    {store : Store} (met : scene.Meets store) {event : Event} (reaches : scene.Reaches event)
    {output : Array Output} {found : List Event}
    (ended : (scene.invoke enrolled event store output).1 = .ok found) :
    ∀ emitted ∈ found, emitted.Suits events scene.roster := by
  obtain ⟨decl, catalog, contract, fine, rfl, same⟩ := checked.exists_routine
  have safe : ((settings.routine source catalog decl).run event).Safe
      ⟨store, scene.roster, enrolled.components⟩ (fun _ => True)
      (fun found => ∀ emitted ∈ found, emitted.Suits catalog.events scene.roster) :=
    Routine.run_emits fine reaches
  rw [Scene.invoke_eq, same] at ended
  cases bound : store.bindRoles ((settings.routine source catalog decl).toSystem contract).roles event with
  | error fault =>
    rw [bound] at ended
    cases ended
  | ok refs =>
    rw [bound] at ended
    have finished := safe ⟨_, output⟩ (.refl (met.rewrites wellFormed.store).2)
    change (Except.mapError _ (Behavior.run (Behavior.mapReason Cause.script _) _).1) = _ at ended
    rw [Behavior.run_mapReason] at ended
    split at finished
    · next ran =>
      rw [ran] at ended
      cases ended
      exact finished
    · next ran =>
      rw [ran] at ended
      cases ended

end

end Script

namespace Scene

variable {scene : Scene} {events : Registry Contract} {event : Event}

/-- An event is delivered only to entities that are alive. -/
theorem reaches_of_checkEvent (formed : scene.roster.WellFormed) {store : Store}
    (accepted : scene.checkEvent events store event = .ok ()) : scene.Reaches event := by
  obtain ⟨alive, -⟩ := checkEvent_ok accepted
  unfold Reaches
  generalize event.targets = targets at alive
  induction targets with
  | nil => exact nofun
  | cons target rest ih =>
    obtain ⟨_, here, others⟩ := bind_ok alive
    exact List.forall_mem_cons.mpr ⟨(Roster.checkAlive_ok_iff formed).mp here, ih others⟩

/-- What a system of a catalog emits in a scene, and what becomes of it when more is registered. -/
structure Emits (scene : Scene) (catalog : Catalog) (enrolled : Enrolled) : Prop where
  /-- In every run of its body for an event whose targets are alive, as those of all that is delivered are,
  each event that it emits suits the events of the catalog. -/
  suits : ∀ store, scene.Meets store → ∀ event, scene.Reaches event → ∀ output found,
    (scene.invoke enrolled event store output).1 = .ok found →
      ∀ emitted ∈ found, emitted.Suits catalog.events scene.roster
  /-- However much later it has its turn, an event that it emits is refused only for a component that a
  target does not have. -/
  refused : ∀ registrations event report,
    let events := (catalog.after registrations).events
    Report.ofResult? (scene.dispatch events event).result = some report →
      ∃ count, scene.Follows events event (scene.dispatch events event) count ∧
        report = (scene.course events event count).report ∧
        ∀ handing ∈ (scene.course events event count).handings, handing.enrolled = enrolled →
          ∀ emitted ∈ handing.followUps, ∀ fault,
            .passed emitted fault ∈ (scene.course events event count).turns →
              ∃ target ∈ emitted.targets, ∃ component, fault = .missingComponent target component

end Scene

namespace Script

/-- A system of a script that was loaded into any catalog: in any scene that a host can have, and whatever is
registered later, its events meet their contracts in all but what their targets own. -/
theorem loaded_emits (settings : Settings) (source : String) (before after : Catalog) (summary : Summary)
    (loaded : load settings source before = .ok (summary, after)) (title : String) (limits : Limits)
    (commands : List Command) (enrolled : Enrolled)
    (put : enrolled.system ∈ after.systems.entries) (new : enrolled.system ∉ before.systems.entries) :
    ((Scene.empty title limits).after commands).Emits after enrolled := by
  have wellFormed := Scene.after_wellFormed title limits commands
  generalize (Scene.empty title limits).after commands = scene at wellFormed
  have checked := load_checkedAgainst loaded put new
  refine ⟨fun store met event reaches output found => checked.suits wellFormed met reaches, ?_⟩
  intro registrations event report events recorded
  obtain ⟨-, count, follows, same⟩ := Scene.dispatch_recorded recorded
  refine ⟨count, follows, same, ?_⟩
  rintro handing member rfl emitted found fault passed
  obtain ⟨-, taken⟩ := scene.course_taken events event count
  obtain ⟨turn, inside, handed⟩ := List.mem_flatMap.mp member
  obtain ⟨delivered, -, -, store, output, met, result⟩ := (taken turn inside).handed wellFormed handing handed
  have suits : emitted.Suits after.events scene.roster := by
    unfold Handing.followUps at found
    split at found
    · next ended =>
      exact checked.suits wellFormed met (Scene.reaches_of_checkEvent wellFormed.roster delivered)
        (result.symm.trans ended) emitted found
    · cases found
  have later : emitted.Suits events scene.roster := by
    obtain ⟨more, grown⟩ := after.after_grows registrations
    change emitted.Suits (after.after registrations).events scene.roster
    rw [grown]
    exact suits.append more.events
  obtain ⟨_, _, same, refused⟩ | ⟨_, _, _, same, -⟩ :=
    (taken _ passed).passed_or_delivered wellFormed <;> cases same
  exact later.refused wellFormed.roster refused

/-! ### A fuse -/

def glowScript : String :=
  "component Lamp\n\tBoolean lit\ncomponent Fuse\n\tBoolean whole\n" ++
    "event Glow(lamp<Lamp, Fuse>, Optional<Number> level)\n" ++
    "system Light(lamp<Lamp>) event Tick()\n\temit Glow(lamp, 4)\n"

def glowCatalog : Catalog :=
  match load .standard glowScript .empty with
  | .ok (_, after) => after
  | .error _ => .empty

def glowCommands : List Command :=
  [.create, .insert ⟨0⟩ (.of "Lamp" (.record [("lit", .basic .boolean)]))
    (.record [("lit", .boolean true)]), .enroll "Light" glowCatalog]

theorem glow_emits :
    let scene := (Scene.empty "stage" .standard).after glowCommands
    let tick : Event := ⟨"Tick", [], .empty⟩
    (∃ summary, load .standard glowScript .empty = .ok (summary, glowCatalog)) ∧
      (scene.dispatch glowCatalog.events tick).result =
        .ok ⟨#[tick], 1, #[.refused (.missingComponent ⟨0⟩ "Fuse")]⟩ ∧
      scene.systems ≠ [] ∧ ∀ enrolled ∈ scene.systems,
        enrolled.system ∈ glowCatalog.systems.entries ∧
        enrolled.system ∉ Catalog.empty.systems.entries ∧ scene.Emits glowCatalog enrolled := by
  intro scene tick
  obtain ⟨succeeded, result, present⟩ : (load .standard glowScript .empty).isOk = true ∧
      (scene.dispatch glowCatalog.events tick).result =
        .ok ⟨#[tick], 1, #[.refused (.missingComponent ⟨0⟩ "Fuse")]⟩ ∧
      scene.systems.isEmpty = false := by
    decide +kernel
  obtain ⟨summary, loaded⟩ :
      ∃ summary, load .standard glowScript .empty = .ok (summary, glowCatalog) := by
    obtain ⟨⟨summary, after⟩, loads⟩ := exists_ok_of_isOk succeeded
    refine ⟨summary, ?_⟩
    unfold glowCatalog
    rw [loads]
  refine ⟨⟨summary, loaded⟩, result, List.isEmpty_eq_false_iff.mp present, fun enrolled member => ?_⟩
  rcases Scene.after_offered glowCommands (Scene.empty_wellFormed _ _) member with
    nobody | ⟨name, catalog, asked, put⟩
  · cases nobody
  · simp only [glowCommands, List.mem_cons, List.not_mem_nil, reduceCtorEq, Command.enroll.injEq, or_false,
      false_or] at asked
    obtain ⟨-, rfl⟩ := asked
    exact ⟨put, List.not_mem_nil, loaded_emits _ _ _ _ _ loaded _ _ _ enrolled put List.not_mem_nil⟩

end Script

end Stagecraft
