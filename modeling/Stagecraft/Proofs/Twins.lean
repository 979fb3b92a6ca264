import Stagecraft.Proofs.Cascade
import Stagecraft.Proofs.Script.Mirroring

/-!
Twins: two scenes, one of which has copies of the entities of the other. Their systems are the same and come
from scripts. An event to some entities then goes the same way as the event to their copies, through every
event that follows, and it leaves the copies with the values of their originals.
-/

namespace Stagecraft

/-! ### Reports about copies -/

def Cause.rename (place : Entity → Entity) : Cause → Cause
  | script fault => script (fault.rename place)
  | scene fault => scene (fault.rename place)
  | host message => host message

def Failure.rename (place : Entity → Entity) : Failure → Failure
  | refused fault => refused (fault.rename place)
  | system name cause => system name (cause.rename place)

def Report.rename (place : Entity → Entity) (report : Report) : Report where
  dispatched := report.dispatched.map (Event.rename place)
  invocations := report.invocations
  failures := report.failures.map (Failure.rename place)

def DispatchFault.rename (place : Entity → Entity) : DispatchFault → DispatchFault
  | rejected fault => rejected (fault.rename place)
  | tooDeep event max report => tooDeep event max (report.rename place)
  | overflow max report => overflow max (report.rename place)

theorem Report.rename_fail (place : Entity → Entity) (report : Report) (failure : Failure) :
    (report.fail failure).rename place = (report.rename place).fail (failure.rename place) := by
  simp [rename, fail]

def Pending.rename (place : Entity → Entity) (pending : Pending) : Pending :=
  { pending with event := pending.event.rename place }

def System.Scripted (system : System) : Prop :=
  ∃ routine : Script.Routine,
    ∀ bound, system.body bound = (routine.run bound.event).mapReason .script

/-! ### Roles -/

namespace Store

theorem bindRole_cons (store : Store) (entity : Entity) (name : String) (rest : List String) :
    store.bindRole entity (name :: rest) =
      match (store.componentId? name).filter (fun id => store.contains entity id) with
      | some id => (store.bindRole entity rest).map (⟨entity, id⟩ :: ·)
      | none => .error (.missingComponent entity name) := by
  unfold bindRole
  rw [List.mapM_cons]
  cases (store.componentId? name).filter (fun id => store.contains entity id) <;> rfl

/-- A role is refused for the first component that the entity does not have. -/
theorem bindRole_eq (store : Store) (entity : Entity) (components : List String) :
    (store.bindRole entity components).map (fun _ => ()) =
      match components.find? (fun name => (store.valueOf entity name).isNone) with
      | some name => .error (.missingComponent entity name)
      | none => .ok () := by
  induction components with
  | nil => rfl
  | cons name rest ih =>
    have owns : (store.valueOf entity name).isNone =
        ((store.componentId? name).filter (fun id => store.contains entity id)).isNone := by
      rw [valueOf]
      cases store.componentId? name with
      | none => rfl
      | some id =>
        rw [Option.bind_some, Option.filter_some, contains]
        cases store.get? entity id <;> rfl
    rw [bindRole_cons, List.find?_cons, owns]
    split
    · next id found =>
      rw [found]
      dsimp only [Option.isNone_some]
      rw [← ih]
      cases store.bindRole entity rest <;> rfl
    · next absent =>
      rw [absent]
      rfl

end Store

namespace Scene

structure Abreast (place : Entity → Entity) (scene copy : Scene) (store storeCopy : Store) : Prop where
  rewrites : scene.store.Rewrites store
  rewritesCopy : copy.store.Rewrites storeCopy
  formed : store.WellFormed
  formedCopy : storeCopy.WellFormed
  valueOf : ∀ entity, scene.roster.isAlive entity = true → ∀ name,
    storeCopy.valueOf (place entity) name = store.valueOf entity name

def viewOf (scene : Scene) (enrolled : Enrolled) : View :=
  ⟨scene.store, scene.roster, enrolled.components⟩

structure SameSystem (scene copy : Scene) (enrolled enrolledCopy : Enrolled) : Prop where
  system : enrolledCopy.system = enrolled.system
  scripted : enrolled.system.Scripted
  schema? : ∀ name, (copy.viewOf enrolledCopy).schema? name = (scene.viewOf enrolled).schema? name

/-- One scene has copies of the entities of the other, in their order and with their values, and the same
systems in their order. -/
structure Twins (place : Entity → Entity) (scene copy : Scene) : Prop where
  formed : scene.WellFormed
  formedCopy : copy.WellFormed
  limits : copy.limits = scene.limits
  entities : copy.roster.entities = scene.roster.entities.map place
  systems : List.Forall₂ (scene.SameSystem copy) scene.systems copy.systems
  valueOf : ∀ entity, scene.roster.isAlive entity = true → ∀ name,
    copy.store.valueOf (place entity) name = scene.store.valueOf entity name

variable {place : Entity → Entity} {scene copy : Scene} {store storeCopy : Store}

def Reaches (scene : Scene) (event : Event) : Prop :=
  ∀ target ∈ event.targets, scene.roster.isAlive target = true

theorem Twins.isAlive (twins : scene.Twins place copy) {entity : Entity}
    (alive : scene.roster.isAlive entity = true) : copy.roster.isAlive (place entity) = true := by
  rw [← Roster.mem_entities, twins.entities]
  exact List.mem_map_of_mem ((Roster.mem_entities _ _).mpr alive)

/-! ### What is asked of an event -/

theorem Abreast.bindRole (abreast : scene.Abreast place copy store storeCopy) {entity : Entity}
    (alive : scene.roster.isAlive entity = true) (components : List String) :
    (storeCopy.bindRole (place entity) components).map (fun _ => ()) =
      ((store.bindRole entity components).map (fun _ => ())).mapError (Fault.rename place) := by
  rw [Store.bindRole_eq, Store.bindRole_eq]
  simp only [abreast.valueOf entity alive]
  split <;> rfl

theorem Abreast.bindTargets (abreast : scene.Abreast place copy store storeCopy) (missing : Fault)
    (roles : List Role) {targets : List Entity}
    (alive : ∀ target ∈ targets, scene.roster.isAlive target = true) :
    (storeCopy.bindTargets (missing.rename place) roles (targets.map place)).map (fun _ => ()) =
      ((store.bindTargets missing roles targets).map (fun _ => ())).mapError
        (Fault.rename place) := by
  induction roles generalizing targets with
  | nil => rfl
  | cons role rest ih =>
    cases targets with
    | nil => rfl
    | cons entity others =>
      obtain ⟨here, behind⟩ := List.forall_mem_cons.mp alive
      have first := abreast.bindRole here role.components
      have remaining := ih behind
      rw [List.map_cons]
      unfold Store.bindTargets
      rcases one : store.bindRole entity role.components with fault | refs <;>
        rcases other : storeCopy.bindRole (place entity) role.components with faultCopy | refsCopy <;>
        rw [one, other] at first <;> cases first
      · rfl
      · dsimp only [bind, Except.bind]
        rcases tail : store.bindTargets missing rest others with fault | more <;>
          rcases tailCopy : storeCopy.bindTargets (missing.rename place) rest (others.map place) with
            faultCopy | moreCopy <;>
          rw [tail, tailCopy] at remaining <;> cases remaining <;> rfl

theorem Abreast.bindRoles (abreast : scene.Abreast place copy store storeCopy) (roles : List Role)
    {event : Event} (reaches : scene.Reaches event) :
    (storeCopy.bindRoles roles (event.rename place)).map (fun _ => ()) =
      ((store.bindRoles roles event).map (fun _ => ())).mapError (Fault.rename place) := by
  unfold Store.bindRoles Event.rename
  rw [List.length_map]
  exact abreast.bindTargets (.missingTargets event.name roles.length event.targets.length) roles reaches

/-- What is asked of an event whose targets are alive: its payload, and what its roles ask for. -/
theorem checkEvent_eq (formed : scene.roster.WellFormed) (events : Registry Contract) (store : Store)
    {event : Event} (reaches : scene.Reaches event) :
    scene.checkEvent events store event = match events.find? event.name with
      | none => .error (.unregisteredEvent event.name)
      | some contract =>
        if event.payload.schema ≠ contract.payload then
          .error (.payloadType event.name contract.payload event.payload.schema)
        else if event.targets.length < contract.roles.length then
          .error (.missingTargets event.name contract.roles.length event.targets.length)
        else (store.bindRoles contract.roles event).map (fun _ => ()) := by
  have alive : event.targets.forM scene.roster.checkAlive = .ok () := by
    unfold Reaches at reaches
    generalize event.targets = targets at reaches
    induction targets with
    | nil => rfl
    | cons target rest ih =>
      obtain ⟨here, behind⟩ := List.forall_mem_cons.mp reaches
      change (scene.roster.checkAlive target >>= fun _ => rest.forM scene.roster.checkAlive) = .ok ()
      rw [(Roster.checkAlive_ok_iff formed).mpr here, ih behind]
      rfl
  unfold checkEvent
  rw [alive]
  cases events.find? event.name with
  | none => rfl
  | some contract =>
    dsimp only
    split
    · rfl
    · split
      · rfl
      · cases store.bindRoles contract.roles event <;> rfl

theorem Twins.reaches_rename (twins : scene.Twins place copy) {event : Event}
    (reaches : scene.Reaches event) : copy.Reaches (event.rename place) := by
  intro target member
  obtain ⟨original, inside, rfl⟩ := List.mem_map.mp member
  exact twins.isAlive (reaches original inside)

theorem Twins.checkEvent (twins : scene.Twins place copy)
    (abreast : scene.Abreast place copy store storeCopy) (events : Registry Contract)
    {event : Event} (reaches : scene.Reaches event) :
    copy.checkEvent events storeCopy (event.rename place) =
      (scene.checkEvent events store event).mapError (Fault.rename place) := by
  have name : (event.rename place).name = event.name := rfl
  have payload : (event.rename place).payload = event.payload := rfl
  have length : (event.rename place).targets.length = event.targets.length := List.length_map _
  rw [checkEvent_eq twins.formedCopy.roster events storeCopy (twins.reaches_rename reaches),
    checkEvent_eq twins.formed.roster events store reaches, name, payload, length]
  cases events.find? event.name with
  | none => rfl
  | some contract =>
    dsimp only
    rw [abreast.bindRoles contract.roles reaches]
    split
    · rfl
    · split <;> rfl

/-! ### Systems -/

theorem Twins.viewOf (twins : scene.Twins place copy) {enrolled enrolledCopy : Enrolled}
    (same : scene.SameSystem copy enrolled enrolledCopy) :
    View.Twins place (scene.viewOf enrolled) (copy.viewOf enrolledCopy) where
  formed := twins.formed.roster
  formedCopy := twins.formedCopy.roster
  sound := ⟨twins.formed.store, twins.formed.owned⟩
  soundCopy := ⟨twins.formedCopy.store, twins.formedCopy.owned⟩
  entities := twins.entities
  schema? := same.schema?

theorem Twins.run (twins : scene.Twins place copy)
    (abreast : scene.Abreast place copy store storeCopy) {enrolled enrolledCopy : Enrolled}
    (same : scene.SameSystem copy enrolled enrolledCopy) (routine : Script.Routine) {event : Event}
    (reaches : scene.Reaches event) (output : Array Output) :
    let ended := (routine.run event).run
      ⟨⟨store, scene.roster, enrolled.components⟩, output⟩
    let endedCopy := (routine.run (event.rename place)).run
      ⟨⟨storeCopy, copy.roster, enrolledCopy.components⟩, output⟩
    Script.Matched place (fun found image => image = found.map (Event.rename place) ∧
        ∀ later ∈ found, scene.Reaches later) ended.1 endedCopy.1 ∧
      scene.Abreast place copy ended.2.view.store endedCopy.2.view.store ∧
      endedCopy.2.output = ended.2.output := by
  have begun : Situation.Mirrors place (scene.viewOf enrolled) (copy.viewOf enrolledCopy)
      ⟨⟨store, scene.roster, enrolled.components⟩, output⟩
      ⟨⟨storeCopy, copy.roster, enrolledCopy.components⟩, output⟩ :=
    ⟨⟨rfl, rfl, abreast.rewrites, abreast.formed⟩,
      ⟨rfl, rfl, abreast.rewritesCopy, abreast.formedCopy⟩, abreast.valueOf, rfl⟩
  obtain ⟨matched, mirrors⟩ :=
    Script.Routine.run_mirrors (twins.viewOf same) reaches _ _ begun
  exact ⟨matched, ⟨mirrors.evolves.rewrites, mirrors.evolvesCopy.rewrites,
    mirrors.evolves.wellFormed, mirrors.evolvesCopy.wellFormed, mirrors.valueOf⟩, mirrors.output⟩

/-- A system acts on an event to copies as it acts on the event to the originals. -/
theorem Twins.invoke (twins : scene.Twins place copy)
    (abreast : scene.Abreast place copy store storeCopy) {enrolled enrolledCopy : Enrolled}
    (same : scene.SameSystem copy enrolled enrolledCopy) {event : Event}
    (reaches : scene.Reaches event) {output later : Array Output} {next : Store}
    {result : Except Failure (List Event)}
    (ran : scene.invoke enrolled event store output = (result, next, later)) :
    ∃ nextCopy, copy.invoke enrolledCopy (event.rename place) storeCopy output =
        ((result.map (List.map (Event.rename place))).mapError (Failure.rename place), nextCopy,
          later) ∧
      scene.Abreast place copy next nextCopy ∧
      ∀ found, result = .ok found → ∀ later ∈ found, scene.Reaches later := by
  have bound := abreast.bindRoles enrolled.system.roles reaches
  unfold Scene.invoke at ran ⊢
  rw [same.system]
  rcases one : store.bindRoles enrolled.system.roles event with fault | roles <;>
    rcases other : storeCopy.bindRoles enrolled.system.roles (event.rename place) with
      faultCopy | rolesCopy <;>
    rw [one, other] at bound <;> cases bound
  · rw [one] at ran
    cases ran
    exact ⟨storeCopy, rfl, abreast, nofun⟩
  · obtain ⟨routine, body⟩ := same.scripted
    rw [one] at ran
    dsimp only at ran ⊢
    rw [body, Behavior.run_mapReason] at ran ⊢
    obtain ⟨matched, stores, printed⟩ := twins.run abreast same routine reaches output
    rcases first : (routine.run event).run ⟨⟨store, scene.roster, enrolled.components⟩, output⟩ with
      ⟨fault | found, ⟨view, left⟩⟩ <;>
      rcases second : (routine.run (event.rename place)).run
        ⟨⟨storeCopy, copy.roster, enrolledCopy.components⟩, output⟩ with
        ⟨faultCopy | foundCopy, ⟨viewCopy, leftCopy⟩⟩ <;>
      rw [first, second] at matched stores printed <;> rw [first] at ran <;>
      cases ran <;> cases printed
    · cases matched
      exact ⟨viewCopy.store, rfl, stores, nofun⟩
    · exact matched.elim
    · exact matched.elim
    · obtain ⟨rfl, reached⟩ := matched
      refine ⟨viewCopy.store, rfl, stores, ?_⟩
      rintro _ ⟨⟩
      exact reached

/-! ### Deliveries -/

/-- How far two dispatches got: their stores are abreast, and the same is on record about originals and
about copies. -/
structure Mirrors (place : Entity → Entity) (scene copy : Scene) (one other : Progress) : Prop where
  stores : scene.Abreast place copy one.store other.store
  output : other.output = one.output
  report : other.report = one.report.rename place

theorem Mirrors.exists_store {one other : Progress} (mirrors : scene.Mirrors place copy one other) :
    ∃ storeCopy, scene.Abreast place copy one.store storeCopy ∧
      other = ⟨storeCopy, one.output, one.report.rename place⟩ := by
  refine ⟨other.store, mirrors.stores, ?_⟩
  rw [← mirrors.output, ← mirrors.report]

theorem Twins.deliverTo (twins : scene.Twins place copy) {event : Event}
    (reaches : scene.Reaches event) {systems systemsCopy : List Enrolled}
    (same : List.Forall₂ (scene.SameSystem copy) systems systemsCopy) {one other : Progress}
    (mirrors : scene.Mirrors place copy one other) {followUps : List Event}
    (reached : ∀ later ∈ followUps, scene.Reaches later) :
    scene.Mirrors place copy (scene.deliverTo event systems one followUps).1
        (copy.deliverTo (event.rename place) systemsCopy other
          (followUps.map (Event.rename place))).1 ∧
      (copy.deliverTo (event.rename place) systemsCopy other
          (followUps.map (Event.rename place))).2 =
        (scene.deliverTo event systems one followUps).2.map (Event.rename place) ∧
      ∀ later ∈ (scene.deliverTo event systems one followUps).2, scene.Reaches later := by
  induction same generalizing one other followUps with
  | nil => exact ⟨mirrors, rfl, reached⟩
  | @cons enrolled enrolledCopy rest restCopy here _ ih =>
    obtain ⟨storeCopy, stores, rfl⟩ := mirrors.exists_store
    obtain ⟨store, output, report⟩ := one
    dsimp only at stores ⊢
    unfold Scene.deliverTo
    rw [here.system, show (event.rename place).name = event.name from rfl]
    by_cases listens : enrolled.system.listensTo event.name = true
    · rw [if_pos listens, if_pos listens]
      rcases ran : scene.invoke enrolled event store output with ⟨failure | found, next, left⟩
      · obtain ⟨nextCopy, ranCopy, further, -⟩ := twins.invoke stores here reaches ran
        have failed : scene.Mirrors place copy ⟨next, left, report.fail failure⟩
            ⟨nextCopy, left, (report.rename place).fail (failure.rename place)⟩ :=
          ⟨further, rfl, (report.rename_fail place failure).symm⟩
        rw [ranCopy]
        exact ih failed reached
      · obtain ⟨nextCopy, ranCopy, further, more⟩ := twins.invoke stores here reaches ran
        have counted : scene.Mirrors place copy
            ⟨next, left, { report with invocations := report.invocations + 1 }⟩
            ⟨nextCopy, left, { report.rename place with
              invocations := (report.rename place).invocations + 1 }⟩ :=
          ⟨further, rfl, rfl⟩
        have all : ∀ event ∈ followUps ++ found, scene.Reaches event := by
          intro event member
          rcases List.mem_append.mp member with before | behind
          · exact reached event before
          · exact more found rfl event behind
        have later := ih counted all
        rw [List.map_append] at later
        rw [ranCopy]
        exact later
    · rw [if_neg listens, if_neg listens]
      have passed : scene.Mirrors place copy ⟨store, output, report⟩
          ⟨storeCopy, output, report.rename place⟩ := ⟨stores, rfl, rfl⟩
      exact ih passed reached

theorem Twins.deliver (twins : scene.Twins place copy) {event : Event}
    (reaches : scene.Reaches event) {one other : Progress}
    (mirrors : scene.Mirrors place copy one other) :
    scene.Mirrors place copy (scene.deliver event one).1 (copy.deliver (event.rename place) other).1 ∧
      (copy.deliver (event.rename place) other).2 =
        (scene.deliver event one).2.map (Event.rename place) ∧
      ∀ later ∈ (scene.deliver event one).2, scene.Reaches later := by
  have none : ∀ event ∈ ([] : List Event), scene.Reaches event := nofun
  obtain ⟨⟨stores, output, report⟩, followUps⟩ := twins.deliverTo reaches twins.systems mirrors none
  refine ⟨⟨stores, output, ?_⟩, followUps⟩
  change Report.mk _ _ _ = _
  rw [List.map_nil] at report
  simp only [Scene.deliver, report, Report.rename, Array.map_push]

/-! ### Cascades -/

theorem drain_cons (scene : Scene) (events : Registry Contract) (allowance : Nat) (event : Event)
    (depth : Nat) (rest : List Pending) (store : Store) (output : Array Output) (report : Report) :
    scene.drain events (allowance + 1) (waiting (⟨event, depth⟩ :: rest)) ⟨store, output, report⟩ =
      match scene.reject? events store report ⟨event, depth⟩ with
      | some report => scene.drain events (allowance + 1) (waiting rest) ⟨store, output, report⟩
      | none =>
        match scene.deliver event ⟨store, output, report⟩ with
        | (progress, followUps) =>
          if depth < scene.limits.cascadeDepth then
            scene.drain events allowance (waiting (rest ++ followUps.map (⟨·, depth + 1⟩))) progress
          else match followUps with
            | [] => scene.drain events allowance (waiting rest) progress
            | first :: _ =>
              (.error (.tooDeep first.name scene.limits.cascadeDepth progress.report), progress) := by
  cases passed : scene.reject? events store report ⟨event, depth⟩ with
  | some later =>
    have next : (waiting (⟨event, depth⟩ :: rest)).next? (scene.reject? events store) report =
        (waiting rest).next? (scene.reject? events store) later := by
      simp only [Queue.next?, waiting, Queue.passList, passed]
    dsimp only
    rw [drain, drain, next]
  | none =>
    have next : (waiting (⟨event, depth⟩ :: rest)).next? (scene.reject? events store) report =
        (report, some (⟨event, depth⟩, waiting rest)) := by
      simp only [Queue.next?, waiting, Queue.passList, passed]
    rw [drain, next]
    dsimp only
    rcases scene.deliver event ⟨store, output, report⟩ with ⟨progress, followUps⟩
    dsimp only
    split
    · apply drain_congr
      rw [Queue.toList_append]
      simp [Queue.toList, waiting]
    · rfl

theorem Twins.reject? (twins : scene.Twins place copy)
    (abreast : scene.Abreast place copy store storeCopy) (events : Registry Contract)
    (report : Report) {event : Event} (reaches : scene.Reaches event) (depth : Nat) :
    copy.reject? events storeCopy (report.rename place) ⟨event.rename place, depth⟩ =
      (scene.reject? events store report ⟨event, depth⟩).map (Report.rename place) := by
  unfold Scene.reject?
  rw [twins.checkEvent abreast events reaches]
  split
  · rfl
  · cases scene.checkEvent events store event with
    | ok => rfl
    | error fault => exact congrArg some (report.rename_fail place (.refused fault)).symm

theorem Twins.drain (twins : scene.Twins place copy) (events : Registry Contract) (allowance : Nat)
    {pending : List Pending} (reaches : ∀ waiting ∈ pending, scene.Reaches waiting.event)
    {one other : Progress} (mirrors : scene.Mirrors place copy one other) :
    let ended := scene.drain events allowance (waiting pending) one
    let endedCopy := copy.drain events allowance (waiting (pending.map (Pending.rename place))) other
    endedCopy.1 = (ended.1.map (Report.rename place)).mapError (DispatchFault.rename place) ∧
      scene.Mirrors place copy ended.2 endedCopy.2 := by
  induction allowance generalizing pending one other with
  | zero =>
    obtain ⟨storeCopy, stores, rfl⟩ := mirrors.exists_store
    cases pending with
    | nil => exact ⟨rfl, mirrors⟩
    | cons first rest =>
      refine ⟨?_, mirrors⟩
      change Except.error (DispatchFault.overflow copy.limits.events _) = _
      rw [twins.limits]
      rfl
  | succ allowance ih =>
    -- What is passed over costs no allowance, so there is a second induction, on what waits.
    induction pending generalizing one other with
    | nil =>
      obtain ⟨storeCopy, stores, rfl⟩ := mirrors.exists_store
      exact ⟨rfl, mirrors⟩
    | cons first rest tail =>
      obtain ⟨event, depth⟩ := first
      obtain ⟨here, behind⟩ := List.forall_mem_cons.mp reaches
      obtain ⟨storeCopy, stores, rfl⟩ := mirrors.exists_store
      obtain ⟨store, output, report⟩ := one
      have passing := twins.reject? stores events report here depth
      dsimp only at stores passing ⊢
      rw [List.map_cons, Pending.rename, drain_cons, drain_cons, passing, twins.limits]
      cases passed : scene.reject? events store report ⟨event, depth⟩ with
      | some later =>
        have skipped : scene.Mirrors place copy ⟨store, output, later⟩
            ⟨storeCopy, output, later.rename place⟩ := ⟨stores, rfl, rfl⟩
        exact tail behind skipped
      | none =>
        have delivered := twins.deliver here mirrors
        dsimp only [Option.map_none]
        rcases ran : scene.deliver event ⟨store, output, report⟩ with ⟨progress, followUps⟩
        rcases ranCopy : copy.deliver (event.rename place) ⟨storeCopy, output, report.rename place⟩ with
          ⟨progressCopy, followUpsCopy⟩
        rw [ran, ranCopy] at delivered
        obtain ⟨further, rfl, reached⟩ := delivered
        dsimp only
        by_cases shallow : depth < scene.limits.cascadeDepth
        · have all : ∀ waiting ∈ rest ++ followUps.map (⟨·, depth + 1⟩),
              scene.Reaches waiting.event := by
            intro waiting member
            rcases List.mem_append.mp member with before | new
            · exact behind waiting before
            · obtain ⟨follower, found, rfl⟩ := List.mem_map.mp new
              exact reached follower found
          have later := ih all further
          rw [List.map_append, List.map_map] at later
          rw [if_pos shallow, if_pos shallow, List.map_map]
          exact later
        · rw [if_neg shallow, if_neg shallow]
          cases followUps with
          | nil => exact ih behind further
          | cons first others =>
            refine ⟨?_, further⟩
            change Except.error (DispatchFault.tooDeep first.name _ progressCopy.report) = _
            rw [further.report]
            rfl

/-- An event to entities that are alive, and the event to their copies: either both are refused or cut
short for the same reason, or both come to an end with the same report, and what was printed is the same
in any case. Afterwards the copies again have the values of their originals. -/
theorem Twins.dispatch (twins : scene.Twins place copy) (events : Registry Contract) {event : Event}
    (reaches : scene.Reaches event) :
    let outcome := scene.dispatch events event
    let outcomeCopy := copy.dispatch events (event.rename place)
    outcomeCopy.result =
        (outcome.result.map (Report.rename place)).mapError (DispatchFault.rename place) ∧
      outcomeCopy.output = outcome.output ∧
      ∀ entity, scene.roster.isAlive entity = true → ∀ name,
        outcomeCopy.scene.store.valueOf (place entity) name =
          outcome.scene.store.valueOf entity name := by
  have stores : scene.Abreast place copy scene.store copy.store :=
    ⟨.refl _, .refl _, twins.formed.store, twins.formedCopy.store, twins.valueOf⟩
  have checked := twins.checkEvent stores events reaches
  unfold Scene.dispatch
  rw [checked]
  cases scene.checkEvent events scene.store event with
  | error fault => exact ⟨rfl, rfl, twins.valueOf⟩
  | ok =>
    have waiting : ∀ waiting ∈ [(⟨event, 0⟩ : Pending)], scene.Reaches waiting.event :=
      List.forall_mem_singleton.mpr reaches
    have empty : Report.empty.rename place = Report.empty := by simp [Report.empty, Report.rename]
    have begun : scene.Mirrors place copy ⟨scene.store, #[], .empty⟩ ⟨copy.store, #[], .empty⟩ :=
      ⟨stores, rfl, empty.symm⟩
    obtain ⟨result, ended⟩ := twins.drain events scene.limits.events waiting begun
    rw [twins.limits]
    exact ⟨result, ended.output, ended.stores.valueOf⟩

end Scene

end Stagecraft
