import Stagecraft.Queue
import Stagecraft.Scene

/-!
Dispatch: an event is delivered to every system that listens to it, and the events that follow from
it are delivered in their turn, first come, first served. An event that follows and does not meet its
contract, and a system that fails, are put on record and do not stop the others. The limits of the
scene do: they are looked at before an event is taken up, and after one was delivered.
-/

namespace Stagecraft

inductive Failure where
  /-- An event did not meet its contract, or lacks what a system asks of it. -/
  | refused (fault : Fault)
  | system (name : String) (cause : Cause)
deriving DecidableEq

namespace Failure

def message : Failure → String
  | refused fault => fault.message
  | system name cause => "system `" ++ name ++ "` failed: " ++ cause.message

def kind : Failure → FaultKind
  | refused fault => fault.kind
  | system _ _ => .runtime

end Failure

structure Report where
  /-- The delivered events in order. -/
  dispatched : Array Event
  /-- The number of behaviors that succeeded. -/
  invocations : Nat
  failures : Array Failure
deriving DecidableEq, Inhabited

namespace Report

def empty : Report := ⟨#[], 0, #[]⟩

def isClean (report : Report) : Bool := report.failures.isEmpty

def fail (report : Report) (failure : Failure) : Report :=
  { report with failures := report.failures.push failure }

end Report

/-- Why a sending was refused or cut short. What was done before the cut is on record. -/
inductive DispatchFault where
  | rejected (fault : Fault)
  | tooDeep (event : String) (max : Nat) (report : Report)
  | overflow (max : Nat) (report : Report)
deriving DecidableEq

namespace DispatchFault

def message : DispatchFault → String
  | rejected fault => fault.message
  | tooDeep event max _ =>
    "event cascade deeper than " ++ toString max ++ " while emitting `" ++ event ++ "`"
  | overflow max _ => "more than " ++ toString max ++ " events dispatched by one send"

def kind : DispatchFault → FaultKind
  | rejected fault => fault.kind
  | tooDeep _ _ _ | overflow _ _ => .runtime

def report? : DispatchFault → Option Report
  | rejected _ => none
  | tooDeep _ _ report | overflow _ report => some report

end DispatchFault

namespace Store

def bindRole (store : Store) (entity : Entity) (components : List String) :
    Except Fault (List ComponentRef) :=
  components.mapM fun name =>
    match (store.componentId? name).filter (fun id => store.contains entity id) with
    | some id => .ok ⟨entity, id⟩
    | none => .error (.missingComponent entity name)

/-- Bind roles to targets in order, as long as there are roles. `missing` tells that there are too
few targets. -/
def bindTargets (store : Store) (missing : Fault) :
    List Role → List Entity → Except Fault (List (List ComponentRef))
  | [], _ => .ok []
  | _ :: _, [] => .error missing
  | role :: roles, entity :: targets => do
    let refs ← store.bindRole entity role.components
    let others ← bindTargets store missing roles targets
    return refs :: others

def bindRoles (store : Store) (roles : List Role) (event : Event) :
    Except Fault (List (List ComponentRef)) :=
  store.bindTargets (.missingTargets event.name roles.length event.targets.length) roles
    event.targets

end Store

structure Pending where
  event : Event
  depth : Nat
deriving DecidableEq, Inhabited

structure Progress where
  store : Store
  output : Array Output
  report : Report

namespace Scene

/-- An event must meet its contract: it has the payload's schema and enough targets, all of them are
alive, and those that fill roles own what the roles ask for. -/
def checkEvent (scene : Scene) (events : Registry Contract) (store : Store) (event : Event) :
    Except Fault Unit := do
  match events.find? event.name with
  | none => throw (.unregisteredEvent event.name)
  | some contract =>
    if event.payload.schema ≠ contract.payload then
      throw (.payloadType event.name contract.payload event.payload.schema)
    if event.targets.length < contract.roles.length then
      throw (.missingTargets event.name contract.roles.length event.targets.length)
    event.targets.forM scene.roster.checkAlive
    let _ ← store.bindRoles contract.roles event
    return ()

def invoke (scene : Scene) (enrolled : Enrolled) (event : Event) (store : Store)
    (output : Array Output) : Except Failure (List Event) × Store × Array Output :=
  match store.bindRoles enrolled.system.roles event with
  | .error fault => (.error (.refused fault), store, output)
  | .ok roles =>
    match (enrolled.system.body ⟨event, roles⟩).run
        ⟨⟨store, scene.roster, enrolled.components⟩, output⟩ with
    | (.ok followUps, ⟨view, output⟩) => (.ok followUps, view.store, output)
    | (.error cause, ⟨view, output⟩) =>
      (.error (.system enrolled.system.name cause), view.store, output)

def deliverTo (scene : Scene) (event : Event) :
    List Enrolled → Progress → List Event → Progress × List Event
  | [], progress, followUps => (progress, followUps)
  | enrolled :: rest, ⟨store, output, report⟩, followUps =>
    if enrolled.system.listensTo event.name then
      match scene.invoke enrolled event store output with
      | (.ok found, store, output) =>
        deliverTo scene event rest
          ⟨store, output, { report with invocations := report.invocations + 1 }⟩
          (followUps ++ found)
      | (.error failure, store, output) =>
        deliverTo scene event rest ⟨store, output, report.fail failure⟩ followUps
    else deliverTo scene event rest ⟨store, output, report⟩ followUps

def deliver (scene : Scene) (event : Event) (progress : Progress) : Progress × List Event :=
  match scene.deliverTo event scene.systems progress [] with
  | (⟨store, output, report⟩, followUps) =>
    (⟨store, output, { report with dispatched := report.dispatched.push event }⟩, followUps)

/-- Pass over an event that follows from another and does not meet its contract. The sent event was
looked at before. -/
def reject? (scene : Scene) (events : Registry Contract) (store : Store) (report : Report)
    (pending : Pending) : Option Report :=
  if pending.depth = 0 then none
  else match scene.checkEvent events store pending.event with
    | .ok () => none
    | .error fault => some (report.fail (.refused fault))

/-- Deliver the events that wait, and those that follow from them, at most `allowance` of them. -/
def drain (scene : Scene) (events : Registry Contract) :
    (allowance : Nat) → Queue Pending → Progress → Except DispatchFault Report × Progress
  | 0, queue, progress =>
    if queue.isEmpty then (.ok progress.report, progress)
    else (.error (.overflow scene.limits.events progress.report), progress)
  | allowance + 1, queue, ⟨store, output, report⟩ =>
    match queue.next? (scene.reject? events store) report with
    | (report, none) => (.ok report, ⟨store, output, report⟩)
    | (report, some (⟨event, depth⟩, rest)) =>
      match scene.deliver event ⟨store, output, report⟩ with
      | (progress, followUps) =>
        if depth < scene.limits.cascadeDepth then
          drain scene events allowance (rest.append (followUps.map (⟨·, depth + 1⟩))) progress
        else match followUps with
          | [] => drain scene events allowance rest progress
          | first :: _ =>
            (.error (.tooDeep first.name scene.limits.cascadeDepth progress.report), progress)

end Scene

structure Outcome where
  result : Except DispatchFault Report
  scene : Scene
  output : Array Output

/-- Send an event and deliver everything that follows from it. An event that does not meet its
contract does nothing. -/
def Scene.dispatch (scene : Scene) (events : Registry Contract) (event : Event) : Outcome :=
  match scene.checkEvent events scene.store event with
  | .error fault => ⟨.error (.rejected fault), scene, #[]⟩
  | .ok () =>
    let (result, progress) :=
      scene.drain events scene.limits.events (.singleton ⟨event, 0⟩) ⟨scene.store, #[], .empty⟩
    ⟨result, { scene with store := progress.store }, progress.output⟩

end Stagecraft
