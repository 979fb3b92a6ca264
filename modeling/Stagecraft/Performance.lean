import Stagecraft.Playbill
import Stagecraft.Scene.Dispatch
import Stagecraft.Script.Loader

/-!
Performances: a script is loaded, a scene is set with all of its systems and the entities of a
playbill, the events of the playbill are sent in order, and the scene is written down at the end. All
that happens is logged, and the first setback ends it.
-/

namespace Stagecraft

inductive LogEntry where
  | configuration (limits : Limits) (budget : Option Nat)
  | loading (path : String)
  | loaded (summary : Script.Summary)
  | registered (summary : Script.Summary)
  | sceneLoaded (entities : Nat)
  | printed (line : String)
  | failure (event : String) (what : Failure)
  | sent (event : String) (report : Report)

namespace LogEntry

def spelled (c : Char) : String :=
  if c = '\x1b' then "\\x1b"
  else if c = '\x07' then "\\x07"
  else if c = '\x08' then "\\x08"
  else if c = '\x0c' then "\\x0c"
  else if c = '\x7f' then "\\x7f"
  else if 0x80 ≤ c.toNat ∧ c.toNat ≤ 0x9f then Text.codeEscape c
  else String.singleton c

def spell (message : String) : String := String.join (message.toList.map spelled)

def render : LogEntry → String
  | configuration limits budget =>
    let budget := match budget with
      | some steps => "Some(" ++ toString steps ++ ")"
      | none => "None"
    "INFO pivot_runner: configuration dispatch=DispatchConfig \x7b max_cascade_depth: "
      ++ toString limits.cascadeDepth ++ ", max_events: " ++ toString limits.events
      ++ " \x7d step_budget=" ++ budget
  | loading path => "INFO pivot_script::engine: loading script path=" ++ path
  | loaded summary =>
    "INFO pivot_script::engine: script loaded components=" ++ toString summary.components.length
      ++ " events=" ++ toString summary.events.length ++ " systems="
      ++ toString summary.systems.length
  | registered summary =>
    "INFO pivot_runner: script registered components=" ++ Text.quotedList summary.components
      ++ " events=" ++ Text.quotedList summary.events ++ " systems="
      ++ Text.quotedList summary.systems
  | sceneLoaded entities => "INFO pivot_runner: scene loaded entities=" ++ toString entities
  | printed line => "INFO pivot::script: " ++ spell line
  | failure event what =>
    "WARN pivot_runner: dispatch failure event=" ++ event ++ " error=" ++ what.message
  | sent event report =>
    "INFO pivot_runner: event sent event=" ++ event ++ " dispatched="
      ++ toString report.dispatched.size ++ " invocations=" ++ toString report.invocations
      ++ " failures=" ++ toString report.failures.size

end LogEntry

inductive Setback where
  | usage
  | unreadableScene (path reason : String)
  | invalidScene (path : String)
  | notLoaded (path : String) (fault : Script.Fault)
  | refused (fault : Fault)
  | undeclaredEvent (name : String)
  | badPayload (event : String) (reason : DataFault)
  | unknownTarget (name : String)
  | dispatch (fault : DispatchFault)

namespace Setback

def message : Setback → String
  | usage => "usage: pivot-runner <script> [scene.json]"
  | unreadableScene path _ => "cannot read scene " ++ path
  | invalidScene path => "invalid scene " ++ path
  | notLoaded path _ => "failed to load " ++ path
  | refused fault => fault.message
  | undeclaredEvent name => "event `" ++ name ++ "` is not declared"
  | badPayload event _ => "bad payload for `" ++ event ++ "`"
  | unknownTarget name => "no entity named `" ++ name ++ "`"
  | dispatch fault => fault.message

def cause? : Setback → Option String
  | unreadableScene _ reason => some reason
  | notLoaded _ fault => some fault.message
  | refused fault => fault.reason?.map DataFault.message
  | badPayload _ reason => some reason.message
  | usage | invalidScene _ | undeclaredEvent _ | unknownTarget _ | dispatch _ => none

end Setback

structure Material where
  path : String
  text : Except String String

structure Commission where
  script : Option Material
  playbill : Option Material
  /-- The variables that are set. -/
  environment : String → Option String

namespace Commission

/-- A number below `2 ^ 64` from the environment; anything else stands for the default. -/
def number (commission : Commission) (name : String) (default : Nat) : Nat :=
  ((commission.environment name).bind (fun text => Decimal.Numeral.natural? (Nat.pow 2 64) text)).getD
    default

def limits (commission : Commission) : Limits where
  cascadeDepth := commission.number "PIVOT_MAX_CASCADE_DEPTH" Limits.standard.cascadeDepth
  events := commission.number "PIVOT_MAX_EVENTS" Limits.standard.events

/-- The budget of a run; zero stands for none. -/
def budget (commission : Commission) : Option Nat :=
  match commission.number "PIVOT_STEP_BUDGET" Script.standardBudget with
  | 0 => none
  | steps => some steps

end Commission

abbrev Act := ExceptT Setback (StateM (Array LogEntry))

namespace Act

def log (entry : LogEntry) : Act Unit := modify (fun entries => entries.push entry)

def ofFault {α : Type} (result : Except Fault α) : Act α :=
  match result with
  | .ok value => return value
  | .error fault => throw (.refused fault)

def onScene {α : Type} (operation : Operation Scene α) (scene : Scene) : Act (α × Scene) := do
  let (result, scene) := operation scene
  return (← ofFault result, scene)

def readPlaybill (material : Material) : Act Playbill :=
  match material.text with
  | .error reason => throw (.unreadableScene material.path reason)
  | .ok text =>
    match Playbill.read? text with
    | some playbill => return playbill
    | none => throw (.invalidScene material.path)

def loadScript (settings : Script.Settings) (material : Material) : Act Catalog := do
  if let .ok _ := material.text then log (.loading material.path)
  match Script.loadFile settings material.path material.text .empty with
  | .error fault => throw (.notLoaded material.path fault)
  | .ok (summary, catalog) =>
    log (.loaded summary)
    log (.registered summary)
    return catalog

def payload (cue : Cue) (contract : Contract) : Act Value :=
  match cue.payload with
  | none => return .initial contract.payload
  | some json =>
    match Value.decodeAs contract.payload json with
    | .ok value => return value
    | .error reason => throw (.badPayload cue.name reason)

def target (scene : Scene) (name : String) : Act Entity :=
  match scene.find? name with
  | some entity => return entity
  | none => throw (.unknownTarget name)

def logOutput (output : Array Output) : Act Unit :=
  output.forM fun
    | .printed line => log (.printed line)
    | .noted _ => return ()

def play (catalog : Catalog) (scene : Scene) (cue : Cue) : Act Scene := do
  match catalog.events.find? cue.name with
  | none => throw (.undeclaredEvent cue.name)
  | some contract =>
    let payload ← payload cue contract
    let targets ← cue.targets.mapM (target scene)
    let outcome := scene.dispatch catalog.events ⟨cue.name, targets, payload⟩
    logOutput outcome.output
    match outcome.result with
    | .error fault => throw (.dispatch fault)
    | .ok report =>
      report.failures.forM (fun failure => log (.failure cue.name failure))
      log (.sent cue.name report)
      return outcome.scene

def perform (commission : Commission) : Act Snapshot := do
  match commission.script with
  | none => throw .usage
  | some script =>
    let playbill ← commission.playbill.mapM readPlaybill
    log (.configuration commission.limits commission.budget)
    let catalog ← loadScript { Script.Settings.standard with budget := commission.budget } script
    let name := match playbill with
      | some playbill => playbill.snapshot.name
      | none => "main"
    let (_, scene) ← onScene (Scene.enrollAll catalog.systems.names catalog)
      (.empty name commission.limits)
    let scene ← match playbill with
      | none => pure scene
      | some playbill => do
        let (created, scene) ← onScene (Scene.load playbill.snapshot catalog.components) scene
        log (.sceneLoaded created.length)
        playbill.cues.foldlM (play catalog) scene
    ofFault scene.snapshot

end Act

structure Performance where
  log : Array LogEntry
  ending : Except Setback Snapshot

namespace Performance

def of (commission : Commission) : Performance :=
  let (ending, log) := (Act.perform commission).run #[]
  ⟨log, ending⟩

def isBlank (c : Char) : Bool :=
  let n := c.toNat
  (9 ≤ n && n ≤ 13) || n == 0x20 || n == 0x85 || n == 0xa0 || n == 0x1680
    || (0x2000 ≤ n && n ≤ 0x200a) || n == 0x2028 || n == 0x2029 || n == 0x202f || n == 0x205f
    || n == 0x3000

def trim (chars : List Char) : List Char :=
  ((chars.dropWhile isBlank).reverse.dropWhile isBlank).reverse

def lines (chars : List Char) : List (List Char) :=
  chars.foldr (fun c acc => match c, acc with
    | '\n', acc => [] :: acc
    | c, line :: rest => (c :: line) :: rest
    | c, [] => [[c]]) [[]]

def logLines (performance : Performance) : List String :=
  performance.log.toList.flatMap fun entry =>
    (lines entry.render.toList).map (fun line => String.ofList (trim line))

def finalText (snapshot : Snapshot) : String := LogEntry.spell (snapshot.encode.pretty 0)

end Performance

end Stagecraft
