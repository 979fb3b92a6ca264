import Stagecraft.Catalog
import Stagecraft.Script.Routine

/-!
Loading: a script adds all of its declarations to a catalog or none. Components come first, in the
order of the script, so that everything else can name them; then the events that are declared on
their own; then those of the headers of systems; and at last the systems, whose bodies are checked
against all events.
-/

namespace Stagecraft.Script

structure Summary where
  components : List String
  events : List String
  systems : List String
deriving DecidableEq, Inhabited

structure Settings where
  keys : Keys
  budget : Option Nat

def standardBudget : Nat := 1000000

def Settings.standard : Settings := ⟨.all, some standardBudget⟩

def ComponentDecl.schema (decl : ComponentDecl) (components : Registry Component)
    (source : String) : Except Fault Schema :=
  match decl.body with
  | .alias_ type => resolve components source type
  | .fields fields => do
    let schemas ← fields.mapM fun field => do
      return (field.name, ← resolve components source field.type)
    return .record (Keyed.ofList schemas)

/-- The contract of a declared event. An event without a payload carries the empty record. -/
def EventDecl.contract (decl : EventDecl) (components : Registry Component) (source : String) :
    Except Fault Contract := do
  let payload ← match decl.payload with
    | some field => resolve components source field.type
    | none => pure .empty
  return ⟨decl.name, decl.roles.map RoleDecl.toRole, payload⟩

def ofCatalog {α : Type} (result : Except Stagecraft.Fault α) : Except Fault α :=
  result.mapError .scene

def loadComponents (source : String) :
    List ComponentDecl → Catalog → Except Fault Catalog
  | [], catalog => .ok catalog
  | decl :: rest, catalog => do
    let schema ← decl.schema catalog.components source
    let catalog ← ofCatalog (catalog.declareComponent (.of decl.name schema))
    loadComponents source rest catalog

def loadEvents (source : String) : List EventDecl → Catalog → Except Fault Catalog
  | [], catalog => .ok catalog
  | decl :: rest, catalog => do
    let contract ← decl.contract catalog.components source
    let catalog ← ofCatalog (catalog.declareEvent contract)
    loadEvents source rest catalog

/-- Declare the events that the headers of systems introduce. Their names come back in order, and
the contract of every system. -/
def loadListeners (source : String) :
    List SystemDecl → Catalog → Except Fault (List String × List Contract × Catalog)
  | [], catalog => .ok ([], [], catalog)
  | decl :: rest, catalog => do
    let contract ← decl.event.contract catalog.components source
    let introduced := if catalog.events.contains contract.name then [] else [contract.name]
    let catalog ← ofCatalog (catalog.declareListener contract)
    let (names, contracts, catalog) ← loadListeners source rest catalog
    return (introduced ++ names, contract :: contracts, catalog)

def Settings.routine (settings : Settings) (source : String) (catalog : Catalog)
    (decl : SystemDecl) : Routine :=
  ⟨decl, source, catalog.components, catalog.events, settings.keys, settings.budget⟩

def loadSystems (settings : Settings) (source : String) :
    List SystemDecl → List Contract → Catalog → Except Fault Catalog
  | decl :: decls, contract :: contracts, catalog => do
    decl.check catalog.components catalog.events source
    let system := (settings.routine source catalog decl).toSystem contract
    let catalog ← ofCatalog (catalog.declareSystem system)
    loadSystems settings source decls contracts catalog
  | _, _, catalog => .ok catalog

def loadTree (settings : Settings) (source : String) (tree : Tree) (catalog : Catalog) :
    Except Fault (Summary × Catalog) := do
  let catalog ← loadComponents source tree.components catalog
  let catalog ← loadEvents source tree.events catalog
  let (introduced, contracts, catalog) ← loadListeners source tree.systems catalog
  let catalog ← loadSystems settings source tree.systems contracts catalog
  return (⟨tree.components.map ComponentDecl.name,
    tree.events.map EventDecl.name ++ introduced, tree.systems.map SystemDecl.name⟩, catalog)

def load (settings : Settings) (source : String) (catalog : Catalog) :
    Except Fault (Summary × Catalog) := do
  let tree ← (parse source).mapError .parse
  loadTree settings source tree catalog

/-- Declare systems without looking at their bodies, which refer to what `known` has. A system listens
to its event as it is declared by then, or else as its own header has it. -/
def assembleSystems (settings : Settings) (source : String) (known : Catalog) :
    List SystemDecl → Catalog → Except Fault Unit × Catalog
  | [], catalog => (.ok (), catalog)
  | decl :: rest, catalog =>
    let listener := match catalog.events.find? decl.event.name with
      | some contract => .ok contract
      | none => decl.event.contract known.components source
    let declared := do
      let system := (settings.routine source known decl).toSystem (← listener)
      ofCatalog (catalog.declareSystem system)
    match declared with
    | .error fault => (.error fault, catalog)
    | .ok catalog => assembleSystems settings source known rest catalog

/-- Declare the systems of a script, and nothing else, without looking at their bodies, as a host does that makes
routines of them itself. Those before the first one that is refused stay declared. -/
def assemble (settings : Settings) (source : String) (catalog : Catalog) :
    Except Fault (List String) × Catalog :=
  match parse source with
  | .error fault => (.error (.parse fault), catalog)
  | .ok tree =>
    match assembleSystems settings source catalog tree.systems catalog with
    | (result, catalog) => (result.map (fun () => tree.systems.map SystemDecl.name), catalog)

def loadFile (settings : Settings) (path : String) (text : Except String String)
    (catalog : Catalog) : Except Fault (Summary × Catalog) := do
  let source ← text.mapError (Fault.unreadable path)
  load settings source catalog

end Stagecraft.Script
