import Stagecraft.Catalog.InPlace

/-!
Loading in place: a host makes a copy of its catalog and goes through a script four times, once for each
sort of declaration. Whatever it comes upon it registers in the copy, and then it notes the name. The copy
takes the place of the catalog after the last pass. One that is left halfway is forgotten, with all notes.
-/

namespace Stagecraft.Script

/-- The copy of a catalog that a script is loaded into, and the names that were noted so far. -/
structure Stage where
  catalog : Catalog
  noted : Summary

abbrev Loading := ExceptT Fault (StateM Stage)

namespace Loading

def register (operation : Operation Catalog Unit) : Loading Unit := fun stage =>
  match operation stage.catalog with
  | (outcome, catalog) => (ofCatalog outcome, { stage with catalog := catalog })

def noteComponent (name : String) : Loading Unit :=
  modify fun stage => { stage with noted.components := stage.noted.components ++ [name] }

def noteEvent (name : String) : Loading Unit :=
  modify fun stage => { stage with noted.events := stage.noted.events ++ [name] }

def noteSystem (name : String) : Loading Unit :=
  modify fun stage => { stage with noted.systems := stage.noted.systems ++ [name] }

def component (source : String) (decl : ComponentDecl) : Loading Unit := do
  let schema ← decl.schema (← get).catalog.components source
  register (Catalog.registerComponent (.of decl.name schema))
  noteComponent decl.name

def event (source : String) (decl : EventDecl) : Loading Unit := do
  let contract ← decl.contract (← get).catalog.components source
  register (Catalog.registerEvent contract)
  noteEvent decl.name

/-- Declare the event of a header when nobody else did. One that is known must agree with the header. -/
def listener (source : String) (decl : EventDecl) : Loading Contract := do
  let contract ← decl.contract (← get).catalog.components source
  match (← get).catalog.events.find? contract.name with
  | some declared => ofCatalog (declared.checkCompatible contract)
  | none =>
    register (Catalog.registerEvent contract)
    noteEvent contract.name
  return contract

def system (settings : Settings) (source : String) (known : Catalog) (decl : SystemDecl)
    (contract : Contract) : Loading Unit := do
  decl.check known.components known.events source
  register (Catalog.registerSystem ((settings.routine source known decl).toSystem contract))
  noteSystem decl.name

def components (source : String) : List Item → Loading Unit
  | [] => return ()
  | item :: rest => do
    if let .component decl := item then component source decl
    components source rest

def events (source : String) : List Item → Loading Unit
  | [] => return ()
  | item :: rest => do
    if let .event decl := item then event source decl
    events source rest

def listeners (source : String) : List Item → Loading (List (SystemDecl × Contract))
  | [] => return []
  | .system decl :: rest => do
    let contract ← listener source decl.event
    return (decl, contract) :: (← listeners source rest)
  | _ :: rest => listeners source rest

def systems (settings : Settings) (source : String) (known : Catalog) :
    List (SystemDecl × Contract) → Loading Unit
  | [] => return ()
  | (decl, contract) :: rest => do
    system settings source known decl contract
    systems settings source known rest

def passes (settings : Settings) (source : String) (tree : Tree) : Loading Unit := do
  components source tree.items
  events source tree.items
  let collected ← listeners source tree.items
  systems settings source (← get).catalog collected

end Loading

def loadInto (settings : Settings) (source : String) (catalog : Catalog) :
    Except Fault Summary × Catalog :=
  match parse source with
  | .error fault => (.error (.parse fault), catalog)
  | .ok tree =>
    match Loading.passes settings source tree ⟨catalog, ⟨[], [], []⟩⟩ with
    | (.ok (), stage) => (.ok stage.noted, stage.catalog)
    | (.error fault, _) => (.error fault, catalog)

end Stagecraft.Script
