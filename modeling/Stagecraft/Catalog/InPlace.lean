import Stagecraft.Operation
import Stagecraft.Script.Loader

/-!
Catalogs in place: a host holds a catalog and registers in it, one thing after the other. What a
registration changed before it is refused stays changed. A script is loaded into a copy, which takes
the place of the catalog once all of it is declared.
-/

namespace Stagecraft

def Registry.insert {α : Type} [Named α] (entry : α) : Operation (Registry α) Unit :=
  .replace fun registry => do
    let registry ← registry.add entry
    return ((), registry)

namespace Catalog

def registerComponent (component : Component) : Operation Catalog Unit := do
  component.validate
  .within components (fun components catalog => { catalog with components := components })
    (Registry.insert component)

def registerEvent (contract : Contract) : Operation Catalog Unit := do
  contract.validate (← get).components
  .within events (fun events catalog => { catalog with events := events })
    (Registry.insert contract)

/-- Register the event that a system listens to if it is new. One that is known must agree with the
listener. -/
def registerListener (contract : Contract) : Operation Catalog Unit := do
  match (← get).events.find? contract.name with
  | some declared => declared.checkCompatible contract
  | none => registerEvent contract

def registerSystem (system : System) : Operation Catalog Unit := do
  system.validate (← get).components
  if (← get).systems.contains system.name then throw (.alreadyRegistered .system system.name)
  match system.listener with
  | some contract => registerListener contract
  | none => pure ()
  .within systems (fun systems catalog => { catalog with systems := systems })
    (Registry.insert system)

end Catalog

/-- Load into a copy of the catalog that a host holds. The copy takes its place if the load succeeds. -/
def Script.staged (load : Catalog → Except Fault (Summary × Catalog)) (catalog : Catalog) :
    Except Fault Summary × Catalog :=
  match load catalog with
  | .ok (summary, staged) => (.ok summary, staged)
  | .error fault => (.error fault, catalog)

end Stagecraft
