import Stagecraft.System

/-!
Catalogs: the components, events and systems that a host knows. A catalog grows only by declarations
that fit to what it has.
-/

namespace Stagecraft

structure Catalog where
  components : Registry Component
  events : Registry Contract
  systems : Registry System

namespace Catalog

def empty : Catalog := ⟨.empty, .empty, .empty⟩

instance : Inhabited Catalog := ⟨empty⟩

def declareComponent (catalog : Catalog) (component : Component) : Except Fault Catalog := do
  component.validate
  let components ← catalog.components.add component
  return { catalog with components := components }

def declareEvent (catalog : Catalog) (contract : Contract) : Except Fault Catalog := do
  contract.validate catalog.components
  let events ← catalog.events.add contract
  return { catalog with events := events }

/-- Accept the contract of a listener: it declares an event that is new, and must agree with one that
is known. -/
def declareListener (catalog : Catalog) (contract : Contract) : Except Fault Catalog :=
  match catalog.events.find? contract.name with
  | some declared => do
    declared.checkCompatible contract
    return catalog
  | none => catalog.declareEvent contract

def addSystem (catalog : Catalog) (system : System) : Except Fault Catalog := do
  system.validate catalog.components
  let systems ← catalog.systems.add system
  return { catalog with systems := systems }

def declareSystem (catalog : Catalog) (system : System) : Except Fault Catalog := do
  system.validate catalog.components
  if catalog.systems.contains system.name then throw (.alreadyRegistered .system system.name)
  let catalog ← match system.listener with
    | some contract => catalog.declareListener contract
    | none => pure catalog
  let systems ← catalog.systems.add system
  return { catalog with systems := systems }

end Catalog

end Stagecraft
