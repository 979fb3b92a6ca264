import Stagecraft.Proofs.Script.Staging

/-!
Declarations: what a loaded script leaves in a catalog. Every item of the script is found under its name, a
component with the schema that its declaration has where it stands, an event with the contract of its
declaration, and a system with an event that does for its header. All of it is new, and comes behind
everything that was there before.
-/

namespace Stagecraft

namespace Registry

variable {α : Type} [Named α] {registry first second : Registry α} {entry : α}

def before (registry : Registry α) (name : String) : Registry α :=
  ⟨registry.entries.takeWhile (fun entry => Named.name entry != name)⟩

theorem before_append (fresh : Named.name entry ∉ registry.names) (more : Registry α) :
    ((registry.append ⟨[entry]⟩).append more).before (Named.name entry) = registry := by
  have others : ∀ other ∈ registry.entries, (Named.name other != Named.name entry) = true := by
    intro other inside
    rw [bne_iff_ne]
    rintro same
    exact fresh (same ▸ List.mem_map_of_mem inside)
  simp only [before, append, List.append_assoc, List.takeWhile_append_of_pos others, List.cons_append,
    List.nil_append]
  rw [List.takeWhile_cons_of_neg (by simp), List.append_nil]

structure Follows (registry more : Registry α) : Prop where
  distinct : more.names.Nodup
  fresh : ∀ name ∈ more.names, name ∉ registry.names

namespace Follows

theorem nothing (registry : Registry α) : registry.Follows empty := ⟨List.nodup_nil, nofun⟩

theorem one (fresh : Named.name entry ∉ registry.names) : registry.Follows ⟨[entry]⟩ :=
  ⟨List.nodup_singleton _, List.forall_mem_singleton.mpr fresh⟩

theorem append (one : registry.Follows first) (other : (registry.append first).Follows second) :
    registry.Follows (first.append second) := by
  have fresh := other.fresh
  simp only [names_append, List.mem_append, not_or] at fresh
  constructor
  · rw [names_append]
    exact one.distinct.append other.distinct fun name before behind => (fresh name behind).2 before
  · rw [names_append]
    exact List.forall_mem_append.mpr ⟨one.fresh, fun name behind => (fresh name behind).1⟩

end Follows

/-- Things of new names come behind everything that is registered, and all of that is still found. -/
structure Gains (registry : Registry α) (new : List String) (later : Registry α) : Prop where
  behind : later.names = registry.names ++ new
  distinct : new.Nodup
  fresh : ∀ name ∈ new, name ∉ registry.names
  nodup : registry.names.Nodup → later.names.Nodup
  found : ∀ name entry, registry.find? name = some entry → later.find? name = some entry

theorem Follows.gains (follows : registry.Follows first) :
    registry.Gains first.names (registry.append first) where
  behind := names_append registry first
  distinct := follows.distinct
  fresh := follows.fresh
  nodup distinct := by
    rw [names_append]
    exact distinct.append follows.distinct fun name before behind => follows.fresh name behind before
  found _ _ known := find?_append known first

end Registry

namespace Catalog

structure Follows (catalog more : Catalog) : Prop where
  components : catalog.components.Follows more.components
  events : catalog.events.Follows more.events
  systems : catalog.systems.Follows more.systems

def addSystems (catalog : Catalog) (more : Registry System) : Catalog :=
  { catalog with systems := catalog.systems.append more }

end Catalog

namespace Script

variable {source : String} {catalog next : Catalog}

/-! ### Components -/

def ComponentDecl.Registered (source : String) (components : Registry Component) (decl : ComponentDecl) :
    Prop :=
  ∃ schema, decl.schema (components.before decl.name) source = .ok schema ∧
    components.find? decl.name = some (.of decl.name schema)

theorem name_fresh_of_declareComponent {component : Component}
    (declared : catalog.declareComponent component = .ok next) :
    component.name ∉ catalog.components.names := by
  obtain ⟨_, -, others⟩ := bind_ok declared
  obtain ⟨components, added, -⟩ := bind_ok others
  exact (Registry.add_ok added).1

theorem loadComponents_registers {decls : List ComponentDecl}
    (loaded : loadComponents source decls catalog = .ok next) :
    ∃ more, next = catalog.addComponents more ∧ more.names = decls.map ComponentDecl.name ∧
      catalog.components.Follows more ∧ ∀ decl ∈ decls, decl.Registered source next.components := by
  induction decls generalizing catalog with
  | nil =>
    cases loaded
    exact ⟨.empty, (Catalog.addComponents_empty _).symm, rfl, .nothing _, nofun⟩
  | cons decl rest ih =>
    obtain ⟨schema, found, others⟩ := bind_ok loaded
    obtain ⟨middle, declared, remaining⟩ := bind_ok others
    have fresh := name_fresh_of_declareComponent (mapError_ok declared)
    obtain ⟨rfl, -⟩ := Catalog.declareComponent_settles rfl (mapError_ok declared)
    obtain ⟨more, rfl, names, follows, registered⟩ := ih remaining
    refine ⟨_, Catalog.addComponents_append _ _ _, ?_, (Registry.Follows.one fresh).append follows,
      List.forall_mem_cons.mpr ⟨⟨schema, ?_, ?_⟩, registered⟩⟩
    · rw [Registry.names_append, names]
      rfl
    · rw [← found]
      exact congrArg (decl.schema · source) (Registry.before_append fresh more)
    · exact Registry.find?_append (Registry.find?_append_one (Registry.find?_eq_none_of_fresh fresh)) more

/-! ### Events -/

def EventDecl.Registered (source : String) (components : Registry Component) (events : Registry Contract)
    (decl : EventDecl) : Prop :=
  ∃ contract, decl.contract components source = .ok contract ∧ events.find? decl.name = some contract

theorem EventDecl.Registered.append {decl : EventDecl} {components : Registry Component}
    {events : Registry Contract} (registered : decl.Registered source components events)
    (more : Registry Contract) : decl.Registered source components (events.append more) := by
  obtain ⟨contract, same, found⟩ := registered
  exact ⟨contract, same, Registry.find?_append found more⟩

theorem loadEvents_registers {decls : List EventDecl} (loaded : loadEvents source decls catalog = .ok next) :
    ∃ more, next = catalog.addEvents more ∧ more.names = decls.map EventDecl.name ∧
      catalog.events.Follows more ∧ ∀ decl ∈ decls,
        decl.Registered source catalog.components next.events := by
  induction decls generalizing catalog with
  | nil =>
    cases loaded
    exact ⟨.empty, (Catalog.addEvents_empty _).symm, rfl, .nothing _, nofun⟩
  | cons decl rest ih =>
    obtain ⟨contract, same, others⟩ := bind_ok loaded
    obtain ⟨middle, declared, remaining⟩ := bind_ok others
    have fresh := Catalog.name_fresh_of_declareEvent (mapError_ok declared)
    obtain ⟨rfl, -⟩ := Catalog.declareEvent_settles (.refl _) fresh (mapError_ok declared)
    obtain ⟨more, rfl, names, follows, registered⟩ := ih remaining
    have found : (catalog.addEvents ⟨[contract]⟩).events.find? decl.name = some contract := by
      rw [← EventDecl.contract_name same]
      exact Registry.find?_append_one (Registry.find?_eq_none_of_fresh fresh)
    have here : decl.Registered source catalog.components (catalog.addEvents ⟨[contract]⟩).events :=
      ⟨contract, same, found⟩
    refine ⟨_, Catalog.addEvents_append _ _ _, ?_, (Registry.Follows.one fresh).append follows,
      List.forall_mem_cons.mpr ⟨here.append more, registered⟩⟩
    rw [Registry.names_append, names, List.map_cons, ← EventDecl.contract_name same]
    rfl

/-- The event of a header is registered, with a contract that does for the header's own. -/
structure EventDecl.Heard (source : String) (components : Registry Component) (events : Registry Contract)
    (decl : EventDecl) (contract : Contract) : Prop where
  written : decl.contract components source = .ok contract
  exists_known : ∃ known, events.find? decl.name = some known ∧ known.Matches contract

theorem EventDecl.Heard.append {decl : EventDecl} {contract : Contract} {components : Registry Component}
    {events : Registry Contract} (heard : decl.Heard source components events contract)
    (more : Registry Contract) : decl.Heard source components (events.append more) contract := by
  obtain ⟨written, known, found, does⟩ := heard
  exact ⟨written, known, Registry.find?_append found more, does⟩

def ownEvent (known : List String) (name : String) : List String := if name ∈ known then [] else [name]

def newEvents (known : List String) (decls : List SystemDecl) : List String :=
  ((decls.map (·.event.name)).filter (· ∉ known)).eraseDups

theorem newEvents_cons (known : List String) (decl : SystemDecl) (rest : List SystemDecl) :
    newEvents known (decl :: rest) = ownEvent known decl.event.name ++
      newEvents (known ++ ownEvent known decl.event.name) rest := by
  unfold newEvents ownEvent
  by_cases inside : decl.event.name ∈ known
  · rw [if_pos inside, List.append_nil, List.map_cons, List.filter_cons_of_neg (by simpa using inside),
      List.nil_append]
  · rw [if_neg inside, List.map_cons, List.filter_cons_of_pos (by simpa using inside),
      List.eraseDups_cons, List.filter_filter, List.singleton_append]
    refine congrArg (fun names => decl.event.name :: List.eraseDups names) (List.filter_congr ?_)
    intro name _
    by_cases same : name = decl.event.name <;> simp [same]

theorem ownEvent_names (events : Registry Contract) (name : String) :
    ownEvent events.names name = if events.contains name then [] else [name] := by
  simp only [ownEvent, Registry.contains_iff_mem_names]

theorem declareListener_registers {contract : Contract}
    (declared : catalog.declareListener contract = .ok next) :
    ∃ more, next = catalog.addEvents more ∧ more.names = ownEvent catalog.events.names contract.name ∧
      catalog.events.Follows more ∧
      ∃ known, next.events.find? contract.name = some known ∧ known.Matches contract := by
  obtain ⟨grows, heard⟩ := Catalog.declareListener_grows declared
  have after := grows.after
  unfold Catalog.introduced at after
  rw [ownEvent_names]
  split at after
  · next old =>
    rw [Catalog.append_empty] at after
    refine ⟨.empty, after.trans catalog.addEvents_empty.symm, ?_, .nothing _, heard⟩
    rw [if_pos old]
    rfl
  · next new =>
    rw [Catalog.append_ofEvent] at after
    rw [Registry.contains_iff_mem_names] at new
    refine ⟨⟨[contract]⟩, after, ?_, .one new, heard⟩
    rw [if_neg ((Registry.contains_iff_mem_names _ _).not.mpr new)]
    rfl

theorem loadListeners_registers {decls : List SystemDecl} {names : List String} {contracts : List Contract}
    (loaded : loadListeners source decls catalog = .ok (names, contracts, next)) :
    ∃ more, next = catalog.addEvents more ∧ more.names = names ∧ catalog.events.Follows more ∧
      names = newEvents catalog.events.names decls ∧
      List.Forall₂ (fun decl contract => decl.event.Heard source catalog.components next.events contract)
        decls contracts := by
  induction decls generalizing catalog names contracts with
  | nil =>
    cases loaded
    exact ⟨.empty, (Catalog.addEvents_empty _).symm, rfl, .nothing _, rfl, .nil⟩
  | cons decl rest ih =>
    obtain ⟨contract, written, others⟩ := bind_ok loaded
    obtain ⟨middle, declared, remaining⟩ := bind_ok others
    obtain ⟨⟨behind, contractsBehind, final⟩, listened, done⟩ := bind_ok remaining
    cases done
    have name := EventDecl.contract_name written
    obtain ⟨first, rfl, own, new, heard⟩ := declareListener_registers (mapError_ok declared)
    obtain ⟨second, rfl, rfl, follows, introduced, all⟩ := ih listened
    have here : decl.event.Heard source catalog.components (catalog.addEvents first).events contract :=
      ⟨written, name ▸ heard⟩
    refine ⟨_, catalog.addEvents_append _ _, ?_, new.append follows, ?_, .cons (here.append second) all⟩
    · rw [Registry.names_append, own, ownEvent_names]
    · change second.names = newEvents (catalog.events.append first).names rest at introduced
      rw [Registry.names_append] at introduced
      rw [newEvents_cons, ← name, ← own, ← introduced, own, ownEvent_names]

/-! ### Systems -/

theorem name_fresh_of_declareSystem {system : System} (declared : catalog.declareSystem system = .ok next) :
    system.name ∉ catalog.systems.names := by
  obtain ⟨_, -, others⟩ := bind_ok declared
  dsimp only at others
  split at others
  · cases others
  · next fresh => rwa [Registry.contains_iff_mem_names] at fresh

theorem declareSystem_registers {system : System} {contract : Contract}
    (listens : system.listener = some contract) (known : catalog.events.contains contract.name = true)
    (declared : catalog.declareSystem system = .ok next) : next = catalog.addSystems ⟨[system]⟩ := by
  have grows := Catalog.declareSystem_grows declared
  rw [grows.after, Catalog.brought, listens]
  dsimp only
  rw [Catalog.introduced, if_pos known, Catalog.empty_append, Catalog.append_ofSystem]
  rfl

theorem EventDecl.Heard.contains {decl : EventDecl} {contract : Contract}
    {components : Registry Component} {events : Registry Contract}
    (heard : decl.Heard source components events contract) : events.contains contract.name = true := by
  obtain ⟨written, known, found, -⟩ := heard
  rw [EventDecl.contract_name written, Registry.contains, found]
  rfl

structure SystemDecl.Registered (settings : Settings) (source : String) (catalog : Catalog)
    (decl : SystemDecl) : Prop where
  checked : decl.check catalog.components catalog.events source = .ok ()
  exists_contract : ∃ contract, decl.event.Heard source catalog.components catalog.events contract ∧
    catalog.systems.find? decl.name = some ((settings.routine source catalog decl).toSystem contract)

theorem loadSystems_registers {settings : Settings} {decls : List SystemDecl} {contracts : List Contract}
    (heard : List.Forall₂ (fun decl contract =>
      decl.event.Heard source catalog.components catalog.events contract) decls contracts)
    (loaded : loadSystems settings source decls contracts catalog = .ok next) :
    ∃ more, next = catalog.addSystems more ∧ more.names = decls.map SystemDecl.name ∧
      catalog.systems.Follows more ∧ ∀ decl ∈ decls, decl.Registered settings source next := by
  induction decls generalizing catalog contracts with
  | nil =>
    cases loaded
    refine ⟨.empty, ?_, rfl, .nothing _, nofun⟩
    rw [Catalog.addSystems, Registry.append_empty]
  | cons decl rest ih =>
    obtain ⟨contract, behind, here, others, rfl⟩ := List.forall₂_cons_left_iff.mp heard
    obtain ⟨_, checked, remaining⟩ := bind_ok loaded
    obtain ⟨middle, declared, last⟩ := bind_ok remaining
    have fresh := name_fresh_of_declareSystem (mapError_ok declared)
    obtain rfl := declareSystem_registers rfl here.contains (mapError_ok declared)
    obtain ⟨more, rfl, names, follows, registered⟩ := ih (by exact others) last
    refine ⟨_, ?_, ?_, (Registry.Follows.one fresh).append follows,
      List.forall_mem_cons.mpr ⟨⟨checked, contract, here, ?_⟩, registered⟩⟩
    · rw [Catalog.addSystems, Catalog.addSystems, Catalog.addSystems, Registry.append_assoc]
    · rw [Registry.names_append, names]
      rfl
    · exact Registry.find?_append (Registry.find?_append_one (Registry.find?_eq_none_of_fresh fresh)) more

/-! ### Scripts -/

def Item.Registered (settings : Settings) (source : String) (catalog : Catalog) : Item → Prop
  | .component decl => decl.Registered source catalog.components
  | .event decl => decl.Registered source catalog.components catalog.events
  | .system decl => decl.Registered settings source catalog

theorem Tree.mem_components {tree : Tree} {decl : ComponentDecl} :
    decl ∈ tree.components ↔ .component decl ∈ tree.items := by
  rw [Tree.components, List.mem_filterMap]
  constructor
  · rintro ⟨item, inside, picked⟩
    cases item <;> cases picked
    exact inside
  · intro inside
    exact ⟨_, inside, rfl⟩

def Tree.summary (tree : Tree) (known : List String) : Summary where
  components := tree.components.map ComponentDecl.name
  events := tree.events.map EventDecl.name ++
    newEvents (known ++ tree.events.map EventDecl.name) tree.systems
  systems := tree.systems.map SystemDecl.name

theorem load_registers {settings : Settings} {summary : Summary} {later : Catalog}
    (loaded : load settings source catalog = .ok (summary, later)) :
    ∃ tree more, parse source = .ok tree ∧ later = catalog.append more ∧ catalog.Follows more ∧
      more.summary = summary ∧ summary = tree.summary catalog.events.names ∧
      ∀ item ∈ tree.items, item.Registered settings source later := by
  obtain ⟨tree, read, loadedTree⟩ := load_ok loaded
  obtain ⟨components, events, introduced, contracts, listening, first, second, third, fourth, rfl⟩ :=
    loadTree_ok loadedTree
  obtain ⟨moreComponents, rfl, namesComponents, followComponents, registeredComponents⟩ :=
    loadComponents_registers first
  obtain ⟨moreEvents, rfl, namesEvents, followEvents, registeredEvents⟩ := loadEvents_registers second
  obtain ⟨moreListeners, rfl, rfl, followListeners, introduced, heard⟩ := loadListeners_registers third
  obtain ⟨moreSystems, rfl, namesSystems, followSystems, registeredSystems⟩ :=
    loadSystems_registers heard fourth
  refine ⟨tree, ⟨moreComponents, moreEvents.append moreListeners, moreSystems⟩, read, ?_,
    ⟨followComponents, followEvents.append followListeners, followSystems⟩, ?_, ?_, ?_⟩
  · simp only [Catalog.append, Catalog.addComponents, Catalog.addEvents, Catalog.addSystems,
      Registry.append_assoc]
  · rw [Catalog.summary, Registry.names_append, namesComponents, namesEvents, namesSystems]
  · rw [Tree.summary, introduced, ← namesEvents, ← Registry.names_append]
    rfl
  · intro item inside
    cases item with
    | component decl => exact registeredComponents decl (Tree.mem_components.mpr inside)
    | event decl =>
      exact (registeredEvents decl (List.mem_filterMap.mpr ⟨_, inside, rfl⟩)).append moreListeners
    | system decl => exact registeredSystems decl (List.mem_filterMap.mpr ⟨_, inside, rfl⟩)

theorem exists_loaded_of_decide {source : String} {holds : Tree → Catalog → Prop}
    [∀ tree catalog, Decidable (holds tree catalog)]
    (checked : ((parse source).toOption.any fun tree =>
      (load .standard source .empty).toOption.any fun result => decide (holds tree result.2)) = true) :
    ∃ tree summary after, parse source = .ok tree ∧ load .standard source .empty = .ok (summary, after) ∧
      holds tree after := by
  cases parsed : parse source with
  | error fault =>
    rw [parsed] at checked
    cases checked
  | ok tree =>
    rw [parsed] at checked
    cases loaded : load .standard source .empty with
    | error fault =>
      rw [loaded] at checked
      cases checked
    | ok result =>
      rw [loaded] at checked
      exact ⟨tree, result.1, result.2, rfl, rfl, of_decide_eq_true checked⟩

end Script

end Stagecraft
