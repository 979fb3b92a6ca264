import Stagecraft.Proofs.Script.Alike
import Stagecraft.Proofs.Script.Echoes
import Stagecraft.Proofs.Script.Integrity

/-!
Staging: what can be loaded in two steps can be loaded at once. Each declaration is accepted where more is
registered, and every stage adds to a larger catalog what it adds to a smaller one.
-/

namespace Stagecraft

/-! ### Registries -/

namespace Registry

variable {α : Type} [Named α] {registry more others : Registry α}

theorem find?_append_eq (registry more : Registry α) (name : String) :
    (registry.append more).find? name = (registry.find? name).or (more.find? name) :=
  List.find?_append

theorem find?_eq_none_of_fresh {name : String} (fresh : name ∉ registry.names) :
    registry.find? name = none := by
  rw [← contains_iff_mem_names] at fresh
  exact Option.not_isSome_iff_eq_none.mp fresh

/-- Where no name is given twice, it does not matter to a name which entries come first. -/
theorem find?_swap (apart : ∀ name ∈ more.names, name ∉ others.names) (name : String) :
    ((registry.append more).append others).find? name = ((registry.append others).append more).find? name := by
  simp only [find?_append_eq, Option.or_assoc]
  by_cases inside : name ∈ more.names
  · rw [find?_eq_none_of_fresh (apart name inside), Option.or_none, Option.none_or]
  · rw [find?_eq_none_of_fresh inside, Option.or_none, Option.none_or]

end Registry

/-! ### Checks -/

section Checks

variable {small large : Registry Component} (within : small.Within large)
include within

theorem checkRegistered_settles (owner : String) (roles : List Role) :
    Settles (checkRegistered owner roles small) (checkRegistered owner roles large) := by
  intro result known
  cases result
  rw [checkRegistered_ok_iff] at known ⊢
  exact fun role member name asked => within.contains (known role member name asked)

theorem Contract.validate_settles (contract : Contract) :
    Settles (contract.validate small) (contract.validate large) :=
  .ite Iff.rfl (fun _ => .error) fun _ => checkRegistered_settles within _ _

theorem System.validate_settles (system : System) :
    Settles (system.validate small) (system.validate large) := by
  unfold System.validate
  refine .ite Iff.rfl (fun _ => .error) fun _ => .ite Iff.rfl (fun _ => .error) fun _ => ?_
  refine .bind (checkRegistered_settles within _ _) fun _ _ => ?_
  cases system.listener with
  | none => exact .refl _
  | some contract => exact .ite Iff.rfl (fun _ => .error) fun _ => checkRegistered_settles within _ _

end Checks

namespace Catalog

/-! ### Single declarations -/

def addComponents (catalog : Catalog) (more : Registry Component) : Catalog :=
  { catalog with components := catalog.components.append more }

def addEvents (catalog : Catalog) (more : Registry Contract) : Catalog :=
  { catalog with events := catalog.events.append more }

theorem addComponents_empty (catalog : Catalog) : catalog.addComponents .empty = catalog := by
  rw [addComponents, Registry.append_empty]

theorem addComponents_append (catalog : Catalog) (first second : Registry Component) :
    (catalog.addComponents first).addComponents second = catalog.addComponents (first.append second) := by
  simp only [addComponents, Registry.append_assoc]

theorem addEvents_empty (catalog : Catalog) : catalog.addEvents .empty = catalog := by
  rw [addEvents, Registry.append_empty]

theorem addEvents_append (catalog : Catalog) (first second : Registry Contract) :
    (catalog.addEvents first).addEvents second = catalog.addEvents (first.append second) := by
  simp only [addEvents, Registry.append_assoc]

variable {catalog next other : Catalog}

theorem declareComponent_settles (same : other.components = catalog.components) {component : Component}
    (declared : catalog.declareComponent component = .ok next) :
    next = catalog.addComponents ⟨[component]⟩ ∧
      other.declareComponent component = .ok (other.addComponents ⟨[component]⟩) := by
  obtain ⟨_, valid, others⟩ := bind_ok declared
  obtain ⟨components, added, done⟩ := bind_ok others
  cases done
  obtain ⟨-, rfl⟩ := Registry.add_ok added
  refine ⟨rfl, ?_⟩
  unfold declareComponent addComponents
  rw [valid, same, added]
  rfl

theorem declareEvent_settles (within : catalog.components.Within other.components) {contract : Contract}
    (fresh : contract.name ∉ other.events.names) (declared : catalog.declareEvent contract = .ok next) :
    next = catalog.addEvents ⟨[contract]⟩ ∧
      other.declareEvent contract = .ok (other.addEvents ⟨[contract]⟩) := by
  obtain ⟨_, valid, others⟩ := bind_ok declared
  obtain ⟨events, added, done⟩ := bind_ok others
  cases done
  obtain ⟨-, rfl⟩ := Registry.add_ok added
  refine ⟨rfl, ?_⟩
  unfold declareEvent
  rw [Contract.validate_settles within contract _ valid, Registry.add_ok_iff.mpr ⟨fresh, rfl⟩]
  rfl

theorem name_fresh_of_declareEvent {contract : Contract} (declared : catalog.declareEvent contract = .ok next) :
    contract.name ∉ catalog.events.names := by
  obtain ⟨_, -, others⟩ := bind_ok declared
  obtain ⟨events, added, -⟩ := bind_ok others
  exact (Registry.add_ok added).1

theorem declareListener_settles {contract : Contract} (declared : catalog.declareListener contract = .ok next) :
    ∃ more, next = catalog.addEvents more ∧ ∀ other : Catalog, catalog.components.Within other.components →
      other.events.find? contract.name = catalog.events.find? contract.name →
      other.declareListener contract = .ok (other.addEvents more) := by
  unfold declareListener at declared
  split at declared
  · next known found =>
    obtain ⟨_, compatible, done⟩ := bind_ok declared
    cases done
    refine ⟨.empty, (addEvents_empty _).symm, fun other _ same => ?_⟩
    rw [declareListener, same, found, addEvents_empty]
    dsimp only
    rw [compatible]
    rfl
  · next unknown =>
    refine ⟨⟨[contract]⟩, (declareEvent_settles (.refl _) (name_fresh_of_declareEvent declared) declared).1,
      fun other within same => ?_⟩
    -- What is unknown here has to be unknown there too, or it would be compared and not declared.
    have fresh : contract.name ∉ other.events.names := by
      rw [← Registry.contains_iff_mem_names, Registry.contains, same, unknown]
      exact Bool.false_ne_true
    rw [declareListener, same, unknown]
    exact (declareEvent_settles within fresh declared).2

theorem declareSystem_settles {system : System} {contract : Contract}
    (listens : system.listener = some contract) (known : catalog.events.contains contract.name = true)
    (declared : catalog.declareSystem system = .ok next) :
    ∃ more, next = { catalog with systems := more } ∧ ∀ other : Catalog,
      catalog.components.Within other.components → catalog.events.Within other.events →
      other.systems = catalog.systems → other.declareSystem system = .ok { other with systems := more } := by
  obtain ⟨_, valid, others⟩ := bind_ok declared
  obtain ⟨event, found⟩ := Option.isSome_iff_exists.mp known
  dsimp only at others
  split at others
  · cases others
  · next unused =>
    rw [listens] at others
    obtain ⟨middle, listened, last⟩ := bind_ok others
    unfold declareListener at listened
    rw [found] at listened
    obtain ⟨_, agrees, done⟩ := bind_ok listened
    cases done
    obtain ⟨more, added, done⟩ := bind_ok last
    cases done
    refine ⟨more, rfl, fun other within hears systems => ?_⟩
    have heard : other.declareListener contract = .ok other := by
      rw [declareListener, hears _ _ found]
      dsimp only
      rw [agrees]
      rfl
    unfold declareSystem
    rw [System.validate_settles within system _ valid, systems, listens]
    simp only [bind, Except.bind, if_neg unused, heard, systems, added]
    rfl

end Catalog

namespace Script

variable {source sourceOther : String} {catalog next other : Catalog}

/-! ### Stages -/

theorem loadComponents_settles {decls : List ComponentDecl}
    (loaded : loadComponents source decls catalog = .ok next) :
    ∃ more, next = catalog.addComponents more ∧ ∀ (sourceOther : String) (others : List ComponentDecl)
      (other : Catalog), decls.map ComponentDecl.bare = others.map ComponentDecl.bare →
      other.components = catalog.components →
      loadComponents sourceOther others other = .ok (other.addComponents more) := by
  induction decls generalizing catalog with
  | nil =>
    cases loaded
    refine ⟨.empty, (Catalog.addComponents_empty _).symm, fun sourceOther others other alike _ => ?_⟩
    rw [List.map_eq_nil_iff.mp alike.symm, other.addComponents_empty]
    rfl
  | cons decl rest ih =>
    obtain ⟨schema, found, remaining⟩ := bind_ok loaded
    obtain ⟨middle, declared, last⟩ := bind_ok remaining
    obtain ⟨rfl, -⟩ := Catalog.declareComponent_settles rfl (mapError_ok declared)
    obtain ⟨added, rfl, second⟩ := ih last
    rw [Catalog.addComponents_append]
    refine ⟨_, rfl, fun sourceOther others other alike same => ?_⟩
    obtain ⟨declOther, behind, rfl, here, more⟩ := List.map_eq_cons_iff.mp alike.symm
    obtain ⟨-, first⟩ := Catalog.declareComponent_settles same (mapError_ok declared)
    obtain ⟨name, -, -⟩ := ComponentDecl.mk.inj here
    rw [loadComponents, schema_settles (same ▸ .refl _) source sourceOther here.symm schema found]
    change (ofCatalog (other.declareComponent (.of declOther.name schema)) >>=
      loadComponents sourceOther behind) = _
    rw [name, first, ← Catalog.addComponents_append]
    exact second sourceOther behind _ more.symm (congrArg (Registry.append · _) same)

theorem loadEvents_settles {decls : List EventDecl} (loaded : loadEvents source decls catalog = .ok next) :
    ∃ more, next = catalog.addEvents more ∧ (∀ name ∈ more.names, name ∉ catalog.events.names) ∧
      ∀ (sourceOther : String) (others : List EventDecl) (other : Catalog),
      decls.map EventDecl.bare = others.map EventDecl.bare →
      catalog.components.Within other.components →
      (∀ name ∈ other.events.names, name ∈ catalog.events.names) →
      loadEvents sourceOther others other = .ok (other.addEvents more) := by
  induction decls generalizing catalog with
  | nil =>
    cases loaded
    refine ⟨.empty, (Catalog.addEvents_empty _).symm, nofun, fun sourceOther others other alike _ _ => ?_⟩
    rw [List.map_eq_nil_iff.mp alike.symm, other.addEvents_empty]
    rfl
  | cons decl rest ih =>
    obtain ⟨contract, found, remaining⟩ := bind_ok loaded
    obtain ⟨middle, declared, last⟩ := bind_ok remaining
    have fresh := Catalog.name_fresh_of_declareEvent (mapError_ok declared)
    obtain ⟨rfl, -⟩ := Catalog.declareEvent_settles (.refl _) fresh (mapError_ok declared)
    obtain ⟨added, rfl, apart, second⟩ := ih last
    rw [Catalog.addEvents_append]
    refine ⟨_, rfl, ?_, fun sourceOther others other alike within fewer => ?_⟩
    · intro name inside before
      rw [Registry.names_append] at inside
      rcases List.mem_append.mp inside with same | inside
      · cases List.mem_singleton.mp same
        exact fresh before
      · refine apart name inside ?_
        rw [Catalog.addEvents, Registry.names_append]
        exact List.mem_append_left _ before
    · obtain ⟨declOther, behind, rfl, here, more⟩ := List.map_eq_cons_iff.mp alike.symm
      obtain ⟨-, first⟩ :=
        Catalog.declareEvent_settles within (fun inside => fresh (fewer _ inside)) (mapError_ok declared)
      rw [loadEvents, contract_settles within source sourceOther here.symm contract found]
      change (ofCatalog (other.declareEvent contract) >>= loadEvents sourceOther behind) = _
      rw [first, ← Catalog.addEvents_append]
      refine second sourceOther behind _ more.symm within fun name inside => ?_
      rw [Catalog.addEvents, Registry.names_append] at inside ⊢
      exact List.mem_append.mpr ((List.mem_append.mp inside).imp_left (fewer name))

theorem loadListeners_settles {decls : List SystemDecl} {names : List String} {contracts : List Contract}
    (loaded : loadListeners source decls catalog = .ok (names, contracts, next)) :
    ∃ more, next = catalog.addEvents more ∧ ∀ (sourceOther : String) (others : List SystemDecl)
      (other : Catalog), decls.map SystemDecl.bare = others.map SystemDecl.bare →
      catalog.components.Within other.components →
      (∀ contract ∈ contracts, other.events.find? contract.name = catalog.events.find? contract.name) →
      loadListeners sourceOther others other = .ok (names, contracts, other.addEvents more) := by
  induction decls generalizing catalog names contracts with
  | nil =>
    cases loaded
    refine ⟨.empty, (Catalog.addEvents_empty _).symm, fun sourceOther others other alike _ _ => ?_⟩
    rw [List.map_eq_nil_iff.mp alike.symm, other.addEvents_empty]
    rfl
  | cons decl rest ih =>
    obtain ⟨contract, found, remaining⟩ := bind_ok loaded
    obtain ⟨middle, declared, last⟩ := bind_ok remaining
    obtain ⟨⟨namesBehind, contractsBehind, final⟩, listened, done⟩ := bind_ok last
    cases done
    obtain ⟨new, rfl, first⟩ := Catalog.declareListener_settles (mapError_ok declared)
    obtain ⟨added, rfl, second⟩ := ih listened
    rw [Catalog.addEvents_append]
    refine ⟨_, rfl, fun sourceOther others other alike within same => ?_⟩
    obtain ⟨declOther, behind, rfl, here, more⟩ := List.map_eq_cons_iff.mp alike.symm
    obtain ⟨sameHere, sameBehind⟩ := List.forall_mem_cons.mp same
    have events : declOther.event.bare = decl.event.bare := congrArg SystemDecl.event here
    have known : other.events.contains contract.name = catalog.events.contains contract.name :=
      congrArg Option.isSome sameHere
    have remaining : loadListeners sourceOther behind (other.addEvents new) =
        .ok (namesBehind, contractsBehind, (other.addEvents new).addEvents added) := by
      refine second sourceOther behind _ more.symm within fun contract inside => ?_
      rw [Catalog.addEvents, Catalog.addEvents, Registry.find?_append_eq, Registry.find?_append_eq,
        sameBehind contract inside]
    rw [loadListeners, contract_settles within source sourceOther events.symm contract found]
    change (ofCatalog (other.declareListener contract) >>= fun catalog =>
      loadListeners sourceOther behind catalog >>= fun rest => _) = _
    rw [first other within sameHere]
    change (loadListeners sourceOther behind (other.addEvents new) >>= fun rest => _) = _
    rw [remaining, ← known, Catalog.addEvents_append]
    rfl

theorem loadSystems_settles {settings : Settings} {decls : List SystemDecl} {contracts : List Contract}
    (known : ∀ contract ∈ contracts, catalog.events.contains contract.name = true)
    (loaded : loadSystems settings source decls contracts catalog = .ok next) :
    ∃ more, next = { catalog with systems := more } ∧ ∀ (sourceOther : String) (others : List SystemDecl)
      (other : Catalog), decls.map SystemDecl.bare = others.map SystemDecl.bare →
      catalog.components.Within other.components → catalog.events.Within other.events →
      other.systems = catalog.systems →
      loadSystems settings sourceOther others contracts other = .ok { other with systems := more } := by
  induction decls generalizing catalog contracts with
  | nil =>
    cases loaded
    refine ⟨_, rfl, fun sourceOther others other alike _ _ systems => ?_⟩
    rw [List.map_eq_nil_iff.mp alike.symm, ← systems]
    rfl
  | cons decl rest ih =>
    cases contracts with
    | nil =>
      cases loaded
      refine ⟨_, rfl, fun sourceOther others other _ _ _ systems => ?_⟩
      rw [← systems]
      cases others <;> rfl
    | cons contract contracts =>
      obtain ⟨_, checked, remaining⟩ := bind_ok loaded
      obtain ⟨middle, declared, last⟩ := bind_ok remaining
      obtain ⟨knownHere, knownBehind⟩ := List.forall_mem_cons.mp known
      obtain ⟨new, rfl, first⟩ := Catalog.declareSystem_settles rfl knownHere (mapError_ok declared)
      have knownThen : ∀ contract ∈ contracts,
          ({ catalog with systems := new } : Catalog).events.contains contract.name = true := knownBehind
      obtain ⟨added, rfl, second⟩ := ih knownThen last
      refine ⟨added, rfl, fun sourceOther others other alike within hears systems => ?_⟩
      obtain ⟨declOther, behind, rfl, here, more⟩ := List.map_eq_cons_iff.mp alike.symm
      have routines : (settings.routine source catalog decl).Alike
          (settings.routine sourceOther other declOther) := ⟨here.symm, rfl, rfl⟩
      rw [loadSystems, check_settles here.symm within hears source sourceOther _ checked]
      change (ofCatalog (other.declareSystem
        ((settings.routine sourceOther other declOther).toSystem contract)) >>=
          loadSystems settings sourceOther behind contracts) = _
      rw [← Routine.toSystem_alike routines checked within hears contract, first other within hears systems]
      exact second sourceOther behind _ more.symm within hears rfl

/-! ### Two lists of declarations -/

theorem loadComponents_append (source : String) (first second : List ComponentDecl) (catalog : Catalog) :
    loadComponents source (first ++ second) catalog =
      loadComponents source first catalog >>= loadComponents source second := by
  induction first generalizing catalog with
  | nil => rfl
  | cons decl rest ih => simp only [List.cons_append, loadComponents, ih, bind_assoc]

theorem loadEvents_append (source : String) (first second : List EventDecl) (catalog : Catalog) :
    loadEvents source (first ++ second) catalog =
      loadEvents source first catalog >>= loadEvents source second := by
  induction first generalizing catalog with
  | nil => rfl
  | cons decl rest ih => simp only [List.cons_append, loadEvents, ih, bind_assoc]

theorem loadListeners_append {first second : List SystemDecl} {names more : List String}
    {contracts behind : List Contract} {middle : Catalog}
    (one : loadListeners source first catalog = .ok (names, contracts, middle))
    (other : loadListeners source second middle = .ok (more, behind, next)) :
    loadListeners source (first ++ second) catalog = .ok (names ++ more, contracts ++ behind, next) := by
  induction first generalizing catalog names contracts with
  | nil =>
    cases one
    exact other
  | cons decl rest ih =>
    obtain ⟨contract, found, remaining⟩ := bind_ok one
    obtain ⟨between, declared, last⟩ := bind_ok remaining
    obtain ⟨⟨namesRest, contractsRest, final⟩, listened, done⟩ := bind_ok last
    cases done
    rw [List.cons_append, loadListeners, found]
    change (ofCatalog (catalog.declareListener contract) >>= fun catalog =>
      loadListeners source (rest ++ second) catalog >>= fun rest => _) = _
    rw [declared]
    change (loadListeners source (rest ++ second) between >>= fun rest => _) = _
    rw [ih listened, List.append_assoc]
    rfl

theorem loadSystems_append (settings : Settings) (source : String) {first : List SystemDecl}
    {contracts : List Contract} (length : first.length = contracts.length) (second : List SystemDecl)
    (others : List Contract) (catalog : Catalog) :
    loadSystems settings source (first ++ second) (contracts ++ others) catalog =
      loadSystems settings source first contracts catalog >>= loadSystems settings source second others := by
  induction first generalizing contracts catalog with
  | nil =>
    rw [List.length_eq_zero_iff.mp length.symm]
    cases second <;> rfl
  | cons decl rest ih =>
    cases contracts with
    | nil => cases length
    | cons contract contracts =>
      simp only [List.cons_append, loadSystems, ih (Nat.succ_inj.mp length), bind_assoc]

/-! ### Cargo -/

structure Cargo where
  components : Registry Component
  events : Registry Contract
  /-- The events that the headers of systems introduce, their names, and the contract of every system. -/
  listeners : Registry Contract
  introduced : List String
  contracts : List Contract
  /-- All systems that are there afterwards. -/
  systems : Registry System

namespace Cargo

def into (cargo : Cargo) (catalog : Catalog) : Catalog :=
  ⟨catalog.components.append cargo.components, (catalog.events.append cargo.events).append cargo.listeners,
    cargo.systems⟩

def andThen (cargo other : Cargo) : Cargo where
  components := cargo.components.append other.components
  events := cargo.events.append other.events
  listeners := cargo.listeners.append other.listeners
  introduced := cargo.introduced ++ other.introduced
  contracts := cargo.contracts ++ other.contracts
  systems := other.systems

/-- Every stage of a tree that is loaded into a catalog brings the same into others that suit it. -/
structure Comes (cargo : Cargo) (settings : Settings) (tree : Tree) (catalog : Catalog) : Prop where
  length : tree.systems.length = cargo.contracts.length
  fresh : ∀ name ∈ cargo.events.names, name ∉ catalog.events.names
  heard : ∀ contract ∈ cargo.contracts, contract.name ∈ (cargo.into catalog).events.names
  components : ∀ (source : String) (others : List ComponentDecl) (other : Catalog),
    tree.components.map ComponentDecl.bare = others.map ComponentDecl.bare →
    other.components = catalog.components →
    loadComponents source others other = .ok (other.addComponents cargo.components)
  events : ∀ (source : String) (others : List EventDecl) (other : Catalog),
    tree.events.map EventDecl.bare = others.map EventDecl.bare →
    (cargo.into catalog).components.Within other.components →
    (∀ name ∈ other.events.names, name ∈ catalog.events.names) →
    loadEvents source others other = .ok (other.addEvents cargo.events)
  listeners : ∀ (source : String) (others : List SystemDecl) (other : Catalog),
    tree.systems.map SystemDecl.bare = others.map SystemDecl.bare →
    (cargo.into catalog).components.Within other.components →
    (∀ contract ∈ cargo.contracts, other.events.find? contract.name =
      (catalog.events.append cargo.events).find? contract.name) →
    loadListeners source others other = .ok (cargo.introduced, cargo.contracts, other.addEvents cargo.listeners)
  systems : ∀ (source : String) (others : List SystemDecl) (other : Catalog),
    tree.systems.map SystemDecl.bare = others.map SystemDecl.bare →
    (cargo.into catalog).components.Within other.components →
    (cargo.into catalog).events.Within other.events → other.systems = catalog.systems →
    loadSystems settings source others cargo.contracts other = .ok { other with systems := cargo.systems }

end Cargo

theorem exists_cargo {settings : Settings} {tree : Tree} {summary : Summary}
    (loaded : loadTree settings source tree catalog = .ok (summary, next)) :
    ∃ cargo : Cargo, next = cargo.into catalog ∧ cargo.Comes settings tree catalog := by
  obtain ⟨_, _, introduced, contracts, _, first, second, third, fourth, -⟩ := loadTree_ok loaded
  obtain ⟨components, rfl, enterComponents⟩ := loadComponents_settles first
  obtain ⟨events, rfl, fresh, enterEvents⟩ := loadEvents_settles second
  have listed := (loadListeners_gains third).2
  have length := (loadListeners_ok third).2.length_eq
  obtain ⟨listeners, rfl, enterListeners⟩ := loadListeners_settles third
  obtain ⟨systems, rfl, enterSystems⟩ := loadSystems_settles listed fourth
  refine ⟨⟨components, events, listeners, introduced, contracts, systems⟩, rfl, ?_⟩
  exact {
    length := length
    fresh := fresh
    heard := fun contract inside => (Registry.contains_iff_mem_names _ _).mp (listed contract inside)
    components := enterComponents
    events := enterEvents
    listeners := enterListeners
    systems := enterSystems }

/-! ### Two scripts -/

def Tree.Joins (joint first second : Tree) : Prop :=
  joint.bare.items = first.bare.items ++ second.bare.items

section Joint

variable {joint first second : Tree} (joins : joint.Joins first second)
include joins

theorem exists_split {α : Type} {pick : Item → Option α} {bare : α → α}
    (kind : ∀ item : Item, pick item.bare = (pick item).map bare) :
    ∃ before behind, joint.items.filterMap pick = before ++ behind ∧
      (first.items.filterMap pick).map bare = before.map bare ∧
      (second.items.filterMap pick).map bare = behind.map bare := by
  have picked (tree : Tree) : (tree.items.filterMap pick).map bare = tree.bare.items.filterMap pick := by
    rw [Tree.bare, List.filterMap_map, List.map_filterMap]
    exact congrArg (List.filterMap · _) (funext fun item => (kind item).symm)
  have whole : (joint.items.filterMap pick).map bare =
      (first.items.filterMap pick).map bare ++ (second.items.filterMap pick).map bare := by
    rw [picked, picked, picked, joins, List.filterMap_append]
  obtain ⟨before, behind, same, one, other⟩ := List.map_eq_append_iff.mp whole
  exact ⟨before, behind, same, one.symm, other.symm⟩

theorem exists_components : ∃ before behind, joint.components = before ++ behind ∧
    first.components.map ComponentDecl.bare = before.map ComponentDecl.bare ∧
    second.components.map ComponentDecl.bare = behind.map ComponentDecl.bare :=
  exists_split joins fun item => by cases item <;> rfl

theorem exists_events : ∃ before behind, joint.events = before ++ behind ∧
    first.events.map EventDecl.bare = before.map EventDecl.bare ∧
    second.events.map EventDecl.bare = behind.map EventDecl.bare :=
  exists_split joins fun item => by cases item <;> rfl

theorem exists_systems : ∃ before behind, joint.systems = before ++ behind ∧
    first.systems.map SystemDecl.bare = before.map SystemDecl.bare ∧
    second.systems.map SystemDecl.bare = behind.map SystemDecl.bare :=
  exists_split joins fun item => by cases item <;> rfl

variable {settings : Settings} {catalog : Catalog} {one other : Cargo}
  (comes : one.Comes settings first catalog) (comesOther : other.Comes settings second (one.into catalog))

section Events

omit joins
include comesOther

/-- Events that are new to a catalog come before or behind those of earlier listeners. -/
theorem swap_events (name : String) :
    (((catalog.events.append one.events).append one.listeners).append other.events).find? name =
      (((catalog.events.append one.events).append other.events).append one.listeners).find? name := by
  refine Registry.find?_swap (fun name inside used => comesOther.fresh name used ?_) name
  rw [Cargo.into, Registry.names_append]
  exact List.mem_append_right _ inside

theorem find?_joint (name : String) :
    (other.into (one.into catalog)).events.find? name =
      ((one.andThen other).into catalog).events.find? name := by
  have same := swap_events comesOther name
  simp only [Registry.find?_append_eq, Cargo.into, Cargo.andThen] at same ⊢
  rw [same]
  simp only [Option.or_assoc]

end Events

include comes comesOther

theorem loadComponents_join (source : String) : loadComponents source joint.components catalog =
    .ok (catalog.addComponents (one.andThen other).components) := by
  obtain ⟨before, behind, same, alike, alikeOther⟩ := exists_components joins
  rw [same, loadComponents_append, comes.components source before catalog alike rfl, Cargo.andThen,
    ← Catalog.addComponents_append]
  exact comesOther.components source behind _ alikeOther rfl

section

variable (source : String) (base : Catalog)
  (components : base.components = (other.into (one.into catalog)).components)
include components

theorem loadEvents_join (events : base.events = catalog.events) :
    loadEvents source joint.events base = .ok (base.addEvents (one.andThen other).events) := by
  obtain ⟨before, behind, same, alike, alikeOther⟩ := exists_events joins
  have within : (one.into catalog).components.Within base.components :=
    components ▸ (Registry.Within.refl _).append other.components
  rw [same, loadEvents_append,
    comes.events source before base alike within fun _ inside => events ▸ inside, Cargo.andThen,
    ← Catalog.addEvents_append]
  refine comesOther.events source behind _ alikeOther (components ▸ .refl _) fun name inside => ?_
  rw [Cargo.into, Registry.names_append]
  rw [Catalog.addEvents, events] at inside
  exact List.mem_append_left _ inside

theorem loadListeners_join (events : base.events = catalog.events.append (one.andThen other).events) :
    loadListeners source joint.systems base = .ok ((one.andThen other).introduced,
      (one.andThen other).contracts, base.addEvents (one.andThen other).listeners) := by
  obtain ⟨before, behind, same, alike, alikeOther⟩ := exists_systems joins
  have within : (one.into catalog).components.Within base.components :=
    components ▸ (Registry.Within.refl _).append other.components
  rw [Cargo.andThen, ← Registry.append_assoc] at events
  rw [same, Cargo.andThen, ← Catalog.addEvents_append]
  refine loadListeners_append (comes.listeners source before base alike within fun contract inside => ?_)
    (comesOther.listeners source behind _ alikeOther (components ▸ .refl _) fun contract _ => ?_)
  -- What the second script declares is new behind the first one, whose systems cannot have meant it.
  · have unheard : contract.name ∉ other.events.names := fun new =>
      comesOther.fresh _ new (comes.heard contract inside)
    rw [events, Registry.find?_append_eq, Registry.find?_eq_none_of_fresh unheard, Option.or_none]
  · rw [Catalog.addEvents, events]
    exact (swap_events comesOther contract.name).symm

theorem loadSystems_join (events : base.events = ((one.andThen other).into catalog).events)
    (systems : base.systems = catalog.systems) :
    loadSystems settings source joint.systems (one.andThen other).contracts base =
      .ok { base with systems := other.systems } := by
  obtain ⟨before, behind, same, alike, alikeOther⟩ := exists_systems joins
  have within : (one.into catalog).components.Within base.components :=
    components ▸ (Registry.Within.refl _).append other.components
  -- The order of the events matters to no system, since every one is found under its name.
  have hears : (other.into (one.into catalog)).events.Within base.events := by
    intro name entry found
    rw [events, ← find?_joint comesOther]
    exact found
  have hearsFirst : (one.into catalog).events.Within base.events := fun name entry found =>
    hears name entry (Registry.find?_append (Registry.find?_append found _) _)
  have length : before.length = one.contracts.length := by
    have lengths := congrArg List.length alike
    rw [List.length_map, List.length_map] at lengths
    rw [← lengths, comes.length]
  rw [same, Cargo.andThen, loadSystems_append settings source length,
    comes.systems source before base alike within hearsFirst systems]
  exact comesOther.systems source behind _ alikeOther (components ▸ .refl _) hears rfl

end

theorem loadTree_join (source : String) : loadTree settings source joint catalog =
    .ok (⟨joint.components.map ComponentDecl.name,
      joint.events.map EventDecl.name ++ (one.andThen other).introduced,
      joint.systems.map SystemDecl.name⟩, (one.andThen other).into catalog) := by
  let cargo := one.andThen other
  have components : (catalog.addComponents cargo.components).components =
      (other.into (one.into catalog)).components := (Registry.append_assoc _ _ _).symm
  have first := loadComponents_join joins comes comesOther source
  have second := loadEvents_join joins comes comesOther source _ components rfl
  have third := loadListeners_join joins comes comesOther source
    ((catalog.addComponents cargo.components).addEvents cargo.events) components rfl
  have fourth := loadSystems_join joins comes comesOther source
    (((catalog.addComponents cargo.components).addEvents cargo.events).addEvents cargo.listeners)
    components rfl rfl
  rw [loadTree, first]
  change (loadEvents source joint.events _ >>= fun catalog => _) = _
  rw [second]
  change (loadListeners source joint.systems _ >>= fun found => _) = _
  rw [third]
  change (loadSystems settings source joint.systems _ _ >>= fun catalog => _) = _
  rw [fourth]
  rfl

end Joint

/-- Two steps or one: where the first source ends with a line, what can be loaded in two steps can be loaded at
once. The components and the systems are the same, the bodies of the systems included; the events are the same
in another order. -/
theorem load_append (settings : Settings) {first second : String} {before middle after : Catalog}
    {summary summaryOther : Summary} (ends : first = "" ∨ ∃ lines, first = lines ++ "\n")
    (loaded : load settings first before = .ok (summary, middle))
    (loadedOther : load settings second middle = .ok (summaryOther, after)) :
    ∃ whole last, load settings (first ++ second) before = .ok (whole, last) ∧
      last.components = after.components ∧ last.systems = after.systems ∧
      last.events.entries.Perm after.events.entries := by
  obtain ⟨tree, parsed, entered⟩ := load_ok loaded
  obtain ⟨treeOther, parsedOther, enteredOther⟩ := load_ok loadedOther
  obtain ⟨joint, parsedJoint, joins⟩ := parse_append ends parsed parsedOther
  obtain ⟨one, rfl, comes⟩ := exists_cargo entered
  obtain ⟨other, rfl, comesOther⟩ := exists_cargo enteredOther
  have whole : load settings (first ++ second) before = loadTree settings (first ++ second) joint before := by
    rw [load, parsedJoint]
    rfl
  have components := Registry.append_assoc before.components one.components other.components
  refine ⟨_, _, whole.trans (loadTree_join joins comes comesOther _), components.symm, rfl, ?_⟩
  simp only [Cargo.into, Cargo.andThen, Registry.append, List.append_assoc]
  exact ((List.perm_append_comm_assoc _ _ _).append_left _).append_left _

def dimLines : String :=
  "component Lamp\n\tNumber glow\nsystem Dim(lamp<Lamp>) event Tick()\n\tlamp.Lamp.glow = 0"

def dimScript : String := dimLines ++ "\n"

def sparkScript : String :=
  "event Spark(lamp<Lamp>)\nsystem Strike(lamp<Lamp>) event Tick()\n\temit Spark(lamp)\n"

def loadedOr (source : String) (catalog : Catalog) : Catalog :=
  match load .standard source catalog with
  | .ok (_, after) => after
  | .error _ => catalog

theorem sparkScript_append :
    let middle := loadedOr dimScript .empty
    let after := loadedOr sparkScript middle
    ∃ summary summaryOther whole last, load .standard dimScript .empty = .ok (summary, middle) ∧
      load .standard sparkScript middle = .ok (summaryOther, after) ∧
      after.events.names = ["Tick", "Spark"] ∧
      load .standard (dimScript ++ sparkScript) .empty = .ok (whole, last) ∧
      last.components = after.components ∧ last.systems = after.systems ∧
      last.events.entries.Perm after.events.entries := by
  intro middle after
  obtain ⟨one, other, names⟩ : (load .standard dimScript .empty).isOk = true ∧
      (load .standard sparkScript middle).isOk = true ∧ after.events.names = ["Tick", "Spark"] := by
    decide +kernel
  have succeeds {source : String} {catalog : Catalog} (ok : (load .standard source catalog).isOk = true) :
      ∃ summary, load .standard source catalog = .ok (summary, loadedOr source catalog) := by
    obtain ⟨⟨summary, after⟩, loads⟩ := exists_ok_of_isOk ok
    refine ⟨summary, ?_⟩
    unfold loadedOr
    rw [loads]
  obtain ⟨summary, loaded⟩ := succeeds one
  obtain ⟨summaryOther, loadedOther⟩ := succeeds other
  obtain ⟨whole, last, joint⟩ := load_append .standard (.inr ⟨dimLines, rfl⟩) loaded loadedOther
  exact ⟨summary, summaryOther, whole, last, loaded, loadedOther, names, joint⟩

end Script

end Stagecraft
