import Mathlib.Data.List.Nodup
import Stagecraft.Catalog.InPlace
import Stagecraft.Proofs.Effects
import Stagecraft.Proofs.Script.Loading

/-!
Integrity: names are given once, and whatever a declaration refers to is declared. A declaration keeps this,
and adds to the end. It is all done or not at all when a catalog is changed in place, although a system is
registered in two steps.
-/

namespace Stagecraft

/-! ### Registries -/

namespace Registry

section

variable {α : Type}

def append (registry more : Registry α) : Registry α := ⟨registry.entries ++ more.entries⟩

theorem append_empty (registry : Registry α) : registry.append empty = registry := by
  rw [append, empty, List.append_nil]

theorem append_assoc (first second third : Registry α) :
    (first.append second).append third = first.append (second.append third) := by
  rw [append, append, append, append, List.append_assoc]

end

variable {α : Type} [Named α] {registry : Registry α} {entry : α}

/-- Names are not empty and not given twice, and a name leads to what was registered under it. -/
structure Orderly (registry : Registry α) : Prop where
  named : ∀ entry ∈ registry.entries, Named.name entry ≠ ""
  distinct : registry.names.Nodup
  find?_iff : ∀ name entry, registry.find? name = some entry ↔
    entry ∈ registry.entries ∧ Named.name entry = name

theorem find?_iff_of_distinct (distinct : registry.names.Nodup) {name : String} :
    registry.find? name = some entry ↔ entry ∈ registry.entries ∧ Named.name entry = name := by
  refine ⟨fun found => ⟨List.mem_of_find?_eq_some found, find?_name found⟩, ?_⟩
  rintro ⟨member, rfl⟩
  have present : registry.contains (Named.name entry) = true :=
    (contains_iff_mem_names _ _).mpr (List.mem_map_of_mem member)
  obtain ⟨other, found⟩ := Option.isSome_iff_exists.mp present
  have same := List.inj_on_of_nodup_map distinct (List.mem_of_find?_eq_some found) member
    (find?_name found)
  rw [found, same]

theorem orderly_empty : (empty : Registry α).Orderly := ⟨nofun, List.nodup_nil, by simp [find?, empty]⟩

theorem names_append (registry more : Registry α) :
    (registry.append more).names = registry.names ++ more.names :=
  List.map_append

theorem contains_append {name : String} (known : registry.contains name = true) (more : Registry α) :
    (registry.append more).contains name = true := by
  rw [contains_iff_mem_names] at known ⊢
  rw [names_append]
  exact List.mem_append_left _ known

theorem find?_append {name : String} (found : registry.find? name = some entry) (more : Registry α) :
    (registry.append more).find? name = some entry := by
  rw [find?, append, List.find?_append, show registry.entries.find? _ = some entry from found]
  rfl

theorem find?_append_one (unknown : registry.find? (Named.name entry) = none) :
    (registry.append ⟨[entry]⟩).find? (Named.name entry) = some entry := by
  rw [find?, append, List.find?_append, show registry.entries.find? _ = none from unknown]
  simp

theorem add_of_fresh (fresh : ¬registry.contains (Named.name entry) = true) :
    registry.add entry = .ok (registry.append ⟨[entry]⟩) :=
  if_neg fresh

theorem add_ok {next : Registry α} (added : registry.add entry = .ok next) :
    Named.name entry ∉ registry.names ∧ next = registry.append ⟨[entry]⟩ :=
  add_ok_iff.mp added

theorem Orderly.append_empty (orderly : registry.Orderly) : (registry.append empty).Orderly := by
  rwa [Registry.append_empty]

theorem Orderly.append_one (orderly : registry.Orderly) (named : Named.name entry ≠ "")
    (fresh : Named.name entry ∉ registry.names) : (registry.append ⟨[entry]⟩).Orderly := by
  have distinct : (registry.append ⟨[entry]⟩).names.Nodup := by
    rw [names_append]
    exact orderly.distinct.append (List.nodup_singleton _) (List.disjoint_singleton.mpr fresh)
  refine ⟨?_, distinct, fun _ _ => find?_iff_of_distinct distinct⟩
  rw [append, List.forall_mem_append, List.forall_mem_singleton]
  exact ⟨orderly.named, named⟩

end Registry

/-! ### Catalogs -/

theorem checkRegistered_ok_iff {owner : String} {roles : List Role} {components : Registry Component} :
    checkRegistered owner roles components = .ok () ↔
      ∀ role ∈ roles, ∀ name ∈ role.components, components.contains name = true := by
  unfold checkRegistered
  split
  · next name found =>
    refine ⟨nofun, fun known => ?_⟩
    obtain ⟨role, member, asked⟩ := List.mem_flatMap.mp (List.mem_of_find?_eq_some found)
    have unknown := List.find?_some found
    rw [known role member name asked] at unknown
    cases unknown
  · next none =>
    refine ⟨fun _ role member name asked => ?_, fun _ => rfl⟩
    simpa using List.find?_eq_none.mp none name (List.mem_flatMap.mpr ⟨role, member, asked⟩)

theorem Contract.roleDifference?_eq_none {ours theirs : List Role} (length : ours.length = theirs.length)
    {index : Nat} (agree : roleDifference? index ours theirs = none) :
    ours.map Role.components = theirs.map Role.components := by
  induction ours generalizing theirs index with
  | nil => rw [List.length_eq_zero_iff.mp length.symm]
  | cons role rest ih =>
    cases theirs with
    | nil => cases length
    | cons other others =>
      rw [roleDifference?] at agree
      split at agree
      · next same =>
        rw [List.map_cons, List.map_cons, same, ih (Nat.succ_inj.mp length) agree]
      · cases agree

/-- One contract does for the other: both have the same payload, and ask for the same components in every
role. -/
structure Contract.Matches (declared found : Contract) : Prop where
  payload : declared.payload = found.payload
  components : declared.roles.map Role.components = found.roles.map Role.components

theorem Contract.matches_of_compatible {declared found : Contract}
    (compatible : declared.checkCompatible found = .ok ()) : declared.Matches found := by
  unfold checkCompatible at compatible
  split at compatible
  · cases compatible
  · next agree =>
    unfold difference? at agree
    split at agree
    · cases agree
    · next payload =>
      split at agree
      · cases agree
      · next length =>
        exact ⟨not_not.mp payload, roleDifference?_eq_none (not_not.mp length) agree⟩

namespace Catalog

variable {catalog next : Catalog}

def Knows (catalog : Catalog) (roles : List Role) : Prop :=
  ∀ role ∈ roles, ∀ name ∈ role.components, catalog.components.contains name = true

structure Supports (catalog : Catalog) (system : System) : Prop where
  parameterized : system.params ≠ []
  asking : ∀ param ∈ system.params, param.components ≠ []
  params : catalog.Knows system.params
  listener : ∀ contract, system.listener = some contract →
    catalog.Knows contract.roles ∧
      ∃ declared, catalog.events.find? contract.name = some declared ∧ declared.Matches contract

/-- Names lead to what they were given to, and whatever is referred to is declared. -/
structure Whole (catalog : Catalog) : Prop where
  components : catalog.components.Orderly
  events : catalog.events.Orderly
  systems : catalog.systems.Orderly
  initial : ∀ component ∈ catalog.components.entries, component.initial.schema = component.schema
  roles : ∀ contract ∈ catalog.events.entries, catalog.Knows contract.roles
  supported : ∀ system ∈ catalog.systems.entries, catalog.Supports system

theorem empty_whole : empty.Whole :=
  ⟨Registry.orderly_empty, Registry.orderly_empty, Registry.orderly_empty, nofun, nofun, nofun⟩

def append (catalog more : Catalog) : Catalog :=
  ⟨catalog.components.append more.components, catalog.events.append more.events,
    catalog.systems.append more.systems⟩

theorem append_empty (catalog : Catalog) : catalog.append empty = catalog := by
  rw [append, empty, Registry.append_empty, Registry.append_empty, Registry.append_empty]

theorem empty_append (catalog : Catalog) : empty.append catalog = catalog := rfl

theorem append_assoc (first second third : Catalog) :
    (first.append second).append third = first.append (second.append third) := by
  simp only [append, Registry.append_assoc]

theorem Knows.append {roles : List Role} (knows : catalog.Knows roles) (more : Catalog) :
    (catalog.append more).Knows roles :=
  fun role member name asked => Registry.contains_append (knows role member name asked) more.components

theorem Supports.append {system : System} (supports : catalog.Supports system) (more : Catalog) :
    (catalog.append more).Supports system where
  parameterized := supports.parameterized
  asking := supports.asking
  params := supports.params.append more
  listener contract listens := by
    obtain ⟨knows, declared, found, agrees⟩ := supports.listener contract listens
    exact ⟨knows.append more, declared, Registry.find?_append found more.events, agrees⟩

theorem Whole.append (whole : catalog.Whole) {more : Catalog}
    (components : (catalog.append more).components.Orderly)
    (events : (catalog.append more).events.Orderly)
    (systems : (catalog.append more).systems.Orderly)
    (initial : ∀ component ∈ more.components.entries, component.initial.schema = component.schema)
    (roles : ∀ contract ∈ more.events.entries, (catalog.append more).Knows contract.roles)
    (supported : ∀ system ∈ more.systems.entries, (catalog.append more).Supports system) :
    (catalog.append more).Whole where
  components := components
  events := events
  systems := systems
  initial := List.forall_mem_append.mpr ⟨whole.initial, initial⟩
  roles := List.forall_mem_append.mpr
    ⟨fun contract member => (whole.roles contract member).append more, roles⟩
  supported := List.forall_mem_append.mpr
    ⟨fun system member => (whole.supported system member).append more, supported⟩

/-- A whole catalog stays whole, and comes out with more at its end. -/
structure Grows (catalog more next : Catalog) : Prop where
  after : next = catalog.append more
  whole : catalog.Whole → next.Whole

namespace Grows

theorem refl (catalog : Catalog) : catalog.Grows empty catalog := ⟨catalog.append_empty.symm, id⟩

theorem trans {first second third more others : Catalog} (one : first.Grows more second)
    (other : second.Grows others third) : first.Grows (more.append others) third where
  after := by rw [other.after, one.after, append_assoc]
  whole := other.whole ∘ one.whole

end Grows

/-! ### Single declarations -/

def ofComponent (component : Component) : Catalog := { empty with components := ⟨[component]⟩ }

def ofEvent (contract : Contract) : Catalog := { empty with events := ⟨[contract]⟩ }

def ofSystem (system : System) : Catalog := { empty with systems := ⟨[system]⟩ }

theorem append_ofComponent (catalog : Catalog) (component : Component) :
    catalog.append (ofComponent component) =
      { catalog with components := catalog.components.append ⟨[component]⟩ } := by
  rw [append, ofComponent, empty, Registry.append_empty, Registry.append_empty]

theorem append_ofEvent (catalog : Catalog) (contract : Contract) :
    catalog.append (ofEvent contract) =
      { catalog with events := catalog.events.append ⟨[contract]⟩ } := by
  rw [append, ofEvent, empty, Registry.append_empty, Registry.append_empty]

theorem append_ofSystem (catalog : Catalog) (system : System) :
    catalog.append (ofSystem system) =
      { catalog with systems := catalog.systems.append ⟨[system]⟩ } := by
  rw [append, ofSystem, empty, Registry.append_empty, Registry.append_empty]

theorem declareComponent_grows {component : Component}
    (declared : catalog.declareComponent component = .ok next) :
    catalog.Grows (ofComponent component) next := by
  obtain ⟨_, valid, others⟩ := bind_ok declared
  obtain ⟨components, added, same⟩ := bind_ok others
  cases same
  obtain ⟨fresh, rfl⟩ := Registry.add_ok added
  unfold Component.validate at valid
  split at valid
  · cases valid
  · next named =>
    rw [← append_ofComponent]
    refine ⟨rfl, fun whole => whole.append ?_ ?_ ?_ ?_ nofun nofun⟩
    · exact whole.components.append_one named fresh
    · exact whole.events.append_empty
    · exact whole.systems.append_empty
    · exact List.forall_mem_singleton.mpr ((Component.accept_ok_iff _ _).mp valid)

theorem declareEvent_grows {contract : Contract}
    (declared : catalog.declareEvent contract = .ok next) :
    catalog.Grows (ofEvent contract) next := by
  obtain ⟨_, valid, others⟩ := bind_ok declared
  obtain ⟨events, added, same⟩ := bind_ok others
  cases same
  obtain ⟨fresh, rfl⟩ := Registry.add_ok added
  unfold Contract.validate at valid
  split at valid
  · cases valid
  · next named =>
    have knows : catalog.Knows contract.roles := checkRegistered_ok_iff.mp valid
    rw [← append_ofEvent]
    refine ⟨rfl, fun whole => whole.append ?_ ?_ ?_ nofun ?_ nofun⟩
    · exact whole.components.append_empty
    · exact whole.events.append_one named fresh
    · exact whole.systems.append_empty
    · exact List.forall_mem_singleton.mpr (knows.append _)

/-- What a listener brings into a catalog: its contract, if there is none of that name. -/
def introduced (catalog : Catalog) (contract : Contract) : Catalog :=
  if catalog.events.contains contract.name then empty else ofEvent contract

/-- Once a listener is declared, there is an event that does for it. -/
theorem declareListener_grows {contract : Contract}
    (declared : catalog.declareListener contract = .ok next) :
    catalog.Grows (catalog.introduced contract) next ∧
      ∃ known, next.events.find? contract.name = some known ∧ known.Matches contract := by
  unfold declareListener at declared
  unfold introduced Registry.contains
  split at declared
  · next known found =>
    obtain ⟨_, compatible, same⟩ := bind_ok declared
    cases same
    rw [found]
    exact ⟨.refl catalog, known, rfl, Contract.matches_of_compatible compatible⟩
  · next unknown =>
    rw [unknown]
    have grows := declareEvent_grows declared
    refine ⟨grows, contract, ?_, rfl, rfl⟩
    rw [grows.after]
    exact Registry.find?_append_one unknown

structure Admits (catalog : Catalog) (system : System) : Prop where
  named : system.name ≠ ""
  parameterized : system.params ≠ []
  asking : ∀ param ∈ system.params, param.components ≠ []
  params : catalog.Knows system.params
  listener : ∀ contract, system.listener = some contract → catalog.Knows contract.roles

theorem Admits.append {system : System} (admits : catalog.Admits system) (more : Catalog) :
    (catalog.append more).Admits system :=
  ⟨admits.named, admits.parameterized, admits.asking, admits.params.append more,
    fun contract listens => (admits.listener contract listens).append more⟩

theorem admits_of_valid {system : System} (valid : system.validate catalog.components = .ok ()) :
    catalog.Admits system := by
  unfold System.validate at valid
  dsimp only at valid
  split at valid
  · cases valid
  · next named =>
    split at valid
    · cases valid
    · next asking =>
      obtain ⟨_, params, listener⟩ := bind_ok valid
      rw [Bool.or_eq_true, not_or, List.isEmpty_iff, List.any_eq_true] at asking
      refine {
        named := named
        parameterized := asking.1
        asking := fun param member empty => asking.2 ⟨param, member, by rw [empty]; rfl⟩
        params := checkRegistered_ok_iff.mp params
        listener := ?_ }
      intro contract listens
      rw [listens] at listener
      dsimp only at listener
      split at listener
      · cases listener
      · exact checkRegistered_ok_iff.mp listener

def brought (catalog : Catalog) (system : System) : Catalog :=
  match system.listener with
  | some contract => (catalog.introduced contract).append (ofSystem system)
  | none => ofSystem system

theorem addSystem_grows {system : System} {systems : Registry System} (admits : catalog.Admits system)
    (heard : ∀ contract, system.listener = some contract →
      ∃ declared, catalog.events.find? contract.name = some declared ∧ declared.Matches contract)
    (added : catalog.systems.add system = .ok systems) :
    catalog.Grows (ofSystem system) { catalog with systems := systems } := by
  obtain ⟨fresh, rfl⟩ := Registry.add_ok added
  have supports : catalog.Supports system := {
    parameterized := admits.parameterized
    asking := admits.asking
    params := admits.params
    listener := fun contract listens => ⟨admits.listener contract listens, heard contract listens⟩ }
  rw [← append_ofSystem]
  refine ⟨rfl, fun whole => whole.append ?_ ?_ ?_ nofun nofun ?_⟩
  · exact whole.components.append_empty
  · exact whole.events.append_empty
  · exact whole.systems.append_one admits.named fresh
  · exact List.forall_mem_singleton.mpr (supports.append _)

theorem declareSystem_grows {system : System} (declared : catalog.declareSystem system = .ok next) :
    catalog.Grows (catalog.brought system) next := by
  obtain ⟨_, valid, others⟩ := bind_ok declared
  have admits := admits_of_valid valid
  dsimp only at others
  split at others
  · cases others
  · unfold brought
    cases listens : system.listener with
    | some contract =>
      rw [listens] at others
      obtain ⟨middle, listened, last⟩ := bind_ok others
      obtain ⟨systems, added, same⟩ := bind_ok last
      cases same
      obtain ⟨grows, heard⟩ := declareListener_grows listened
      refine grows.trans (addSystem_grows ?_ ?_ added)
      · exact grows.after ▸ admits.append _
      · intro other same
        rw [listens] at same
        cases same
        exact heard
    | none =>
      rw [listens] at others
      obtain ⟨_, unchanged, last⟩ := bind_ok others
      cases unchanged
      obtain ⟨systems, added, same⟩ := bind_ok last
      cases same
      refine addSystem_grows admits ?_ added
      intro contract same
      rw [listens] at same
      cases same

/-! ### In place -/

/-- What comes of a declaration: the catalog after it, or the refusal and the catalog as it was. -/
def settled {ε : Type} (catalog : Catalog) : Except ε Catalog → Except ε Unit × Catalog
  | .ok next => (.ok (), next)
  | .error fault => (.error fault, catalog)

theorem settled_mapError {ε δ : Type} (catalog : Catalog) (declared : Except ε Catalog)
    (change : ε → δ) : (catalog.settled declared).map (Except.mapError change) id =
      catalog.settled (declared.mapError change) := by
  cases declared <;> rfl

def Performs (operation : Operation Catalog Unit) (declare : Catalog → Except Fault Catalog) : Prop :=
  ∀ catalog, operation catalog = catalog.settled (declare catalog)

theorem registerComponent_performs (component : Component) :
    Performs (registerComponent component) (fun catalog => catalog.declareComponent component) := by
  intro catalog
  unfold registerComponent declareComponent
  rw [Operation.liftM_bind_apply]
  cases component.validate with
  | error fault => rfl
  | ok =>
    unfold Operation.within Registry.insert Operation.replace
    dsimp only
    cases catalog.components.add component <;> rfl

theorem registerEvent_performs (contract : Contract) :
    Performs (registerEvent contract) (fun catalog => catalog.declareEvent contract) := by
  intro catalog
  unfold registerEvent declareEvent
  rw [Operation.get_bind_apply, Operation.liftM_bind_apply]
  dsimp only
  cases contract.validate catalog.components with
  | error fault => rfl
  | ok =>
    unfold Operation.within Registry.insert Operation.replace
    dsimp only
    cases catalog.events.add contract <;> rfl

theorem registerListener_performs (contract : Contract) :
    Performs (registerListener contract) (fun catalog => catalog.declareListener contract) := by
  intro catalog
  unfold registerListener declareListener
  rw [Operation.get_bind_apply]
  dsimp only
  cases catalog.events.find? contract.name with
  | none => exact registerEvent_performs contract catalog
  | some declared =>
    dsimp only
    cases declared.checkCompatible contract <;> rfl

theorem insertSystem_performs {system : System} (catalog : Catalog)
    (fresh : ¬catalog.systems.contains system.name = true) :
    Operation.within systems (fun systems catalog => { catalog with systems := systems })
        (Registry.insert system) catalog = (.ok (), catalog.append (ofSystem system)) ∧
      (do
        let systems ← catalog.systems.add system
        return { catalog with systems := systems }) = Except.ok (catalog.append (ofSystem system)) := by
  have added : catalog.systems.add system = .ok (catalog.systems.append ⟨[system]⟩) :=
    Registry.add_of_fresh fresh
  rw [append_ofSystem]
  unfold Operation.within Registry.insert Operation.replace
  dsimp only
  rw [added]
  exact ⟨rfl, rfl⟩

/-- When the event of a system is registered, nothing can stop the system itself any more. -/
theorem registerSystem_performs (system : System) :
    Performs (registerSystem system) (fun catalog => catalog.declareSystem system) := by
  intro catalog
  unfold registerSystem declareSystem
  rw [Operation.get_bind_apply, Operation.liftM_bind_apply]
  dsimp only
  cases system.validate catalog.components with
  | error fault => rfl
  | ok =>
    dsimp only
    rw [Operation.get_bind_apply]
    split
    · rfl
    · next fresh =>
      cases system.listener with
      | none =>
        obtain ⟨inserted, added⟩ := insertSystem_performs catalog fresh
        change Operation.within systems _ _ catalog = catalog.settled (do
          let systems ← catalog.systems.add system
          return { catalog with systems := systems })
        rw [inserted, added]
        rfl
      | some contract =>
        dsimp only
        rw [Operation.bind_apply, registerListener_performs contract catalog]
        dsimp only
        cases declared : catalog.declareListener contract with
        | error fault => rfl
        | ok middle =>
          rw [← systems_declareListener declared] at fresh
          obtain ⟨inserted, added⟩ := insertSystem_performs middle fresh
          change Operation.within systems _ _ middle = catalog.settled (do
            let systems ← middle.systems.add system
            return { middle with systems := systems })
          rw [inserted, added]
          rfl

end Catalog

end Stagecraft
