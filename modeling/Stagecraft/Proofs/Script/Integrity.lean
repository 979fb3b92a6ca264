import Stagecraft.Proofs.Integrity

/-!
Integrity of loading: what can be relied on in every catalog that a host can hold. A registration that is
refused changes nothing, be it of a single thing or of a whole script; one that succeeds adds to the end.
-/

namespace Stagecraft

/-! ### Scripts -/

namespace Catalog

def summary (catalog : Catalog) : Script.Summary :=
  ⟨catalog.components.names, catalog.events.names, catalog.systems.names⟩

theorem summary_append (catalog more : Catalog) : (catalog.append more).summary =
    ⟨catalog.summary.components ++ more.summary.components,
      catalog.summary.events ++ more.summary.events,
      catalog.summary.systems ++ more.summary.systems⟩ := by
  simp only [summary, append, Registry.names_append]

def Gains (catalog : Catalog) (names : Script.Summary) (next : Catalog) : Prop :=
  ∃ more, catalog.Grows more next ∧ more.summary = names

theorem Gains.refl (catalog : Catalog) : catalog.Gains ⟨[], [], []⟩ catalog := ⟨empty, .refl catalog, rfl⟩

theorem Gains.trans {first second third : Catalog} {names others : Script.Summary}
    (one : first.Gains names second) (other : second.Gains others third) :
    first.Gains ⟨names.components ++ others.components, names.events ++ others.events,
      names.systems ++ others.systems⟩ third := by
  obtain ⟨more, grows, rfl⟩ := one
  obtain ⟨behind, growsOther, rfl⟩ := other
  exact ⟨more.append behind, grows.trans growsOther, summary_append more behind⟩

end Catalog

namespace Script

variable {source : String} {catalog next : Catalog}

theorem loadComponents_gains {decls : List ComponentDecl}
    (loaded : loadComponents source decls catalog = .ok next) :
    catalog.Gains ⟨decls.map ComponentDecl.name, [], []⟩ next := by
  induction decls generalizing catalog with
  | nil =>
    cases loaded
    exact .refl _
  | cons decl rest ih =>
    obtain ⟨schema, -, others⟩ := bind_ok loaded
    obtain ⟨middle, declared, remaining⟩ := bind_ok others
    have first : catalog.Gains ⟨[decl.name], [], []⟩ middle :=
      ⟨_, Catalog.declareComponent_grows (mapError_ok declared), rfl⟩
    exact first.trans (ih remaining)

theorem EventDecl.contract_name {decl : EventDecl} {components : Registry Component}
    {contract : Contract} (found : decl.contract components source = .ok contract) :
    contract.name = decl.name := by
  unfold EventDecl.contract at found
  dsimp only at found
  split at found
  · obtain ⟨payload, -, same⟩ := bind_ok found
    cases same
    rfl
  · cases found
    rfl

theorem loadEvents_gains {decls : List EventDecl}
    (loaded : loadEvents source decls catalog = .ok next) :
    catalog.Gains ⟨[], decls.map EventDecl.name, []⟩ next := by
  induction decls generalizing catalog with
  | nil =>
    cases loaded
    exact .refl _
  | cons decl rest ih =>
    obtain ⟨contract, found, others⟩ := bind_ok loaded
    obtain ⟨middle, declared, remaining⟩ := bind_ok others
    have first : catalog.Gains ⟨[], [decl.name], []⟩ middle :=
      ⟨_, Catalog.declareEvent_grows (mapError_ok declared), by
        rw [← EventDecl.contract_name found]
        rfl⟩
    exact first.trans (ih remaining)

/-- The events that listeners introduce come in, and afterwards there is an event for each listener. -/
theorem loadListeners_gains {decls : List SystemDecl} {names : List String} {contracts : List Contract}
    (loaded : loadListeners source decls catalog = .ok (names, contracts, next)) :
    catalog.Gains ⟨[], names, []⟩ next ∧
      ∀ contract ∈ contracts, next.events.contains contract.name = true := by
  induction decls generalizing catalog names contracts with
  | nil =>
    cases loaded
    exact ⟨.refl _, nofun⟩
  | cons decl rest ih =>
    obtain ⟨contract, -, others⟩ := bind_ok loaded
    obtain ⟨middle, declared, remaining⟩ := bind_ok others
    obtain ⟨⟨more, behind, last⟩, loadedRest, same⟩ := bind_ok remaining
    cases same
    obtain ⟨grows, known, found, -⟩ := Catalog.declareListener_grows (mapError_ok declared)
    obtain ⟨gains, listed⟩ := ih loadedRest
    have first : catalog.Gains
        ⟨[], if catalog.events.contains contract.name then [] else [contract.name], []⟩ middle := by
      refine ⟨_, grows, ?_⟩
      unfold Catalog.introduced
      split <;> rfl
    refine ⟨first.trans gains, List.forall_mem_cons.mpr ⟨?_, listed⟩⟩
    obtain ⟨added, ⟨rfl, -⟩, -⟩ := gains
    rw [Registry.contains, Catalog.append, Registry.find?_append found]
    rfl

/-- When there is an event for every listener, nothing but the systems comes in. -/
theorem loadSystems_gains {settings : Settings} {decls : List SystemDecl} {contracts : List Contract}
    (length : decls.length = contracts.length)
    (listed : ∀ contract ∈ contracts, catalog.events.contains contract.name = true)
    (loaded : loadSystems settings source decls contracts catalog = .ok next) :
    catalog.Gains ⟨[], [], decls.map SystemDecl.name⟩ next := by
  induction decls generalizing catalog contracts with
  | nil =>
    cases loaded
    exact .refl _
  | cons decl rest ih =>
    cases contracts with
    | nil => cases length
    | cons contract others =>
      obtain ⟨known, listed⟩ := List.forall_mem_cons.mp listed
      obtain ⟨_, -, remaining⟩ := bind_ok loaded
      obtain ⟨middle, declared, last⟩ := bind_ok remaining
      have grows := Catalog.declareSystem_grows (mapError_ok declared)
      have alone : catalog.brought ((settings.routine source catalog decl).toSystem contract) =
          .ofSystem ((settings.routine source catalog decl).toSystem contract) := by
        change (catalog.introduced contract).append _ = _
        rw [Catalog.introduced, if_pos known, Catalog.empty_append]
      rw [alone] at grows
      have first : catalog.Gains ⟨[], [], [decl.name]⟩ middle := ⟨_, grows, rfl⟩
      refine first.trans (ih (Nat.succ_inj.mp length) ?_ last)
      rw [grows.after]
      exact fun other member => Registry.contains_append (listed other member) _

theorem load_gains {settings : Settings} {summary : Summary}
    (loaded : load settings source catalog = .ok (summary, next)) : catalog.Gains summary next := by
  obtain ⟨tree, -, loadedTree⟩ := load_ok loaded
  obtain ⟨components, events, introduced, contracts, listening, first, second, third, fourth, rfl⟩ :=
    loadTree_ok loadedTree
  obtain ⟨gains, listed⟩ := loadListeners_gains third
  have length := (loadListeners_ok third).2.length_eq
  have all := (loadComponents_gains first).trans ((loadEvents_gains second).trans
    (gains.trans (loadSystems_gains length listed fourth)))
  simpa using all

end Script

/-! ### Registrations -/

inductive Registration where
  | component (component : Component)
  | event (contract : Contract)
  | system (system : System)
  | script (settings : Script.Settings) (source : String)

namespace Registration

def perform : Registration → Catalog → Except Script.Fault Unit × Catalog
  | component new, catalog => (Catalog.registerComponent new catalog).map (Except.mapError .scene) id
  | event new, catalog => (Catalog.registerEvent new catalog).map (Except.mapError .scene) id
  | system new, catalog => (Catalog.registerSystem new catalog).map (Except.mapError .scene) id
  | script settings source, catalog =>
    (Script.staged (Script.load settings source) catalog).map (Except.map fun _ => ()) id

def Adds (catalog : Catalog) : Registration → Catalog → Prop
  | component new, more => more = .ofComponent new
  | event new, more => more = .ofEvent new
  | system new, more => more = catalog.brought new
  | script settings source, more =>
    Script.load settings source catalog = .ok (more.summary, catalog.append more)

def declare (catalog : Catalog) : Registration → Except Script.Fault Catalog
  | component new => Script.ofCatalog (catalog.declareComponent new)
  | event new => Script.ofCatalog (catalog.declareEvent new)
  | system new => Script.ofCatalog (catalog.declareSystem new)
  | script settings source => (Script.load settings source catalog).map Prod.snd

theorem perform_eq (registration : Registration) (catalog : Catalog) :
    registration.perform catalog = catalog.settled (registration.declare catalog) := by
  cases registration with
  | component new =>
    rw [perform, Catalog.registerComponent_performs, Catalog.settled_mapError, declare, Script.ofCatalog]
  | event new =>
    rw [perform, Catalog.registerEvent_performs, Catalog.settled_mapError, declare, Script.ofCatalog]
  | system new =>
    rw [perform, Catalog.registerSystem_performs, Catalog.settled_mapError, declare, Script.ofCatalog]
  | script settings source =>
    simp only [perform, declare, Script.staged]
    rcases Script.load settings source catalog with fault | ⟨summary, next⟩ <;> rfl

theorem declare_grows {registration : Registration} {catalog next : Catalog}
    (declared : registration.declare catalog = .ok next) :
    ∃ more, catalog.Grows more next ∧ registration.Adds catalog more := by
  cases registration with
  | component new => exact ⟨_, Catalog.declareComponent_grows (mapError_ok declared), rfl⟩
  | event new => exact ⟨_, Catalog.declareEvent_grows (mapError_ok declared), rfl⟩
  | system new => exact ⟨_, Catalog.declareSystem_grows (mapError_ok declared), rfl⟩
  | script settings source =>
    rw [declare] at declared
    cases loaded : Script.load settings source catalog with
    | error fault =>
      rw [loaded] at declared
      cases declared
    | ok result =>
      rw [loaded] at declared
      cases declared
      obtain ⟨more, grows, summary⟩ := Script.load_gains loaded
      refine ⟨more, grows, ?_⟩
      rw [Adds, loaded, ← grows.after, summary]

end Registration

namespace Catalog

def after (catalog : Catalog) (registrations : List Registration) : Catalog :=
  registrations.foldl (fun catalog registration => (registration.perform catalog).2) catalog

theorem perform_whole {catalog : Catalog} (registration : Registration) (whole : catalog.Whole) :
    (registration.perform catalog).2.Whole := by
  rw [Registration.perform_eq]
  cases declared : registration.declare catalog with
  | error fault => exact whole
  | ok next =>
    obtain ⟨more, grows, -⟩ := Registration.declare_grows declared
    exact grows.whole whole

theorem after_whole {catalog : Catalog} (whole : catalog.Whole) (registrations : List Registration) :
    (catalog.after registrations).Whole := by
  induction registrations generalizing catalog with
  | nil => exact whole
  | cons registration rest ih => exact ih (perform_whole registration whole)

/-- Whatever a host registered in an empty catalog before, with success or without: names lead to what
they were given to, and whatever is referred to is declared. Whatever it registers next, a refusal leaves
the catalog as it is, and a success adds to its end what was to be registered and changes nothing else. -/
theorem after_integrity (registrations : List Registration) (registration : Registration) :
    let catalog := empty.after registrations
    catalog.Whole ∧ match registration.perform catalog with
      | (.error _, later) => later = catalog
      | (.ok (), later) => later.Whole ∧
        ∃ more, later = catalog.append more ∧ registration.Adds catalog more := by
  intro catalog
  have whole : catalog.Whole := after_whole empty_whole registrations
  refine ⟨whole, ?_⟩
  rw [Registration.perform_eq]
  cases declared : registration.declare catalog with
  | error fault => rfl
  | ok next =>
    obtain ⟨more, grows, adds⟩ := Registration.declare_grows declared
    exact ⟨grows.whole whole, more, grows.after, adds⟩

end Catalog

end Stagecraft
