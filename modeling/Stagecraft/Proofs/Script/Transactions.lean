import Stagecraft.Catalog.Loading
import Stagecraft.Proofs.Script.Declarations

/-!
Transactions: a script is loaded as a whole or not at all. The passes over a script, which register in a copy
and take notes, come to what is declared stage by stage. A load that fails leaves the catalog as it was; one
that succeeds adds what was noted behind everything else, and every item of the script is found there.
-/

namespace Stagecraft.Script

variable {source : String} {settings : Settings}

namespace Loading

variable {α β : Type}

/-- What a part of a load comes to, where a failure leaves nothing behind. -/
def outcome (loading : Loading α) (stage : Stage) : Except Fault (α × Stage) :=
  match loading stage with
  | (.ok result, later) => .ok (result, later)
  | (.error fault, _) => .error fault

theorem outcome_bind (loading : Loading α) (next : α → Loading β) (stage : Stage) :
    (loading >>= next).outcome stage =
      loading.outcome stage >>= fun (result, later) => (next result).outcome later := by
  have unfolded : (loading >>= next) stage = ExceptT.bindCont next (loading stage).1 (loading stage).2 := rfl
  rw [outcome, unfolded, outcome]
  rcases loading stage with ⟨fault | result, later⟩ <;> rfl

theorem outcome_get_bind (next : Stage → Loading β) (stage : Stage) :
    (get >>= next : Loading β).outcome stage = (next stage).outcome stage := rfl

theorem outcome_lift_bind (attempt : Except Fault α) (next : α → Loading β) (stage : Stage) :
    (liftM attempt >>= next : Loading β).outcome stage =
      attempt >>= fun result => (next result).outcome stage := by
  cases attempt <;> rfl

theorem outcome_register_bind {operation : Operation Catalog Unit}
    {declare : Catalog → Except Stagecraft.Fault Catalog} (performs : Catalog.Performs operation declare)
    (next : Unit → Loading β) (stage : Stage) :
    (register operation >>= next).outcome stage =
      ofCatalog (declare stage.catalog) >>= fun catalog =>
        (next ()).outcome { stage with catalog := catalog } := by
  rw [outcome_bind, outcome, register, performs]
  cases declare stage.catalog <;> rfl

/-! ### Single declarations -/

theorem outcome_component (decl : ComponentDecl) (stage : Stage) :
    (component source decl).outcome stage = do
      let schema ← decl.schema stage.catalog.components source
      let catalog ← ofCatalog (stage.catalog.declareComponent (.of decl.name schema))
      return ((), ⟨catalog, { stage.noted with components := stage.noted.components ++ [decl.name] }⟩) := by
  rw [component, outcome_get_bind, outcome_lift_bind]
  exact bind_congr fun schema => outcome_register_bind (Catalog.registerComponent_performs _) _ stage

theorem outcome_event (decl : EventDecl) (stage : Stage) :
    (event source decl).outcome stage = do
      let contract ← decl.contract stage.catalog.components source
      let catalog ← ofCatalog (stage.catalog.declareEvent contract)
      return ((), ⟨catalog, { stage.noted with events := stage.noted.events ++ [decl.name] }⟩) := by
  rw [event, outcome_get_bind, outcome_lift_bind]
  exact bind_congr fun contract => outcome_register_bind (Catalog.registerEvent_performs _) _ stage

theorem outcome_listener (decl : EventDecl) (stage : Stage) :
    (listener source decl).outcome stage = do
      let contract ← decl.contract stage.catalog.components source
      let introduced := if stage.catalog.events.contains contract.name then [] else [contract.name]
      let catalog ← ofCatalog (stage.catalog.declareListener contract)
      return (contract,
        ⟨catalog, { stage.noted with events := stage.noted.events ++ introduced }⟩) := by
  rw [listener, outcome_get_bind, outcome_lift_bind]
  refine bind_congr fun contract => ?_
  rw [outcome_get_bind, Catalog.declareListener, Registry.contains]
  cases stage.catalog.events.find? contract.name with
  | some known =>
    dsimp only
    rw [outcome_lift_bind]
    simp only [Option.isSome_some, if_true, List.append_nil]
    cases known.checkCompatible contract <;> rfl
  | none => exact outcome_register_bind (Catalog.registerEvent_performs _) _ stage

theorem outcome_system {known : Catalog} {stage : Stage}
    (components : known.components = stage.catalog.components) (events : known.events = stage.catalog.events)
    (decl : SystemDecl) (contract : Contract) :
    (system settings source known decl contract).outcome stage = do
      decl.check stage.catalog.components stage.catalog.events source
      let catalog ← ofCatalog (stage.catalog.declareSystem
        ((settings.routine source stage.catalog decl).toSystem contract))
      return ((), ⟨catalog, { stage.noted with systems := stage.noted.systems ++ [decl.name] }⟩) := by
  have same : settings.routine source known decl = settings.routine source stage.catalog decl := by
    rw [Settings.routine, Settings.routine, components, events]
  rw [system, components, events, same, outcome_lift_bind]
  exact bind_congr fun _ => outcome_register_bind (Catalog.registerSystem_performs _) _ stage

/-! ### Passes -/

theorem outcome_components (items : List Item) (stage : Stage) :
    (components source items).outcome stage = do
      let catalog ← loadComponents source (Tree.components ⟨items⟩) stage.catalog
      return ((), ⟨catalog, { stage.noted with
        components := stage.noted.components ++ (Tree.components ⟨items⟩).map ComponentDecl.name }⟩) := by
  induction items generalizing stage with
  | nil =>
    change Except.ok ((), stage) = .ok ((), _)
    rw [Tree.components, List.filterMap_nil, List.map_nil, List.append_nil]
  | cons item rest ih =>
    cases item with
    | component decl =>
      change (component source decl >>= fun _ => components source rest : Loading _).outcome stage = _
      rw [show Tree.components ⟨.component decl :: rest⟩ = decl :: Tree.components ⟨rest⟩ from rfl,
        outcome_bind, outcome_component, loadComponents]
      simp only [bind_assoc, pure_bind, ih, List.map_cons, List.append_assoc, List.singleton_append]
    | event | system => exact ih stage

theorem outcome_events (items : List Item) (stage : Stage) :
    (events source items).outcome stage = do
      let catalog ← loadEvents source (Tree.events ⟨items⟩) stage.catalog
      return ((), ⟨catalog, { stage.noted with
        events := stage.noted.events ++ (Tree.events ⟨items⟩).map EventDecl.name }⟩) := by
  induction items generalizing stage with
  | nil =>
    change Except.ok ((), stage) = .ok ((), _)
    rw [Tree.events, List.filterMap_nil, List.map_nil, List.append_nil]
  | cons item rest ih =>
    cases item with
    | event decl =>
      change (event source decl >>= fun _ => events source rest : Loading _).outcome stage = _
      rw [show Tree.events ⟨.event decl :: rest⟩ = decl :: Tree.events ⟨rest⟩ from rfl,
        outcome_bind, outcome_event, loadEvents]
      simp only [bind_assoc, pure_bind, ih, List.map_cons, List.append_assoc, List.singleton_append]
    | component | system => exact ih stage

theorem outcome_listeners (items : List Item) (stage : Stage) :
    (listeners source items).outcome stage = do
      let (names, contracts, catalog) ← loadListeners source (Tree.systems ⟨items⟩) stage.catalog
      return ((Tree.systems ⟨items⟩).zip contracts,
        ⟨catalog, { stage.noted with events := stage.noted.events ++ names }⟩) := by
  induction items generalizing stage with
  | nil =>
    change Except.ok ([], stage) =
      .ok ([], ⟨stage.catalog, { stage.noted with events := stage.noted.events ++ [] }⟩)
    rw [List.append_nil]
  | cons item rest ih =>
    cases item with
    | system decl =>
      change (listener source decl.event >>= fun contract => listeners source rest >>= fun others =>
        pure ((decl, contract) :: others) : Loading _).outcome stage = _
      rw [show Tree.systems ⟨.system decl :: rest⟩ = decl :: Tree.systems ⟨rest⟩ from rfl,
        outcome_bind, outcome_listener, loadListeners]
      simp only [bind_assoc, pure_bind, outcome_bind, ih, List.append_assoc]
      rfl
    | component | event => exact ih stage

/-- When there is an event for every listener, a system changes nothing that the next one is checked against. -/
theorem outcome_systems {known : Catalog} {collected : List (SystemDecl × Contract)} {stage : Stage}
    (components : known.components = stage.catalog.components) (events : known.events = stage.catalog.events)
    (listed : ∀ pair ∈ collected, known.events.contains pair.2.name = true) :
    (systems settings source known collected).outcome stage = do
      let catalog ← loadSystems settings source (collected.map Prod.fst) (collected.map Prod.snd) stage.catalog
      return ((), ⟨catalog, { stage.noted with
        systems := stage.noted.systems ++ (collected.map Prod.fst).map SystemDecl.name }⟩) := by
  induction collected generalizing stage with
  | nil =>
    change Except.ok ((), stage) =
      .ok ((), ⟨stage.catalog, { stage.noted with systems := stage.noted.systems ++ [] }⟩)
    rw [List.append_nil]
  | cons pair rest ih =>
    obtain ⟨decl, contract⟩ := pair
    obtain ⟨here, others⟩ := List.forall_mem_cons.mp listed
    change (system settings source known decl contract >>= fun _ => systems settings source known rest :
      Loading _).outcome stage = _
    rw [outcome_bind, outcome_system components events, List.map_cons, List.map_cons, loadSystems]
    simp only [bind_assoc, pure_bind]
    refine bind_congr fun _ => ?_
    cases declared : ofCatalog (stage.catalog.declareSystem _) with
    | error fault => rfl
    | ok catalog =>
      obtain rfl := declareSystem_registers rfl (events ▸ here) (mapError_ok declared)
      change (systems settings source known rest).outcome _ = _
      rw [ih (by exact components) (by exact events) others]
      simp only [List.map_cons, List.append_assoc, List.singleton_append]
      rfl

/-- The passes declare what is declared stage by stage, and note the names of it. -/
theorem outcome_passes (tree : Tree) (catalog : Catalog) :
    (passes settings source tree).outcome ⟨catalog, ⟨[], [], []⟩⟩ = do
      let (summary, catalog) ← loadTree settings source tree catalog
      return ((), ⟨catalog, summary⟩) := by
  rw [passes, outcome_bind, outcome_components, loadTree]
  simp only [bind_assoc, pure_bind]
  refine bind_congr fun withComponents => ?_
  rw [outcome_bind, outcome_events]
  simp only [bind_assoc, pure_bind]
  refine bind_congr fun withEvents => ?_
  rw [outcome_bind, outcome_listeners]
  simp only [bind_assoc, pure_bind]
  cases listened : loadListeners source tree.systems withEvents with
  | error fault => rfl
  | ok result =>
    obtain ⟨names, contracts, listening⟩ := result
    obtain ⟨-, listed⟩ := loadListeners_gains listened
    have length := (loadListeners_ok listened).2.length_eq
    have known : ∀ pair ∈ tree.systems.zip contracts, listening.events.contains pair.2.name = true :=
      fun pair inside => listed pair.2 (List.of_mem_zip inside).2
    change (get >>= fun stage => systems settings source stage.catalog (tree.systems.zip contracts) :
      Loading _).outcome _ = _
    rw [outcome_get_bind, outcome_systems rfl rfl known, List.map_fst_zip length.le,
      List.map_snd_zip length.ge]
    rfl

end Loading

/-- What is loaded in place is what is loaded into a copy at once. -/
theorem loadInto_eq_staged (settings : Settings) (source : String) (catalog : Catalog) :
    loadInto settings source catalog = staged (load settings source) catalog := by
  unfold loadInto staged
  cases parsed : parse source with
  | error fault => rw [load, parsed]; rfl
  | ok tree =>
    have same : load settings source catalog = loadTree settings source tree catalog := by
      rw [load, parsed]
      rfl
    have came : (Loading.passes settings source tree).outcome _ = _ := Loading.outcome_passes tree catalog
    unfold Loading.outcome at came
    rw [same]
    dsimp only
    split at came
    · next done stage ran =>
      obtain ⟨⟨summary, later⟩, loaded, same⟩ := bind_ok came.symm
      cases same
      rw [ran, loaded]
    · next fault stage ran =>
      rcases bind_error came.symm with loaded | ⟨_, -, impossible⟩
      · rw [ran, loaded]
      · cases impossible

/-! ### Scripts -/

/-- Whatever a host has in its catalog and whatever it loads: a load that fails leaves the catalog as it was.
One that succeeds puts what it tells of behind everything else, in the order of the script, the events of
headers behind those that are declared on their own; and every item of the script is registered. -/
theorem loadInto_all_or_nothing (settings : Settings) (source : String) (catalog : Catalog) :
    loadInto settings source catalog = staged (load settings source) catalog ∧
    match loadInto settings source catalog with
    | (.error _, later) => later = catalog
    | (.ok summary, later) =>
      catalog.components.Gains summary.components later.components ∧
      catalog.events.Gains summary.events later.events ∧
      catalog.systems.Gains summary.systems later.systems ∧
      ∃ tree, parse source = .ok tree ∧ summary = tree.summary catalog.events.names ∧
        ∀ item ∈ tree.items, item.Registered settings source later := by
  refine ⟨loadInto_eq_staged settings source catalog, ?_⟩
  rw [loadInto_eq_staged]
  unfold staged
  cases loaded : load settings source catalog with
  | error fault => rfl
  | ok result =>
    obtain ⟨summary, later⟩ := result
    obtain ⟨tree, more, read, rfl, follows, rfl, names, registered⟩ := load_registers loaded
    exact ⟨follows.components.gains, follows.events.gains, follows.systems.gains, tree, read, names,
      registered⟩

end Stagecraft.Script
