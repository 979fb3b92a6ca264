import Stagecraft.Proofs.Script.Runs
import Stagecraft.Script.Loader

/-!
Loading: a system that a script brought into a catalog was checked against the catalog of that moment,
and its body refers to no other. Whatever the catalog and the scenes become later, it fails only for what
the check cannot exclude.
-/

namespace Stagecraft

namespace Catalog

variable {catalog next : Catalog}

theorem systems_declareComponent {component : Component}
    (declared : catalog.declareComponent component = .ok next) : next.systems = catalog.systems := by
  obtain ⟨_, -, others⟩ := bind_ok declared
  obtain ⟨components, -, same⟩ := bind_ok others
  cases same
  rfl

theorem systems_declareEvent {contract : Contract}
    (declared : catalog.declareEvent contract = .ok next) : next.systems = catalog.systems := by
  obtain ⟨_, -, others⟩ := bind_ok declared
  obtain ⟨events, -, same⟩ := bind_ok others
  cases same
  rfl

theorem systems_declareListener {contract : Contract}
    (declared : catalog.declareListener contract = .ok next) : next.systems = catalog.systems := by
  unfold declareListener at declared
  split at declared
  · obtain ⟨_, -, same⟩ := bind_ok declared
    cases same
    rfl
  · exact systems_declareEvent declared

theorem mem_systems_declareSystem {system : System}
    (declared : catalog.declareSystem system = .ok next) {other : System}
    (member : other ∈ next.systems.entries) : other = system ∨ other ∈ catalog.systems.entries := by
  obtain ⟨_, -, others⟩ := bind_ok declared
  dsimp only at others
  split at others
  · cases others
  -- Its event may be known or new; no other system comes with it.
  · obtain ⟨middle, same, last⟩ : ∃ middle : Catalog, middle.systems = catalog.systems ∧
        (do
          let systems ← middle.systems.add system
          return { middle with systems := systems }) = Except.ok next := by
      split at others
      · obtain ⟨middle, listened, last⟩ := bind_ok others
        exact ⟨middle, systems_declareListener listened, last⟩
      · exact ⟨catalog, rfl, others⟩
    obtain ⟨systems, added, finished⟩ := bind_ok last
    obtain ⟨-, rfl⟩ := Registry.add_ok_iff.mp added
    cases finished
    rcases List.mem_append.mp member with before | new
    · rw [same] at before
      exact .inr before
    · exact .inl (List.mem_singleton.mp new)

end Catalog

namespace Script

variable {source : String} {catalog next : Catalog}

theorem systems_loadComponents {decls : List ComponentDecl}
    (loaded : loadComponents source decls catalog = .ok next) : next.systems = catalog.systems := by
  induction decls generalizing catalog with
  | nil =>
    cases loaded
    rfl
  | cons decl rest ih =>
    obtain ⟨schema, -, others⟩ := bind_ok loaded
    obtain ⟨middle, declared, remaining⟩ := bind_ok others
    rw [ih remaining, Catalog.systems_declareComponent (mapError_ok declared)]

theorem systems_loadEvents {decls : List EventDecl}
    (loaded : loadEvents source decls catalog = .ok next) : next.systems = catalog.systems := by
  induction decls generalizing catalog with
  | nil =>
    cases loaded
    rfl
  | cons decl rest ih =>
    obtain ⟨contract, -, others⟩ := bind_ok loaded
    obtain ⟨middle, declared, remaining⟩ := bind_ok others
    rw [ih remaining, Catalog.systems_declareEvent (mapError_ok declared)]

theorem EventDecl.contract_roles {decl : EventDecl} {components : Registry Component}
    {contract : Contract} (found : decl.contract components source = .ok contract) :
    contract.roles = decl.roles.map RoleDecl.toRole := by
  unfold EventDecl.contract at found
  dsimp only at found
  split at found
  · obtain ⟨payload, -, same⟩ := bind_ok found
    cases same
    rfl
  · cases found
    rfl

/-- The headers of systems bring in events only, and every contract has the roles of its header. -/
theorem loadListeners_ok {decls : List SystemDecl} {names : List String} {contracts : List Contract}
    (loaded : loadListeners source decls catalog = .ok (names, contracts, next)) :
    next.systems = catalog.systems ∧ List.Forall₂
      (fun decl contract => contract.roles = decl.event.roles.map RoleDecl.toRole) decls contracts := by
  induction decls generalizing catalog names contracts with
  | nil =>
    cases loaded
    exact ⟨rfl, .nil⟩
  | cons decl rest ih =>
    obtain ⟨contract, found, others⟩ := bind_ok loaded
    obtain ⟨middle, declared, remaining⟩ := bind_ok others
    obtain ⟨⟨more, behind, last⟩, loadedRest, same⟩ := bind_ok remaining
    cases same
    obtain ⟨systems, roles⟩ := ih loadedRest
    rw [systems, Catalog.systems_declareListener (mapError_ok declared)]
    exact ⟨rfl, .cons (EventDecl.contract_roles found) roles⟩

/-- A system is the routine of a declaration that was checked against what the routine refers to. -/
structure Checked (settings : Settings) (source : String) (decl : SystemDecl) (system : System) :
    Prop where
  exists_routine : ∃ (catalog : Catalog) (contract : Contract),
    decl.check catalog.components catalog.events source = .ok () ∧
    contract.roles = decl.event.roles.map RoleDecl.toRole ∧
    system = (settings.routine source catalog decl).toSystem contract

theorem mem_systems_loadSystems {settings : Settings} {decls : List SystemDecl}
    {contracts : List Contract}
    (roles : List.Forall₂ (fun decl contract =>
      contract.roles = decl.event.roles.map RoleDecl.toRole) decls contracts)
    (loaded : loadSystems settings source decls contracts catalog = .ok next) {system : System}
    (member : system ∈ next.systems.entries) :
    system ∈ catalog.systems.entries ∨ ∃ decl ∈ decls, Checked settings source decl system := by
  induction roles generalizing catalog with
  | nil =>
    cases loaded
    exact .inl member
  | @cons decl contract rest others first _ ih =>
    obtain ⟨_, checked, remaining⟩ := bind_ok loaded
    obtain ⟨middle, declared, last⟩ := bind_ok remaining
    rcases ih last with before | ⟨other, inside, found⟩
    · rcases Catalog.mem_systems_declareSystem (mapError_ok declared) before with rfl | earlier
      · exact .inr ⟨decl, List.mem_cons_self, ⟨catalog, contract, checked, first, rfl⟩⟩
      · exact .inl earlier
    · exact .inr ⟨other, List.mem_cons_of_mem decl inside, found⟩

theorem loadTree_ok {settings : Settings} {tree : Tree} {summary : Summary}
    (loaded : loadTree settings source tree catalog = .ok (summary, next)) :
    ∃ components events introduced contracts listening,
      loadComponents source tree.components catalog = .ok components ∧
      loadEvents source tree.events components = .ok events ∧
      loadListeners source tree.systems events = .ok (introduced, contracts, listening) ∧
      loadSystems settings source tree.systems contracts listening = .ok next ∧
      summary = ⟨tree.components.map ComponentDecl.name, tree.events.map EventDecl.name ++ introduced,
        tree.systems.map SystemDecl.name⟩ := by
  obtain ⟨components, first, others⟩ := bind_ok loaded
  obtain ⟨events, second, remaining⟩ := bind_ok others
  obtain ⟨⟨introduced, contracts, listening⟩, third, rest⟩ := bind_ok remaining
  obtain ⟨_, fourth, same⟩ := bind_ok rest
  cases same
  exact ⟨components, events, introduced, contracts, listening, first, second, third, fourth, rfl⟩

theorem load_ok {settings : Settings} {summary : Summary}
    (loaded : load settings source catalog = .ok (summary, next)) :
    ∃ tree, parse source = .ok tree ∧ loadTree settings source tree catalog = .ok (summary, next) := by
  obtain ⟨tree, read, loadedTree⟩ := bind_ok loaded
  exact ⟨tree, mapError_ok read, loadedTree⟩

/-- What a script brings into a catalog was checked. -/
theorem load_checked {settings : Settings} {before after : Catalog} {summary : Summary}
    (loaded : load settings source before = .ok (summary, after)) {system : System}
    (put : system ∈ after.systems.entries) (new : system ∉ before.systems.entries) :
    ∃ tree decl, parse source = .ok tree ∧ decl ∈ tree.systems ∧
      Checked settings source decl system := by
  obtain ⟨tree, read, loadedTree⟩ := load_ok loaded
  obtain ⟨components, events, introduced, contracts, listening, first, second, third, fourth, -⟩ :=
    loadTree_ok loadedTree
  obtain ⟨systems, roles⟩ := loadListeners_ok third
  rcases mem_systems_loadSystems roles fourth put with earlier | ⟨decl, member, checked⟩
  · rw [systems, systems_loadEvents second, systems_loadComponents first] at earlier
    exact absurd earlier new
  · exact ⟨tree, decl, read, member, checked⟩

def Loaded (system : System) : Prop :=
  ∃ settings source before summary after, load settings source before = .ok (summary, after) ∧
    system ∈ after.systems.entries ∧ system ∉ before.systems.entries

/-! ### What a loaded system meets in a scene -/

namespace Checked

variable {settings : Settings} {decl : SystemDecl} {system : System}

theorem name (checked : Checked settings source decl system) : decl.name = system.name := by
  obtain ⟨_, _, -, -, rfl⟩ := checked.exists_routine
  rfl

theorem allComponents (checked : Checked settings source decl system) :
    system.allComponents =
      ((decl.params ++ decl.event.roles).flatMap RoleDecl.components).eraseDups := by
  obtain ⟨_, contract, -, roles, rfl⟩ := checked.exists_routine
  unfold System.allComponents
  change List.eraseDups ((decl.params.map RoleDecl.toRole ++ contract.roles).flatMap _) = _
  rw [roles, ← List.map_append, List.flatMap_map]
  rfl

theorem visible (checked : Checked settings source decl system) {view : View}
    (equipped : ∀ component ∈ system.allComponents, ∃ id ∈ view.components,
      view.store.componentId? component = some id) :
    Routine.Visible view (decl.params ++ decl.event.roles) := by
  intro role member component among
  apply equipped
  rw [checked.allComponents, List.mem_eraseDups]
  exact List.mem_flatMap.mpr ⟨role, member, among⟩

theorem targeted (checked : Checked settings source decl system) {view : View} {event : Event}
    {refs : List (List ComponentRef)} (visible : Routine.Visible view decl.event.roles)
    (bound : view.store.bindRoles system.roles event = .ok refs) :
    Routine.Targeted view decl.event.roles event.targets := by
  obtain ⟨_, contract, -, roles, rfl⟩ := checked.exists_routine
  obtain ⟨enough, fills⟩ := Store.bindTargets_ok bound
  change contract.roles.length ≤ _ at enough
  change ∀ pair ∈ contract.roles.zip event.targets, _ at fills
  rw [roles] at enough fills
  rw [List.length_map] at enough
  refine ⟨enough, ?_⟩
  intro role entity member component among
  have filled : (role.toRole, entity) ∈ (decl.event.roles.map RoleDecl.toRole).zip event.targets := by
    rw [List.zip_map_left]
    exact List.mem_map.mpr ⟨(role, entity), member, rfl⟩
  obtain ⟨id, known, present⟩ := fills _ filled component among
  obtain ⟨other, inside, same⟩ := visible role (List.of_mem_zip member).1 component among
  rw [known] at same
  cases same
  exact ⟨id, inside, known, present⟩

theorem body_remains (checked : Checked settings source decl system) {view : View}
    (sound : view.Sound)
    (equipped : ∀ component ∈ system.allComponents, ∃ id ∈ view.components,
      view.store.componentId? component = some id)
    {event : Event} {refs : List (List ComponentRef)}
    (bound : view.store.bindRoles system.roles event = .ok refs) {output : Array Output}
    {cause : Cause} {later : Situation}
    (ended : (system.body ⟨event, refs⟩).run ⟨view, output⟩ = (.error cause, later)) :
    ∃ fault, cause = .script fault ∧ fault.Remains decl := by
  have visible := checked.visible equipped
  have targeted := checked.targeted
    (fun role member => visible role (List.mem_append_right decl.params member)) bound
  obtain ⟨catalog, contract, fine, -, rfl⟩ := checked.exists_routine
  have safe : ((settings.routine source catalog decl).run event).Safe view (Fault.Remains decl)
      (fun _ => True) :=
    Routine.run_safe sound fine
      (fun role member => visible role (List.mem_append_left decl.event.roles member)) targeted
  have finished := safe ⟨view, output⟩ (.refl sound.store)
  change (Behavior.mapReason Cause.script _).run _ = _ at ended
  rw [Behavior.run_mapReason] at ended
  split at finished
  · next ran =>
    rw [ran] at ended
    cases ended
  · next fault ran =>
    rw [ran] at ended
    cases ended
    exact ⟨fault, rfl, finished⟩

end Checked

/-- A system of a script that was loaded into any catalog, enrolled in any scene that a host can have,
fails for no reason that the check of the script excludes: not at any point of a dispatch, and for no
event, budget or values. -/
theorem loaded_remains (settings : Settings) (source : String) (before after : Catalog)
    (summary : Summary) (loaded : load settings source before = .ok (summary, after))
    (title : String) (commands : List Command) (enrolled : Enrolled)
    (member : enrolled ∈ ((Scene.empty title .standard).after commands).systems)
    (put : enrolled.system ∈ after.systems.entries)
    (new : enrolled.system ∉ before.systems.entries) (store : Store)
    (met : ((Scene.empty title .standard).after commands).Meets store) (event : Event)
    (output : Array Output) (failed : String) (cause : Cause)
    (ended : (((Scene.empty title .standard).after commands).invoke enrolled event store output).1 =
      .error (.system failed cause)) :
    ∃ tree decl fault, parse source = .ok tree ∧ decl ∈ tree.systems ∧
      decl.name = enrolled.system.name ∧ cause = .script fault ∧ fault.Remains decl := by
  obtain ⟨tree, decl, parsed, declared, checked⟩ := load_checked loaded put new
  have wellFormed := Scene.after_wellFormed title .standard commands
  obtain ⟨rewrites, formed⟩ := met.rewrites wellFormed.store
  have sound : View.Sound
      ⟨store, ((Scene.empty title .standard).after commands).roster, enrolled.components⟩ :=
    ⟨formed, fun entity id => (rewrites.contains entity id).trans (wellFormed.owned entity id)⟩
  have equipped := (wellFormed.equipped enrolled member).mono
    (fun component id => (rewrites.componentId? component).trans)
  unfold Scene.invoke at ended
  split at ended
  · cases ended
  · next refs bound =>
    split at ended
    · cases ended
    · next ran =>
      cases ended
      obtain ⟨fault, script, remains⟩ := checked.body_remains sound equipped bound ran
      exact ⟨tree, decl, fault, parsed, declared, checked.name, script, remains⟩

def lampScript : String :=
  "component Lamp\n\tBoolean lit\nsystem Swap(lamp<Lamp>) event Tick()\n\tlamp.Lamp.lit = lamp.Lamp\n"

def lampCatalog : Catalog :=
  match load .standard lampScript .empty with
  | .ok (_, after) => after
  | .error _ => .empty

def lampCommands : List Command :=
  [.create, .insert ⟨0⟩ (.of "Lamp" (.record [("lit", .basic .boolean)]))
    (.record [("lit", .boolean true)]), .enroll "Swap" lampCatalog]

theorem lampScript_remains :
    let scene := (Scene.empty "stage" .standard).after lampCommands
    let fault := Fault.assignmentType "lamp.Lamp.lit" (.basic .boolean)
      (.record [("lit", .basic .boolean)])
    ∃ summary enrolled, load .standard lampScript .empty = .ok (summary, lampCatalog) ∧
      enrolled ∈ scene.systems ∧ enrolled.system ∈ lampCatalog.systems.entries ∧
      (scene.invoke enrolled ⟨"Tick", [], .empty⟩ scene.store #[]).1 =
        .error (.system "Swap" (.script fault)) ∧
      ∃ tree decl found, parse lampScript = .ok tree ∧ decl ∈ tree.systems ∧
        decl.name = enrolled.system.name ∧ Cause.script fault = .script found ∧
        found.Remains decl := by
  intro scene fault
  obtain ⟨summary, loaded⟩ :
      ∃ summary, load .standard lampScript .empty = .ok (summary, lampCatalog) := by
    have succeeded : (load .standard lampScript .empty).isOk = true := by decide +kernel
    obtain ⟨⟨summary, after⟩, loads⟩ := exists_ok_of_isOk succeeded
    refine ⟨summary, ?_⟩
    unfold lampCatalog
    rw [loads]
  have allowed : (Scene.enroll "Swap" lampCatalog
      ((Scene.empty "stage" .standard).after (lampCommands.take 2))).1 = .ok () := by
    decide +kernel
  obtain ⟨system, ids, found, systems⟩ := Scene.systems_perform_enroll allowed
  have member : ⟨system, ids⟩ ∈ scene.systems := systems ▸ List.mem_append_right _ List.mem_cons_self
  have put := List.mem_of_find?_eq_some found
  have failing : ∀ enrolled ∈ scene.systems,
      (scene.invoke enrolled ⟨"Tick", [], .empty⟩ scene.store #[]).1 =
        .error (.system "Swap" (.script fault)) := by
    decide +kernel
  have ended := failing _ member
  exact ⟨summary, _, loaded, member, put, ended, loaded_remains _ _ _ _ _ loaded _ _ _ member put
    List.not_mem_nil _ .start _ _ _ _ ended⟩

end Script

end Stagecraft
