import Stagecraft.Scene.Snapshot
import Stagecraft.Proofs.Allocation
import Stagecraft.Proofs.Entries
import Stagecraft.Proofs.Steps
import Stagecraft.Proofs.Storage

/-!
Effects: what each operation of a scene does when it succeeds, and what it leaves behind when it is
refused.
-/

namespace Stagecraft

variable {scene later : Scene} {fault : Fault}

namespace Store

theorem add_apply (entity : Entity) (id : ComponentId) (value : Value) (store : Store) :
    add entity id value store = match store.component? id with
      | none => (.error (.unknownComponent id), store)
      | some component => match component.accept value with
        | .error fault => (.error fault, store.openColumn id)
        | .ok () => (.ok (), (store.openColumn id).write entity id (some value)) := by
  unfold add
  rw [Operation.get_bind_apply]
  unfold component
  cases store.component? id with
  | none => rfl
  | some component =>
    change (liftM (component.accept value) >>= _ : Operation Store Unit) (store.openColumn id) = _
    rw [Operation.bind_apply]
    dsimp only
    cases component.accept value <;> rfl

def Stand (store : Store) (names : List String) (ids : List ComponentId) : Prop :=
  List.Forall₂ (fun name id => store.componentId? name = some id) names ids

theorem Stand.mono {store next : Store} {names : List String} {ids : List ComponentId}
    (stand : store.Stand names ids)
    (kept : ∀ name id, store.componentId? name = some id → next.componentId? name = some id) :
    next.Stand names ids :=
  stand.imp kept

theorem Stand.exists_mem {store : Store} {names : List String} {ids : List ComponentId}
    (stand : store.Stand names ids) {name : String} (member : name ∈ names) :
    ∃ id ∈ ids, store.componentId? name = some id :=
  exists_image_of_forall₂ stand member

theorem Stand.map_some {store : Store} {names : List String} {ids : List ComponentId}
    (stand : store.Stand names ids) : ids.map some = names.map store.componentId? := by
  induction stand with
  | nil => rfl
  | cons here _ ih => rw [List.map_cons, List.map_cons, here, ih]

theorem Stand.mem_ids_iff {store : Store} {names : List String} {ids : List ComponentId}
    (stand : store.Stand names ids) {id : ComponentId} :
    id ∈ ids ↔ ∃ name ∈ names, store.componentId? name = some id := by
  refine ⟨exists_member_of_forall₂ stand, ?_⟩
  rintro ⟨name, member, known⟩
  obtain ⟨other, inside, same⟩ := stand.exists_mem member
  rw [known] at same
  cases same
  exact inside

end Store

namespace Scene

/-! ### Operations as functions -/

theorem create_apply (scene : Scene) :
    create scene = match scene.roster.create with
      | .ok (entity, roster) => (.ok entity, { scene with roster := roster })
      | .error fault => (.error fault, scene) := by
  unfold create Operation.replace
  dsimp only
  cases scene.roster.create <;> rfl

theorem createNamed_apply (name : String) (scene : Scene) :
    createNamed name scene = if (scene.find? name).isSome then
        (.error (.alreadyRegistered .entity name), scene)
      else match create scene with
        | (.ok entity, later) => (.ok entity, { later with
            byName := (name, entity) :: later.byName
            names := (entity, name) :: later.names })
        | (.error fault, later) => (.error fault, later) := by
  unfold createNamed
  rw [Operation.get_bind_apply]
  split
  · rfl
  · change (create >>= _ : Operation Scene Entity) scene = _
    rw [Operation.bind_apply]
    rcases create scene with ⟨fault | entity, later⟩ <;> rfl

theorem destroy_apply (entity : Entity) (scene : Scene) :
    destroy entity scene = match scene.roster.destroy entity with
      | .ok roster =>
        (.ok (), { scene with roster := roster, store := scene.store.drop entity }.unname entity)
      | .error fault => (.error fault, scene) := by
  unfold destroy Operation.replace
  dsimp only
  cases scene.roster.destroy entity <;> rfl

theorem register_apply (component : Component) (scene : Scene) :
    register component scene = match scene.store.register component with
      | .ok (id, store) => (.ok id, { scene with store := store })
      | .error fault => (.error fault, scene) := by
  unfold register onStore Operation.within Operation.replace
  dsimp only
  cases scene.store.register component <;> rfl

theorem setSignature_apply (entity : Entity) (signature : Signature) (scene : Scene) :
    setSignature entity signature scene = match scene.roster.setSignature entity signature with
      | .ok roster => (.ok (), { scene with roster := roster })
      | .error fault => (.error fault, scene) := by
  unfold setSignature Operation.replace
  dsimp only
  cases scene.roster.setSignature entity signature <;> rfl

theorem add_apply (entity : Entity) (id : ComponentId) (value : Value) (scene : Scene) :
    add entity id value scene = match scene.roster.signature entity with
      | .error fault => (.error fault, scene)
      | .ok signature => match Store.add entity id value scene.store with
        | (.error fault, store) => (.error fault, { scene with store := store })
        | (.ok (), store) =>
          setSignature entity (signature.insert id) { scene with store := store } := by
  unfold add
  rw [Operation.get_bind_apply]
  cases scene.roster.signature entity with
  | error fault => rfl
  | ok signature =>
    change (onStore (Store.add entity id value) >>= _ : Operation Scene Unit) scene = _
    rw [Operation.bind_apply]
    unfold onStore Operation.within
    dsimp only
    rcases Store.add entity id value scene.store with ⟨fault | _, store⟩ <;> rfl

theorem remove_apply (entity : Entity) (id : ComponentId) (scene : Scene) :
    remove entity id scene = match scene.roster.signature entity with
      | .error fault => (.error fault, scene)
      | .ok signature => match scene.store.remove entity id with
        | .error fault => (.error fault, scene)
        | .ok (previous, store) =>
          match setSignature entity (signature.erase id) { scene with store := store } with
          | (.ok (), later) => (.ok previous, later)
          | (.error fault, later) => (.error fault, later) := by
  unfold remove
  rw [Operation.get_bind_apply]
  cases scene.roster.signature entity with
  | error fault => rfl
  | ok signature =>
    change (onStore (.replace fun store => store.remove entity id) >>= _ :
      Operation Scene (Option Value)) scene = _
    rw [Operation.bind_apply]
    unfold onStore Operation.within Operation.replace
    dsimp only
    rcases scene.store.remove entity id with fault | ⟨previous, store⟩
    · rfl
    · dsimp only
      rw [Operation.bind_apply]
      rcases setSignature entity (signature.erase id) { scene with store := store } with
        ⟨fault | _, later⟩ <;> rfl

theorem insert_apply (entity : Entity) (component : Component) (value : Value) (scene : Scene) :
    insert entity component value scene = match register component scene with
      | (.error fault, later) => (.error fault, later)
      | (.ok id, later) => match add entity id value later with
        | (.error fault, final) => (.error fault, final)
        | (.ok (), final) => (.ok id, final) := by
  unfold insert
  rw [Operation.bind_apply]
  rcases register component scene with ⟨fault | id, later⟩
  · rfl
  · dsimp only
    rw [Operation.bind_apply]
    rcases add entity id value later with ⟨fault | _, final⟩ <;> rfl

/-! ### Names -/

theorem find?_unname (scene : Scene) (entity : Entity) (name : String) :
    (scene.unname entity).find? name =
      if scene.givenName? entity = some name then none else scene.find? name := by
  unfold unname
  split
  · next given known =>
    rw [known, find?, find?, lookup_filter]
    simp only [Option.some.injEq, eq_comm]
  · next unnamed => simp [unnamed]

theorem givenName?_unname (scene : Scene) (entity other : Entity) :
    (scene.unname entity).givenName? other =
      if other = entity then none else scene.givenName? other := by
  unfold unname
  split
  · exact lookup_filter scene.names entity other
  · next unnamed =>
    split
    · next same => rw [same, unnamed]
    · rfl

@[simp] theorem unname_roster (scene : Scene) (entity : Entity) :
    (scene.unname entity).roster = scene.roster := by
  unfold unname
  split <;> rfl

@[simp] theorem unname_store (scene : Scene) (entity : Entity) :
    (scene.unname entity).store = scene.store := by
  unfold unname
  split <;> rfl

@[simp] theorem unname_systems (scene : Scene) (entity : Entity) :
    (scene.unname entity).systems = scene.systems := by
  unfold unname
  split <;> rfl

@[simp] theorem unname_limits (scene : Scene) (entity : Entity) :
    (scene.unname entity).limits = scene.limits := by
  unfold unname
  split <;> rfl

/-! ### Success and refusal -/

theorem create_ok {entity : Entity} (wellFormed : scene.roster.WellFormed)
    (created : create scene = (.ok entity, later)) :
    ∃ roster, scene.roster.Creates entity roster ∧ later = { scene with roster := roster } := by
  rw [create_apply] at created
  split at created
  · next roster succeeded =>
    cases created
    exact ⟨roster, Roster.create_ok wellFormed succeeded, rfl⟩
  · cases created

theorem create_refused (refused : create scene = (.error fault, later)) : later = scene := by
  rw [create_apply] at refused
  split at refused
  · cases refused
  · cases refused
    rfl

theorem createNamed_ok {name : String} {entity : Entity} (wellFormed : scene.roster.WellFormed)
    (created : createNamed name scene = (.ok entity, later)) :
    scene.find? name = none ∧ ∃ roster, scene.roster.Creates entity roster ∧
      later = { scene with
        roster := roster
        byName := (name, entity) :: scene.byName
        names := (entity, name) :: scene.names } := by
  rw [createNamed_apply] at created
  split at created
  · cases created
  · next absent =>
    split at created
    · next found middle succeeded =>
      cases created
      obtain ⟨roster, creates, rfl⟩ := create_ok wellFormed succeeded
      exact ⟨Option.not_isSome_iff_eq_none.mp absent, roster, creates, rfl⟩
    · cases created

theorem createNamed_refused {name : String}
    (refused : createNamed name scene = (.error fault, later)) : later = scene := by
  rw [createNamed_apply] at refused
  split at refused
  · cases refused
    rfl
  · split at refused
    · cases refused
    · next stopped =>
      cases refused
      exact create_refused stopped

theorem destroy_ok {entity : Entity} (wellFormed : scene.roster.WellFormed)
    (ended : destroy entity scene = (.ok (), later)) :
    scene.roster.isAlive entity = true ∧ ∃ roster, scene.roster.Changes entity none roster ∧
      later = { scene with roster := roster, store := scene.store.drop entity }.unname entity := by
  rw [destroy_apply] at ended
  split at ended
  · next roster succeeded =>
    cases ended
    obtain ⟨alive, changes⟩ := Roster.destroy_ok wellFormed succeeded
    exact ⟨alive, roster, changes, rfl⟩
  · cases ended

theorem destroy_refused {entity : Entity} (refused : destroy entity scene = (.error fault, later)) :
    later = scene := by
  rw [destroy_apply] at refused
  split at refused
  · cases refused
  · cases refused
    rfl

theorem register_ok {component : Component} {id : ComponentId}
    (registered : register component scene = (.ok id, later)) :
    ∃ store, scene.store.register component = .ok (id, store) ∧
      later = { scene with store := store } := by
  rw [register_apply] at registered
  split at registered
  · next store succeeded =>
    cases registered
    exact ⟨store, succeeded, rfl⟩
  · cases registered

theorem register_refused {component : Component}
    (refused : register component scene = (.error fault, later)) : later = scene := by
  rw [register_apply] at refused
  split at refused
  · cases refused
  · cases refused
    rfl

theorem setSignature_ok (scene : Scene) {entity : Entity} {owned : Signature}
    (signature : Signature) (wellFormed : scene.roster.WellFormed)
    (known : scene.roster.signature entity = .ok owned) :
    ∃ roster, scene.roster.Changes entity (some signature) roster ∧
      setSignature entity signature scene = (.ok (), { scene with roster := roster }) := by
  rw [setSignature_apply]
  cases replaced : scene.roster.setSignature entity signature with
  | ok roster => exact ⟨roster, (Roster.setSignature_ok wellFormed replaced).2, rfl⟩
  | error fault => simp [Roster.setSignature, Roster.checkAlive, known, bind, pure, Except.bind,
      Except.pure] at replaced

/-- A value is added with its schema and its bit, or is refused and may leave its column open. -/
theorem add_cases (wellFormed : scene.roster.WellFormed) (entity : Entity) (id : ComponentId)
    (value : Value) :
    (∃ fault store, scene.store.Grows store ∧
      add entity id value scene = (.error fault, { scene with store := store })) ∨
    ∃ signature component roster, scene.roster.signature? entity = some signature ∧
      scene.store.component? id = some component ∧ value.schema = component.schema ∧
      scene.roster.Changes entity (some (signature.insert id)) roster ∧
      add entity id value scene = (.ok (), { scene with
        roster := roster
        store := (scene.store.openColumn id).write entity id (some value) }) := by
  rw [add_apply, Store.add_apply]
  cases known : scene.roster.signature entity with
  | error fault => exact .inl ⟨fault, scene.store, .refl _, rfl⟩
  | ok signature =>
    cases registered : scene.store.component? id with
    | none => exact .inl ⟨_, scene.store, .refl _, rfl⟩
    | some component =>
      dsimp only
      cases accepted : component.accept value with
      | error fault => exact .inl ⟨fault, _, Store.openColumn_grows scene.store id, rfl⟩
      | ok =>
        obtain ⟨roster, changes, replaced⟩ := setSignature_ok
          { scene with store := (scene.store.openColumn id).write entity id (some value) }
          (signature.insert id) wellFormed known
        exact .inr ⟨signature, component, roster, (Roster.signature_ok_iff wellFormed).mp known, rfl,
          (component.accept_ok_iff value).mp accepted, changes, replaced⟩

theorem add_ok {entity : Entity} {id : ComponentId} {value : Value}
    (wellFormed : scene.roster.WellFormed) (added : add entity id value scene = (.ok (), later)) :
    ∃ signature component roster, scene.roster.signature? entity = some signature ∧
      scene.store.component? id = some component ∧ value.schema = component.schema ∧
      scene.roster.Changes entity (some (signature.insert id)) roster ∧
      later = { scene with
        roster := roster
        store := (scene.store.openColumn id).write entity id (some value) } := by
  rcases add_cases wellFormed entity id value with
    ⟨fault, store, -, ran⟩ | ⟨signature, component, roster, owned, known, fits, changes, ran⟩
  · rw [ran] at added
    cases added
  · rw [ran] at added
    cases added
    exact ⟨signature, component, roster, owned, known, fits, changes, rfl⟩

theorem add_refused {entity : Entity} {id : ComponentId} {value : Value}
    (wellFormed : scene.roster.WellFormed)
    (refused : add entity id value scene = (.error fault, later)) :
    ∃ store, scene.store.Grows store ∧ later = { scene with store := store } := by
  rcases add_cases wellFormed entity id value with
    ⟨reason, store, grows, ran⟩ | ⟨signature, component, roster, -, -, -, -, ran⟩
  · rw [ran] at refused
    cases refused
    exact ⟨store, grows, rfl⟩
  · rw [ran] at refused
    cases refused

/-- A component that is taken away leaves neither its value nor its bit. -/
theorem remove_cases (wellFormed : scene.roster.WellFormed) (entity : Entity) (id : ComponentId) :
    (∃ fault, remove entity id scene = (.error fault, scene)) ∨
    ∃ signature roster, scene.roster.signature? entity = some signature ∧
      scene.roster.Changes entity (some (signature.erase id)) roster ∧
      remove entity id scene = (.ok (scene.store.get? entity id), { scene with
        roster := roster
        store := scene.store.write entity id none }) := by
  rw [remove_apply]
  cases known : scene.roster.signature entity with
  | error fault => exact .inl ⟨fault, rfl⟩
  | ok signature =>
    unfold Store.remove Store.component
    cases registered : scene.store.component? id with
    | none => exact .inl ⟨_, rfl⟩
    | some component =>
      obtain ⟨roster, changes, replaced⟩ := setSignature_ok
        { scene with store := scene.store.write entity id none } (signature.erase id) wellFormed
        known
      refine .inr ⟨signature, roster, (Roster.signature_ok_iff wellFormed).mp known, changes, ?_⟩
      simp only [bind, Except.bind, pure, Except.pure, replaced]

theorem remove_ok {entity : Entity} {id : ComponentId} {previous : Option Value}
    (wellFormed : scene.roster.WellFormed)
    (removed : remove entity id scene = (.ok previous, later)) :
    ∃ signature roster, scene.roster.signature? entity = some signature ∧
      scene.roster.Changes entity (some (signature.erase id)) roster ∧
      later = { scene with roster := roster, store := scene.store.write entity id none } := by
  rcases remove_cases wellFormed entity id with ⟨fault, ran⟩ | ⟨signature, roster, owned, changes, ran⟩
  · rw [ran] at removed
    cases removed
  · rw [ran] at removed
    cases removed
    exact ⟨signature, roster, owned, changes, rfl⟩

theorem remove_refused {entity : Entity} {id : ComponentId} (wellFormed : scene.roster.WellFormed)
    (refused : remove entity id scene = (.error fault, later)) : later = scene := by
  rcases remove_cases wellFormed entity id with ⟨reason, ran⟩ | ⟨signature, roster, -, -, ran⟩
  · rw [ran] at refused
    cases refused
    rfl
  · rw [ran] at refused
    cases refused

theorem insert_ok {entity : Entity} {component : Component} {value : Value} {id : ComponentId}
    (inserted : insert entity component value scene = (.ok id, later)) :
    ∃ middle, register component scene = (.ok id, middle) ∧
      add entity id value middle = (.ok (), later) := by
  rw [insert_apply] at inserted
  split at inserted
  · cases inserted
  · next kind middle registered =>
    split at inserted
    · cases inserted
    · next final added =>
      cases inserted
      exact ⟨middle, registered, added⟩

theorem insert_refused {entity : Entity} {component : Component} {value : Value}
    (wellFormed : scene.roster.WellFormed)
    (refused : insert entity component value scene = (.error fault, later)) :
    ∃ store, scene.store.Grows store ∧ later = { scene with store := store } := by
  rw [insert_apply] at refused
  split at refused
  · next stopped =>
    cases refused
    exact ⟨scene.store, .refl _, register_refused stopped⟩
  · next id middle registered =>
    split at refused
    · next final stopped =>
      cases refused
      obtain ⟨opened, succeeded, rfl⟩ := register_ok registered
      have formed : ({ scene with store := opened } : Scene).roster.WellFormed := wellFormed
      obtain ⟨store, grows, rfl⟩ := add_refused formed stopped
      exact ⟨store, (Store.register_grows succeeded).trans grows, rfl⟩
    · cases refused

theorem registerFor_ok {system : String} {catalog : Catalog} {name : String} {id : ComponentId}
    (registered : registerFor system catalog name scene = (.ok id, later)) :
    ∃ store, scene.store.Grows store ∧ store.componentId? name = some id ∧
      later = { scene with store := store } := by
  unfold registerFor at registered
  cases found : catalog.components.find? name with
  | none =>
    rw [found] at registered
    cases registered
  | some component =>
    rw [found] at registered
    obtain ⟨store, succeeded, rfl⟩ := register_ok registered
    have named := Store.componentId?_registered succeeded
    rw [show component.name = name from Registry.find?_name found] at named
    exact ⟨store, Store.register_grows succeeded, named, rfl⟩

theorem registerFor_refused {system : String} {catalog : Catalog} {name : String}
    (refused : registerFor system catalog name scene = (.error fault, later)) : later = scene := by
  unfold registerFor at refused
  cases found : catalog.components.find? name with
  | none =>
    rw [found] at refused
    cases refused
    rfl
  | some component =>
    rw [found] at refused
    exact register_refused refused

theorem registerAll_grows (system : String) (catalog : Catalog) (names : List String)
    (scene : Scene) :
    ∃ store, (names.mapM (registerFor system catalog) scene).2 = { scene with store := store } ∧
      scene.store.Grows store ∧
      ∀ ids, (names.mapM (registerFor system catalog) scene).1 = .ok ids → store.Stand names ids := by
  induction names generalizing scene with
  | nil =>
    refine ⟨scene.store, rfl, .refl _, ?_⟩
    rintro ids ⟨⟩
    exact .nil
  | cons name rest ih =>
    rw [List.mapM_cons, Operation.bind_apply]
    rcases ran : registerFor system catalog name scene with ⟨fault | id, middle⟩
    · rw [registerFor_refused ran]
      exact ⟨scene.store, rfl, .refl _, fun _ impossible => nomatch impossible⟩
    · obtain ⟨opened, first, registered, rfl⟩ := registerFor_ok ran
      obtain ⟨store, after, remaining, known⟩ := ih { scene with store := opened }
      dsimp only
      rw [Operation.bind_apply]
      rcases others : rest.mapM (registerFor system catalog) { scene with store := opened } with
        ⟨fault | ids, final⟩
      · rw [others] at after
        exact ⟨store, after, first.trans remaining, fun _ impossible => nomatch impossible⟩
      · rw [others] at after known
        refine ⟨store, after, first.trans remaining, ?_⟩
        rintro all ⟨⟩
        exact .cons (remaining.componentId? _ id registered) (known ids rfl)

theorem enroll_apply (name : String) (catalog : Catalog) (scene : Scene) :
    enroll name catalog scene = match catalog.systems.find? name with
      | none => (.error (.unregisteredSystem name), scene)
      | some system =>
        if scene.hasSystem name then (.error (.alreadyRegistered .system name), scene)
        else match system.allComponents.mapM (registerFor name catalog) scene with
          | (.error fault, later) => (.error fault, later)
          | (.ok ids, later) =>
            (.ok (), { later with systems := later.systems ++ [⟨system, ids⟩] }) := by
  unfold enroll
  cases catalog.systems.find? name with
  | none => rfl
  | some system =>
    dsimp only
    rw [Operation.get_bind_apply]
    split
    · rfl
    · change (system.allComponents.mapM (registerFor name catalog) >>= _ : Operation Scene Unit) scene
        = _
      rw [Operation.bind_apply]
      rcases system.allComponents.mapM (registerFor name catalog) scene with ⟨fault | ids, later⟩ <;> rfl

theorem enroll_ok {name : String} {catalog : Catalog}
    (enrolled : enroll name catalog scene = (.ok (), later)) :
    ∃ system ids store, catalog.systems.find? name = some system ∧ scene.hasSystem name = false ∧
      scene.store.Grows store ∧
      store.Stand system.allComponents ids ∧
      later = { scene with store := store, systems := scene.systems ++ [⟨system, ids⟩] } := by
  rw [enroll_apply] at enrolled
  split at enrolled
  · cases enrolled
  · next system found =>
    split at enrolled
    · cases enrolled
    · next fresh =>
      obtain ⟨store, after, grows, known⟩ := registerAll_grows name catalog system.allComponents scene
      split at enrolled
      · cases enrolled
      · next ids middle ran =>
        rw [ran] at after known
        cases enrolled
        cases after
        exact ⟨system, ids, store, found, by simpa using fresh, grows, known ids rfl, rfl⟩

theorem enroll_refused {name : String} {catalog : Catalog}
    (refused : enroll name catalog scene = (.error fault, later)) :
    ∃ store, scene.store.Grows store ∧ later = { scene with store := store } := by
  rw [enroll_apply] at refused
  split at refused
  · cases refused
    exact ⟨scene.store, .refl _, rfl⟩
  · next system found =>
    split at refused
    · cases refused
      exact ⟨scene.store, .refl _, rfl⟩
    · obtain ⟨store, after, grows, -⟩ := registerAll_grows name catalog system.allComponents scene
      split at refused
      · next middle ran =>
        rw [ran] at after
        cases refused
        exact ⟨store, grows, after⟩
      · cases refused

end Scene

end Stagecraft
