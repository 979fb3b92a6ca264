import Stagecraft.Proofs.Script.Soundness

/-!
Runs: a checked system runs its body for entities that have what the parameters and the roles of the
event ask for.
-/

namespace Stagecraft

theorem View.contains_of_matching {view : View} (sound : view.Sound) {ids : List ComponentId}
    {entity : Entity} (matched : entity ∈ view.matching ids) {id : ComponentId} (inside : id ∈ ids)
    (small : id.index < maxKinds) : view.store.contains entity id = true := by
  unfold matching at matched
  split at matched
  · cases matched
  · obtain ⟨-, covers⟩ := List.mem_filter.mp matched
    split at covers
    · next signature known =>
      have owned : view.roster.signature? entity = some signature := by
        unfold Roster.signature at known
        split at known
        · cases known
        · split at known
          · next found =>
            cases known
            exact found
          · cases known
      have needed : (Signature.ofList ids).contains id = true := by
        rw [Signature.contains_ofList]
        simp [small, inside]
      rw [sound.owned, Roster.owns, owned]
      exact Signature.contains_of_covers covers needed
    · cases covers

namespace Script

variable {view : View} {permitted : Fault → Prop}

theorem Run.Safe.forM {α : Type} {holds : Progress → Prop} {step : α → Run Unit} {members : List α}
    (each : ∀ member ∈ members, (step member).Safe view permitted holds (fun _ => True)) :
    Run.Safe view permitted holds (fun _ => True) (members.forM step) := by
  induction members with
  | nil => exact .pure trivial
  | cons member rest ih =>
    change Run.Safe view permitted holds _ (step member >>= fun _ => rest.forM step)
    exact .bind (each member List.mem_cons_self)
      (fun _ _ => ih (fun other behind => each other (List.mem_cons_of_mem member behind)))

namespace Routine

variable {routine : Routine}

def Visible (view : View) (roles : List RoleDecl) : Prop :=
  ∀ role ∈ roles, ∀ component ∈ role.components,
    ∃ id ∈ view.components, view.store.componentId? component = some id

theorem componentIds_safe {components : List String}
    (visible : ∀ component ∈ components,
      ∃ id ∈ view.components, view.store.componentId? component = some id) :
    Behavior.Safe view permitted (fun ids => ∀ component ∈ components, ∃ id ∈ ids,
      id ∈ view.components ∧ view.store.componentId? component = some id)
      (components.mapM routine.componentId) := by
  induction components with
  | nil => exact .pure (fun _ member => nomatch member)
  | cons component rest ih =>
    obtain ⟨id, inside, known⟩ := visible component List.mem_cons_self
    rw [List.mapM_cons]
    apply Behavior.Safe.bind (componentId_safe inside known)
    rintro answer rfl
    apply Behavior.Safe.bind
      (ih (fun other behind => visible other (List.mem_cons_of_mem component behind)))
    intro ids others
    apply Behavior.Safe.pure
    intro other member
    rcases List.mem_cons.mp member with rfl | behind
    · exact ⟨answer, List.mem_cons_self, inside, known⟩
    · obtain ⟨kind, among, rest⟩ := others other behind
      exact ⟨kind, List.mem_cons_of_mem answer among, rest⟩

theorem candidates_safe (sound : view.Sound) {params : List RoleDecl} (visible : Visible view params) :
    (routine.candidates params).Safe view permitted (fun answer => ∀ lists, answer = some lists →
      List.Forall₂ (fun param options => ∀ entity ∈ options, view.OffersAll entity param.components)
        params lists) := by
  induction params with
  | nil =>
    apply Behavior.Safe.pure
    intro lists same
    cases same
    exact .nil
  | cons param rest ih =>
    apply Behavior.Safe.bind (componentIds_safe (visible param List.mem_cons_self))
    intro ids known
    apply Behavior.Safe.bind (Behavior.matching_safe ids)
    rintro entities rfl
    split
    · exact .pure nofun
    · apply Behavior.Safe.bind
        (ih (fun role behind => visible role (List.mem_cons_of_mem param behind)))
      intro others offered
      apply Behavior.Safe.pure
      intro lists same
      obtain ⟨remaining, rfl, rfl⟩ := Option.map_eq_some_iff.mp same
      refine .cons ?_ (offered remaining rfl)
      intro entity matched component member
      obtain ⟨id, among, inside, registered⟩ := known component member
      obtain ⟨found, kept⟩ := Store.component?_of_componentId? registered
      have small : id.index < maxKinds :=
        Nat.lt_of_lt_of_le (Store.lt_size_of_component? kept) sound.store.few
      exact ⟨id, inside, registered, View.contains_of_matching sound matched among small⟩

/-- What is safe for every tuple of entities that meet the parameters is safe for all of them. -/
theorem forEachTuple_safe {holds : Progress → Prop} {Meets : RoleDecl → Entity → Prop}
    (act : List Entity → Run Unit) {params : List RoleDecl} {lists : List (List Entity)}
    (options : List.Forall₂ (fun param entities => ∀ entity ∈ entities, Meets param entity) params
      lists) (bound : List RoleDecl) (chosen : List Entity)
    (meets : List.Forall₂ Meets bound chosen.reverse)
    (acts : ∀ tuple, List.Forall₂ Meets (bound ++ params) tuple →
      (act tuple).Safe view permitted holds (fun _ => True)) :
    (forEachTuple act lists chosen).Safe view permitted holds (fun _ => True) := by
  induction options generalizing bound chosen with
  | nil =>
    rw [List.append_nil] at acts
    exact acts chosen.reverse meets
  | @cons param entities rest others first _ ih =>
    apply Run.Safe.forM
    intro entity member
    have more : List.Forall₂ Meets (bound ++ [param]) (entity :: chosen).reverse := by
      rw [List.reverse_cons]
      exact List.rel_append meets (.cons (first entity member) .nil)
    apply ih _ _ more
    rw [List.append_assoc]
    exact acts

end Routine

/-! ### The body -/

theorem SystemDecl.check_ok {decl : SystemDecl} {components : Registry Component}
    {events : Registry Contract} {source : String}
    (checked : decl.check components events source = .ok ()) :
    ∃ entities locals later, decl.bindings = .ok entities ∧ Known decl locals ∧
      Scope.checkBlock ⟨decl.name, components, events, source, entities⟩ locals decl.body =
        .ok later := by
  unfold check at checked
  obtain ⟨entities, bound, others⟩ := bind_ok checked
  cases payload : decl.event.payload with
  | none =>
    rw [payload] at others
    obtain ⟨locals, same, body⟩ := bind_ok others
    cases same
    obtain ⟨later, body, -⟩ := bind_ok body
    refine ⟨entities, [], later, bound, ?_, body⟩
    intro name member
    cases member
  | some field =>
    rw [payload] at others
    dsimp only at others
    split at others
    · cases others
    · obtain ⟨locals, one, body⟩ := bind_ok others
      cases one
      obtain ⟨later, body, -⟩ := bind_ok body
      refine ⟨entities, [field.name], later, bound, ?_, body⟩
      intro name member
      rw [List.mem_singleton.mp member, payload]
      exact .inr rfl

namespace Routine

variable {routine : Routine} {event : Event}

def Targeted (view : View) (roles : List RoleDecl) (targets : List Entity) : Prop :=
  roles.length ≤ targets.length ∧
    ∀ role entity, (role, entity) ∈ roles.zip targets → view.OffersAll entity role.components

theorem bindings_agree {entities : List (String × List String)}
    (bound : routine.decl.bindings = .ok entities)
    (targeted : Targeted view routine.decl.event.roles event.targets) {tuple : List Entity}
    (meets : List.Forall₂ (fun param entity => view.OffersAll entity param.components)
      routine.decl.params tuple) :
    Agrees ⟨routine.decl.name, routine.components, routine.events, routine.source, entities⟩
      (routine.bindings event tuple) view := by
  have declares := SystemDecl.lookup_bindRoles bound
  -- A name stands for an entity beside a role of that name, and the check knows only one such role.
  have beside (name : String) (entity : Entity)
      (found : (routine.bindings event tuple).entity? name = some entity) :
      ∃ role : RoleDecl, entities.lookup name = some role.components ∧
        view.OffersAll entity role.components := by
    rcases mem_zip_of_lookup found with ⟨role, member, named⟩ | inner
    · have inside := List.mem_append_left routine.decl.event.roles (List.of_mem_zip member).1
      exact ⟨role, (declares name _).mpr (.inl ⟨role, inside, named, rfl⟩),
        List.forall₂_zip meets member⟩
    · rcases mem_zip_of_lookup inner with ⟨role, member, named⟩ | nowhere
      · have inside := List.mem_append_right routine.decl.params (List.of_mem_zip member).1
        exact ⟨role, (declares name _).mpr (.inl ⟨role, inside, named, rfl⟩),
          targeted.2 role entity member⟩
      · cases nowhere
  refine ⟨rfl, rfl, rfl, ?_, ?_⟩
  · intro name declared known
    have isBound : ((routine.bindings event tuple).entity? name).isSome = true := by
      apply lookup_bindNames_isSome (Nat.le_of_eq meets.length_eq)
      rcases (declares name declared).mp known with ⟨role, member, named, -⟩ | nowhere
      · rcases List.mem_append.mp member with param | listed
        · exact .inl ⟨role, param, named⟩
        · exact .inr (lookup_bindNames_isSome targeted.1 (.inl ⟨role, listed, named⟩))
      · cases nowhere
    obtain ⟨entity, found⟩ := Option.isSome_iff_exists.mp isBound
    obtain ⟨role, declaredThere, offered⟩ := beside name entity found
    rw [show entities.lookup name = some declared from known] at declaredThere
    cases declaredThere
    exact ⟨entity, found, offered⟩
  · intro name unknown
    rw [Option.eq_none_iff_forall_ne_some]
    intro entity found
    obtain ⟨role, declared, -⟩ := beside name entity found
    rw [show entities.lookup name = none from unknown] at declared
    cases declared

theorem runOn_safe (checked : routine.decl.check routine.components routine.events routine.source =
      .ok ())
    (targeted : Targeted view routine.decl.event.roles event.targets) {tuple : List Entity}
    (meets : List.Forall₂ (fun param entity => view.OffersAll entity param.components)
      routine.decl.params tuple) :
    (routine.runOn event tuple).Safe view (Fault.Remains routine.decl) (fun _ => True)
      (fun _ => True) := by
  obtain ⟨entities, locals, later, bound, known, body⟩ := SystemDecl.check_ok checked
  obtain ⟨safe, -⟩ := execBlock_safe (bindings_agree bound targeted meets) routine.decl.body known
    (List.Subset.refl _) body
  intro progress _
  refine Behavior.Safe.mono (safe _ ?_) (fun _ _ => ⟨trivial, trivial⟩)
  -- The payload is the first local.
  intro name payload
  cases field : routine.decl.event.payload with
  | none =>
    rw [field] at payload
    cases payload
  | some first =>
    rw [field] at payload
    cases payload
    simp

/-- A checked system fails only for the faults that remain. -/
theorem run_safe (sound : view.Sound)
    (checked : routine.decl.check routine.components routine.events routine.source = .ok ())
    (visible : Visible view routine.decl.params)
    (targeted : Targeted view routine.decl.event.roles event.targets) :
    (routine.run event).Safe view (Fault.Remains routine.decl) (fun _ => True) := by
  apply Behavior.Safe.bind (candidates_safe sound visible)
  intro answer offered
  cases answer with
  | none => exact .pure trivial
  | some lists =>
    have all := forEachTuple_safe (routine.runOn event) (offered lists rfl) [] [] .nil
      (fun tuple meets => runOn_safe checked targeted meets)
    exact Behavior.Safe.bind (all ⟨[], #[], 0⟩ trivial) (fun _ _ => .pure trivial)

end Routine

end Script

end Stagecraft
