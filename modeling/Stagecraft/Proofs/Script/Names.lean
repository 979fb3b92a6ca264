import Mathlib.Data.List.Forall2
import Stagecraft.Proofs.Safety
import Stagecraft.Scene.Dispatch

/-!
Names: what the names of entities stand for, once in the check of a system and once while its body runs.
The check refuses a name that is bound twice, so both agree on which role a name belongs to.
-/

namespace Stagecraft

def View.OffersAll (view : View) (entity : Entity) (components : List String) : Prop :=
  ∀ component ∈ components, view.Offers entity component

namespace Script

theorem SystemDecl.lookup_bindRoles {system : String} {roles : List RoleDecl}
    {entities result : List (String × List String)}
    (bound : SystemDecl.bindRoles system roles entities = .ok result) (name : String)
    (declared : List String) :
    result.lookup name = some declared ↔
      (∃ role ∈ roles, role.name = some name ∧ role.components = declared) ∨
        entities.lookup name = some declared := by
  induction roles generalizing entities with
  | nil =>
    cases bound
    simp
  | cons role rest ih =>
    unfold SystemDecl.bindRoles at bound
    split at bound
    · next unnamed =>
      rw [ih bound]
      simp [unnamed]
    · next given named =>
      split at bound
      · cases bound
      · next fresh =>
        rw [ih bound, List.lookup_cons]
        have unbound : entities.lookup given = none := Option.not_isSome_iff_eq_none.mp fresh
        by_cases same : name = given
        · subst same
          simp only [List.mem_cons, exists_eq_or_imp, named, true_and, beq_self_eq_true, unbound,
            Option.some.injEq, reduceCtorEq, or_false]
          exact or_comm
        · have different : (name == given) = false := beq_eq_false_iff_ne.mpr same
          simp [named, different, Ne.symm same]

namespace Routine

theorem mem_zip_of_lookup {bound : List (String × Entity)} {roles : List RoleDecl}
    {entities : List Entity} {name : String} {entity : Entity}
    (found : (bindNames bound roles entities).lookup name = some entity) :
    (∃ role, (role, entity) ∈ roles.zip entities ∧ role.name = some name) ∨
      bound.lookup name = some entity := by
  induction roles generalizing bound entities with
  | nil => exact .inr found
  | cons role rest ih =>
    cases entities with
    | nil => exact .inr found
    | cons first others =>
      unfold bindNames at found
      split at found
      · next given named =>
        rcases ih found with ⟨later, member, has⟩ | earlier
        · exact .inl ⟨later, List.mem_cons_of_mem _ member, has⟩
        · rw [List.lookup_cons] at earlier
          by_cases same : name = given
          · subst same
            rw [beq_self_eq_true] at earlier
            cases earlier
            exact .inl ⟨role, List.mem_cons_self, named⟩
          · rw [beq_eq_false_iff_ne.mpr same] at earlier
            exact .inr earlier
      · rcases ih found with ⟨later, member, has⟩ | earlier
        · exact .inl ⟨later, List.mem_cons_of_mem _ member, has⟩
        · exact .inr earlier

theorem lookup_bindNames_isSome {bound : List (String × Entity)} {roles : List RoleDecl}
    {entities : List Entity} {name : String} (enough : roles.length ≤ entities.length)
    (known : (∃ role ∈ roles, role.name = some name) ∨ (bound.lookup name).isSome = true) :
    ((bindNames bound roles entities).lookup name).isSome = true := by
  induction roles generalizing bound entities with
  | nil => simpa [bindNames] using known
  | cons role rest ih =>
    cases entities with
    | nil => simp at enough
    | cons first others =>
      have fewer : rest.length ≤ others.length := Nat.le_of_succ_le_succ enough
      unfold bindNames
      split
      · next given named =>
        apply ih fewer
        rw [List.lookup_cons]
        by_cases same : name = given
        · right
          rw [beq_iff_eq.mpr same]
          rfl
        · rw [beq_eq_false_iff_ne.mpr same]
          rcases known with ⟨member, inside, has⟩ | earlier
          · rcases List.mem_cons.mp inside with rfl | behind
            · rw [named] at has
              exact absurd (Option.some.inj has).symm same
            · exact .inl ⟨member, behind, has⟩
          · exact .inr earlier
      · next unnamed =>
        apply ih fewer
        rcases known with ⟨member, inside, has⟩ | earlier
        · rcases List.mem_cons.mp inside with rfl | behind
          · rw [unnamed] at has
            cases has
          · exact .inl ⟨member, behind, has⟩
        · exact .inr earlier

end Routine

end Script

namespace Store

theorem bindRole_ok {store : Store} {entity : Entity} {components : List String}
    {refs : List ComponentRef} (bound : store.bindRole entity components = .ok refs) :
    ∀ component ∈ components, ∃ id, store.componentId? component = some id ∧
      store.contains entity id = true := by
  intro component member
  obtain ⟨ref, found⟩ := exists_mapM_iff.mp ⟨_, bound⟩ component member
  split at found
  · next id known =>
    obtain ⟨registered, held⟩ := Option.filter_eq_some_iff.mp known
    exact ⟨id, registered, held⟩
  · cases found

/-- Where the roles of an event are bound, there is a target for each, and it has what the role asks
for. -/
theorem bindTargets_ok {store : Store} {missing : Fault} {roles : List Role} {targets : List Entity}
    {refs : List (List ComponentRef)} (bound : store.bindTargets missing roles targets = .ok refs) :
    roles.length ≤ targets.length ∧ ∀ pair ∈ roles.zip targets, ∀ component ∈ pair.1.components,
      ∃ id, store.componentId? component = some id ∧ store.contains pair.2 id = true := by
  induction roles generalizing targets refs with
  | nil => exact ⟨Nat.zero_le _, fun _ member => nomatch member⟩
  | cons role rest ih =>
    cases targets with
    | nil => cases bound
    | cons entity others =>
      obtain ⟨found, first, remaining⟩ := bind_ok bound
      obtain ⟨more, last, -⟩ := bind_ok remaining
      obtain ⟨enough, offered⟩ := ih last
      refine ⟨Nat.succ_le_succ enough, ?_⟩
      intro pair member
      rcases List.mem_cons.mp member with rfl | behind
      · exact bindRole_ok first
      · exact offered pair behind

end Store

end Stagecraft
