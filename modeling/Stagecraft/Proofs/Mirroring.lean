import Stagecraft.Proofs.Safety
import Stagecraft.Proofs.Snapshots

/-!
Mirroring: behaviors on copies of entities. A copy goes by another number, and so may the kinds of its
components; but a behavior that asks for kinds by their names, and hands on no entity but such as it was
given, does to the copies what it does to the originals.
-/

namespace Stagecraft

/-! ### Other numbers -/

def Fault.rename (place : Entity → Entity) : Fault → Fault
  | entityOutOfRange entity => entityOutOfRange (place entity)
  | entityNotAlive entity => entityNotAlive (place entity)
  | missingComponent entity component => missingComponent (place entity) component
  | fault => fault

def Script.Fault.rename (place : Entity → Entity) : Script.Fault → Script.Fault
  | scene fault => scene (fault.rename place)
  | fault => fault

def Event.rename (place : Entity → Entity) (event : Event) : Event :=
  { event with targets := event.targets.map place }

/-! ### Views on originals and on copies -/

namespace Signature

theorem covers_iff {signature required : Signature} : signature.covers required = true ↔
    ∀ id, required.contains id = true → signature.contains id = true := by
  refine ⟨fun covered id => contains_of_covers covered, fun every => ?_⟩
  apply beq_iff_eq.mpr
  apply BitVec.eq_of_getLsbD_eq
  intro i _
  rw [BitVec.getLsbD_and, Bool.and_eq_right_iff_imp]
  exact every ⟨i⟩

/-- The signature of some kinds asks for those of them that have a bit, and for no others. -/
theorem covers_ofList_iff {signature : Signature} {ids : List ComponentId} :
    signature.covers (.ofList ids) = true ↔
      ∀ id ∈ ids.filter (fun id => id.index < maxKinds), signature.contains id = true := by
  simp only [covers_iff, contains_ofList, List.mem_filter, Bool.and_eq_true, decide_eq_true_eq]
  exact forall_congr' fun id => imp_congr_left and_comm

theorem covers_ofList {signature : Signature} {ids : List ComponentId}
    (small : ∀ id ∈ ids, id.index < maxKinds) :
    signature.covers (.ofList ids) = ids.all (fun id => signature.contains id) := by
  have kept : ids.filter (fun id => id.index < maxKinds) = ids :=
    List.filter_eq_self.mpr fun id member => decide_eq_true (small id member)
  rw [Bool.eq_iff_iff, covers_ofList_iff, kept, List.all_eq_true]

end Signature

namespace View

def schema? (view : View) (name : String) : Option Schema :=
  (view.componentId? name).bind (fun id => (view.store.component? id).map Component.schema)

theorem componentId?_eq_some_iff {view : View} {name : String} {id : ComponentId} :
    view.componentId? name = some id ↔
      view.store.componentId? name = some id ∧ id ∈ view.components := by
  rw [componentId?, Option.filter_eq_some_iff, decide_eq_true_eq]

theorem exists_component {view : View} {name : String} {id : ComponentId}
    (known : view.componentId? name = some id) :
    ∃ component, view.store.component? id = some component ∧ component.name = name ∧
      view.schema? name = some component.schema := by
  obtain ⟨component, registered, named⟩ :=
    Store.exists_component?_of_componentId? (componentId?_eq_some_iff.mp known).1
  refine ⟨component, registered, named, ?_⟩
  rw [View.schema?, known, Option.bind_some, registered]
  rfl

theorem valueOf_eq {view : View} {name : String} {id : ComponentId}
    (known : view.componentId? name = some id) (entity : Entity) :
    view.store.valueOf entity name = view.store.get? entity id := by
  rw [Store.valueOf, (componentId?_eq_some_iff.mp known).1, Option.bind_some]

theorem isOpen_of_valueOf {view : View} {name : String} {id : ComponentId} {entity : Entity}
    (known : view.componentId? name = some id)
    (present : (view.store.valueOf entity name).isSome = true) : view.store.isOpen id = true := by
  rw [valueOf_eq known] at present
  exact Store.isOpen_of_contains present

def Stand (view : View) (names : List String) (ids : List ComponentId) : Prop :=
  List.Forall₂ (fun name id => view.componentId? name = some id) names ids

/-- The entities that match some kinds in view are those that have values of all of them. -/
theorem matching_eq_filter {view : View} (formed : view.roster.WellFormed) (sound : view.Sound)
    {ids : List ComponentId} (registered : ∀ id ∈ ids, id ∈ view.components →
      ∃ component, view.store.component? id = some component) :
    view.matching ids = if ids.isEmpty || !ids.all (fun id => id ∈ view.components) then []
      else view.roster.entities.filter (fun entity =>
        ids.all (fun id => view.store.contains entity id)) := by
  rw [matching]
  split
  · rfl
  · next asked =>
    have small : ∀ id ∈ ids, id.index < maxKinds := by
      intro id member
      simp only [Bool.or_eq_true, not_or, Bool.not_eq_true', Bool.not_eq_false,
        List.all_eq_true, decide_eq_true_eq] at asked
      obtain ⟨component, known⟩ := registered id member (asked.2 id member)
      exact Nat.lt_of_lt_of_le (Store.lt_size_of_component? known) sound.store.few
    apply List.filter_congr
    intro entity member
    obtain ⟨signature, owned⟩ := Option.isSome_iff_exists.mp ((Roster.mem_entities _ _).mp member)
    rw [(Roster.signature_ok_iff formed).mpr owned]
    dsimp only
    rw [Signature.covers_ofList small]
    refine List.all_congr rfl (fun id => ?_)
    rw [sound.owned, Roster.owns, owned, Option.any_some]

theorem matching_eq {view : View} (formed : view.roster.WellFormed) (sound : view.Sound)
    {names : List String} {ids : List ComponentId} (stand : view.Stand names ids) :
    view.matching ids = if names.isEmpty then []
      else view.roster.entities.filter (fun entity =>
        names.all (fun name => (view.store.valueOf entity name).isSome)) := by
  have inside : ∀ id ∈ ids, id ∈ view.components ∧
      ∃ component, view.store.component? id = some component := by
    intro id member
    obtain ⟨name, -, known⟩ := exists_member_of_forall₂ stand member
    obtain ⟨known, inside⟩ := componentId?_eq_some_iff.mp known
    exact ⟨inside, Store.component?_of_componentId? known⟩
  have all : ids.all (fun id => id ∈ view.components) = true := by
    rw [List.all_eq_true]
    exact fun id member => decide_eq_true (inside id member).1
  have has (entity : Entity) : ids.all (fun id => view.store.contains entity id) =
      names.all (fun name => (view.store.valueOf entity name).isSome) := by
    clear inside all
    induction stand with
    | nil => rfl
    | cons here _ ih => rw [List.all_cons, List.all_cons, ih, valueOf_eq here, Store.contains]
  have empty : ids.isEmpty = names.isEmpty := by cases stand <;> rfl
  rw [matching_eq_filter formed sound (fun id member _ => (inside id member).2), all, empty,
    Bool.not_true, Bool.or_false]
  simp only [has]

/-- A view on entities, and a view on copies of them. The copies are listed in the order of the originals,
and the same components are in view, with the same schemas. -/
structure Twins (place : Entity → Entity) (view copy : View) : Prop where
  formed : view.roster.WellFormed
  formedCopy : copy.roster.WellFormed
  sound : view.Sound
  soundCopy : copy.Sound
  entities : copy.roster.entities = view.roster.entities.map place
  schema? : ∀ name, copy.schema? name = view.schema? name

namespace Twins

variable {place : Entity → Entity} {view copy : View}

theorem injective (twins : Twins place view copy) {entity other : Entity}
    (alive : view.roster.isAlive entity = true) (aliveOther : view.roster.isAlive other = true)
    (same : place entity = place other) : entity = other := by
  have distinct := copy.roster.entities_distinct
  rw [twins.entities] at distinct
  exact List.inj_on_of_nodup_map distinct ((Roster.mem_entities _ _).mpr alive)
    ((Roster.mem_entities _ _).mpr aliveOther) same

theorem isSome_componentId? (twins : Twins place view copy) (name : String) :
    (copy.componentId? name).isSome = (view.componentId? name).isSome := by
  have seen (view : View) : (view.componentId? name).isSome = (view.schema? name).isSome := by
    cases known : view.componentId? name with
    | none => rw [View.schema?, known]; rfl
    | some id =>
      obtain ⟨component, -, -, schema⟩ := exists_component known
      rw [schema]
      rfl
  rw [seen, seen, twins.schema?]

end Twins

theorem set_known {view : View} {id : ComponentId} {component : Component}
    (inside : id ∈ view.components) (registered : view.store.component? id = some component)
    (entity : Entity) (value : Value) :
    view.set entity id value =
      if view.store.contains entity id then
        match component.accept value with
        | .ok () => (.ok (), { view with store := view.store.write entity id (some value) })
        | .error fault => (.error fault, view)
      else (.error (.missingComponent entity component.name), view) := by
  rw [set, if_pos inside, Store.set, registered]
  dsimp only
  split
  · cases component.accept value <;> rfl
  · rfl

theorem set_eq {view : View} {name : String} {id : ComponentId} {component : Component}
    (known : view.componentId? name = some id)
    (registered : view.store.component? id = some component) (entity : Entity) (value : Value) :
    view.set entity id value =
      if (view.store.valueOf entity name).isSome then
        match component.accept value with
        | .ok () => (.ok (), { view with store := view.store.write entity id (some value) })
        | .error fault => (.error fault, view)
      else (.error (.missingComponent entity component.name), view) := by
  rw [valueOf_eq known]
  exact set_known (componentId?_eq_some_iff.mp known).2 registered entity value

end View

/-- What a component accepts is a matter of its schema, and what it says of a refusal also of its name. -/
theorem Component.accept_congr {component other : Component} (name : other.name = component.name)
    (schema : other.schema = component.schema) (value : Value) :
    other.accept value = component.accept value := by
  rw [accept, accept, name, schema]

theorem Component.rename_of_accept {component : Component} {value : Value} {fault : Fault}
    (refused : component.accept value = .error fault) (place : Entity → Entity) :
    fault.rename place = fault := by
  unfold accept at refused
  split at refused
  · cases refused
  · cases refused
    rfl

/-! ### Runs on originals and on copies -/

theorem Store.Rewrites.isSome_valueOf {before after : Store} (rewrites : before.Rewrites after)
    (entity : Entity) (name : String) :
    (after.valueOf entity name).isSome = (before.valueOf entity name).isSome := by
  rw [Store.valueOf, Store.valueOf, rewrites.componentId?]
  cases before.componentId? name with
  | none => rfl
  | some id => exact rewrites.contains entity id

/-- Two situations that two views may come to: the copies have the values of their originals, and the same
was left for the host. -/
structure Situation.Mirrors (place : Entity → Entity) (view copy : View) (one other : Situation) :
    Prop where
  evolves : view.Evolves one.view
  evolvesCopy : copy.Evolves other.view
  valueOf : ∀ entity, view.roster.isAlive entity = true → ∀ name,
    other.view.store.valueOf (place entity) name = one.view.store.valueOf entity name
  output : other.output = one.output

namespace Script

def Matched {α β : Type} (place : Entity → Entity) (post : α → β → Prop) :
    Except Fault α → Except Fault β → Prop
  | .ok result, .ok image => post result image
  | .error fault, .error image => image = fault.rename place
  | _, _ => False

end Script

namespace Behavior

variable {α β γ δ : Type} {place : Entity → Entity} {view copy : View}

/-- Begun in situations that mirror each other, two behaviors end in such situations, with results as
described or with the same fault about originals and about copies. -/
def Mirrors (place : Entity → Entity) (view copy : View) (post : α → β → Prop)
    (behavior : Behavior Script.Fault α) (image : Behavior Script.Fault β) : Prop :=
  ∀ one other, Situation.Mirrors place view copy one other →
    Script.Matched place post (behavior.run one).1 (image.run other).1 ∧
      Situation.Mirrors place view copy (behavior.run one).2 (image.run other).2

namespace Mirrors

theorem pure {result : α} {image : β} {post : α → β → Prop} (satisfied : post result image) :
    Mirrors place view copy post (Pure.pure result) (Pure.pure image) :=
  fun _ _ mirrors => ⟨satisfied, mirrors⟩

theorem fail {fault : Script.Fault} {post : α → β → Prop} :
    Mirrors place view copy post (.fail fault) (.fail (fault.rename place)) :=
  fun _ _ mirrors => ⟨rfl, mirrors⟩

theorem bind {behavior : Behavior Script.Fault α} {image : Behavior Script.Fault β}
    {next : α → Behavior Script.Fault γ} {nextImage : β → Behavior Script.Fault δ}
    {middle : α → β → Prop} {final : γ → δ → Prop}
    (first : Mirrors place view copy middle behavior image)
    (second : ∀ result other, middle result other →
      Mirrors place view copy final (next result) (nextImage other)) :
    Mirrors place view copy final (behavior >>= next) (image >>= nextImage) := by
  intro one other mirrors
  have ended := first one other mirrors
  change Script.Matched place final ((behavior.bind next).run one).1
    ((image.bind nextImage).run other).1 ∧ Situation.Mirrors place view copy
      ((behavior.bind next).run one).2 ((image.bind nextImage).run other).2
  rw [run_bind, run_bind]
  rcases ran : behavior.run one with ⟨fault | result, later⟩
  · rcases ranImage : image.run other with ⟨faultImage | resultImage, laterImage⟩
    · rw [ran, ranImage] at ended
      exact ended
    · rw [ran, ranImage] at ended
      exact ended.1.elim
  · rcases ranImage : image.run other with ⟨faultImage | resultImage, laterImage⟩
    · rw [ran, ranImage] at ended
      exact ended.1.elim
    · rw [ran, ranImage] at ended
      exact second result resultImage ended.1 later laterImage ended.2

theorem ofExcept {result : Except Script.Fault α}
    (impersonal : ∀ fault, result = .error fault → fault.rename place = fault) :
    Mirrors place view copy Eq (Behavior.ofExcept result) (Behavior.ofExcept result) := by
  cases result with
  | ok value => exact pure rfl
  | error fault =>
    have failed : Mirrors place view copy Eq (.fail fault : Behavior Script.Fault α)
        (.fail (fault.rename place)) := fail
    rwa [impersonal fault rfl] at failed

end Mirrors

theorem output_mirrors (line : Output) :
    Mirrors place view copy (fun _ _ => True) (output line) (output line) := by
  intro one other mirrors
  exact ⟨trivial, mirrors.evolves, mirrors.evolvesCopy, mirrors.valueOf,
    congrArg (fun lines => lines.push line) mirrors.output⟩

theorem step_mirrors : Mirrors place view copy (fun _ _ => True) step step :=
  fun _ _ mirrors => ⟨trivial, mirrors⟩

theorem componentId_mirrors (name : String) :
    Mirrors place view copy
      (fun id image => id = view.componentId? name ∧ image = copy.componentId? name)
      (componentId name) (componentId name) :=
  fun _ _ mirrors => ⟨⟨mirrors.evolves.componentId? name, mirrors.evolvesCopy.componentId? name⟩,
    mirrors⟩

theorem matching_mirrors (twins : View.Twins place view copy) {names : List String}
    {ids idsCopy : List ComponentId} (stand : view.Stand names ids)
    (standCopy : copy.Stand names idsCopy) :
    Mirrors place view copy
      (fun answer image => image = answer.map place ∧
        ∀ entity ∈ answer, view.roster.isAlive entity = true)
      (matching ids) (matching idsCopy) := by
  intro one other mirrors
  refine ⟨?_, mirrors⟩
  change other.view.matching idsCopy = (one.view.matching ids).map place ∧
    ∀ entity ∈ one.view.matching ids, _
  rw [mirrors.evolves.matching, mirrors.evolvesCopy.matching,
    View.matching_eq twins.formed twins.sound stand,
    View.matching_eq twins.formedCopy twins.soundCopy standCopy]
  have has (entity : Entity) (member : entity ∈ view.roster.entities) :
      names.all (fun name => (copy.store.valueOf (place entity) name).isSome) =
        names.all (fun name => (view.store.valueOf entity name).isSome) := by
    refine List.all_congr rfl (fun name => ?_)
    rw [← mirrors.evolvesCopy.rewrites.isSome_valueOf, ← mirrors.evolves.rewrites.isSome_valueOf,
      mirrors.valueOf entity ((Roster.mem_entities _ _).mp member)]
  split
  · exact ⟨rfl, nofun⟩
  · rw [twins.entities, List.filter_map]
    refine ⟨congrArg (List.map place) (List.filter_congr has), fun entity member => ?_⟩
    exact (Roster.mem_entities _ _).mp (List.mem_filter.mp member).1

/-- What is read from a copy is the value of its original. -/
theorem value_mirrors {entity : Entity} (alive : view.roster.isAlive entity = true) {name : String}
    {id idCopy : ComponentId} (known : view.componentId? name = some id)
    (knownCopy : copy.componentId? name = some idCopy) :
    Mirrors place view copy Eq (value entity id) (value (place entity) idCopy) := by
  intro one other mirrors
  refine ⟨?_, mirrors⟩
  rw [← mirrors.evolves.componentId?] at known
  rw [← mirrors.evolvesCopy.componentId?] at knownCopy
  change one.view.get? entity id = other.view.get? (place entity) idCopy
  rw [View.get?, View.get?, if_pos (View.componentId?_eq_some_iff.mp known).2,
    if_pos (View.componentId?_eq_some_iff.mp knownCopy).2, ← View.valueOf_eq known,
    ← View.valueOf_eq knownCopy, mirrors.valueOf entity alive]

/-- A value that is written for a copy is accepted or refused like that for its original. -/
theorem write_mirrors (twins : View.Twins place view copy) {entity : Entity}
    (alive : view.roster.isAlive entity = true) {name : String} {id idCopy : ComponentId}
    (known : view.componentId? name = some id) (knownCopy : copy.componentId? name = some idCopy)
    (value : Value) :
    Mirrors place view copy
      (fun answer image => image = answer.mapError (Fault.rename place))
      (write entity id value) (write (place entity) idCopy value) := by
  rintro ⟨seen, output⟩ ⟨seenCopy, outputCopy⟩ ⟨evolves, evolvesCopy, valueOf, sameOutput⟩
  dsimp only at evolves evolvesCopy valueOf sameOutput
  obtain ⟨component, registered, named, schema⟩ := View.exists_component known
  obtain ⟨componentCopy, registeredCopy, namedCopy, schemaCopy⟩ :=
    View.exists_component knownCopy
  have accepts := Component.accept_congr (namedCopy.trans named.symm)
    (Option.some.inj (schemaCopy.symm.trans ((twins.schema? name).trans schema))) value
  rw [← evolves.componentId?] at known
  rw [← evolvesCopy.componentId?] at knownCopy
  rw [← evolves.rewrites.component?] at registered
  rw [← evolvesCopy.rewrites.component?] at registeredCopy
  have written := View.set_eq known registered entity value
  have writtenCopy := View.set_eq knownCopy registeredCopy (place entity) value
  rw [named] at written
  rw [valueOf entity alive, accepts, namedCopy] at writtenCopy
  have further := evolves.trans (View.set_evolves evolves.wellFormed entity id value)
  have furtherCopy :=
    evolvesCopy.trans (View.set_evolves evolvesCopy.wellFormed (place entity) idCopy value)
  change Script.Matched place _ (.ok (seen.set entity id value).1)
      (.ok (seenCopy.set (place entity) idCopy value).1) ∧
    Situation.Mirrors place view copy ⟨(seen.set entity id value).2, output⟩
      ⟨(seenCopy.set (place entity) idCopy value).2, outputCopy⟩
  by_cases present : (seen.store.valueOf entity name).isSome = true
  · rw [if_pos present] at written writtenCopy
    cases accepted : component.accept value with
    | error fault =>
      rw [accepted] at written writtenCopy
      rw [written, writtenCopy]
      exact ⟨congrArg Except.error (component.rename_of_accept accepted place).symm, evolves,
        evolvesCopy, valueOf, sameOutput⟩
    | ok =>
      rw [accepted] at written writtenCopy
      rw [written] at further ⊢
      rw [writtenCopy] at furtherCopy ⊢
      refine ⟨rfl, further, furtherCopy, ?_, sameOutput⟩
      intro found aliveFound kind
      have opened := View.isOpen_of_valueOf known present
      have openedCopy := View.isOpen_of_valueOf knownCopy (by rwa [valueOf entity alive])
      dsimp only
      rw [Store.valueOf_write (View.componentId?_eq_some_iff.mp known).1 opened,
        Store.valueOf_write (View.componentId?_eq_some_iff.mp knownCopy).1 openedCopy,
        valueOf found aliveFound]
      have same : place entity = place found ↔ entity = found :=
        ⟨twins.injective alive aliveFound, congrArg place⟩
      simp only [same]
  · rw [if_neg present] at written writtenCopy
    rw [written, writtenCopy]
    exact ⟨rfl, evolves, evolvesCopy, valueOf, sameOutput⟩

end Behavior

end Stagecraft
