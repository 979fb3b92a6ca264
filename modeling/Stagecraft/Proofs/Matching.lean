import Stagecraft.Proofs.Mirroring
import Stagecraft.Roster.InPlace

/-!
Matching: which entities a system sees. An entity is matched through a word that has a bit for each kind
asked for. A kind past the last bit belongs to no signature, but it leaves no trace in the word either, so
asking for it asks for nothing.
-/

namespace Stagecraft

/-- The entity is alive, and its signature has all of the kinds. -/
def Roster.Owns (roster : Roster) (ids : List ComponentId) (entity : Entity) : Prop :=
  ∃ signature, roster.signature entity = .ok signature ∧ ∀ id ∈ ids, signature.contains id = true

theorem Roster.Owns.mem_entities {roster : Roster} {ids : List ComponentId} {entity : Entity}
    (owns : roster.Owns ids entity) : entity ∈ roster.entities := by
  obtain ⟨signature, known, -⟩ := owns
  rw [Roster.mem_entities, isAlive]
  unfold Roster.signature at known
  split at known
  · cases known
  · split at known
    · next found => rw [found, Option.isSome_some]
    · cases known

namespace View

variable {view : View} {ids : List ComponentId} {entity : Entity}

def Asks (view : View) (ids : List ComponentId) : Prop :=
  ids ≠ [] ∧ ∀ id ∈ ids, id ∈ view.components

/-- The entities in ascending order that own all of the kinds, if some are asked for and all are in view,
and no entities otherwise. -/
structure Answers (view : View) (ids : List ComponentId) (entities : List Entity) : Prop where
  ascending : entities.Pairwise fun entity next => entity.id < next.id
  owners : ∀ entity, entity ∈ entities ↔ view.Asks ids ∧ view.roster.Owns ids entity

theorem matching_ascending (view : View) (ids : List ComponentId) :
    (view.matching ids).Pairwise fun entity next => entity.id < next.id := by
  rw [matching]
  split
  · exact List.Pairwise.nil
  · exact view.roster.entities_ascending.filter _

/-- What matches owns the kinds that have a bit, whatever other kinds are asked for. -/
theorem mem_matching : entity ∈ view.matching ids ↔
    view.Asks ids ∧ view.roster.Owns (ids.filter fun id => id.index < maxKinds) entity := by
  have asks : view.Asks ids ↔
      ¬(ids.isEmpty || !ids.all fun id => id ∈ view.components) = true := by
    simp [Asks, List.isEmpty_iff]
  rw [asks, matching]
  split
  · next refused => simp [refused]
  · next asked =>
    rw [List.mem_filter]
    constructor
    · rintro ⟨-, covered⟩
      refine ⟨asked, ?_⟩
      split at covered
      · next signature known => exact ⟨signature, known, Signature.covers_ofList_iff.mp covered⟩
      · cases covered
    · rintro ⟨-, owns⟩
      refine ⟨owns.mem_entities, ?_⟩
      obtain ⟨signature, known, owned⟩ := owns
      rw [known]
      exact Signature.covers_ofList_iff.mpr owned

/-- Of every view and every question: what matches comes in ascending order, and it is what owns those of
the kinds that have a bit. So it is what owns all of the kinds exactly if all of them have a bit, or nothing
owns even those that have one. -/
theorem matching_owners (view : View) (ids : List ComponentId) :
    (view.matching ids).Pairwise (fun entity next => entity.id < next.id) ∧
      (∀ entity, entity ∈ view.matching ids ↔
        view.Asks ids ∧ view.roster.Owns (ids.filter fun id => id.index < maxKinds) entity) ∧
      (view.Answers ids (view.matching ids) ↔
        view.Asks ids → (∀ id ∈ ids, id.index < maxKinds) ∨
          ∀ entity, ¬view.roster.Owns (ids.filter fun id => id.index < maxKinds) entity) := by
  refine ⟨view.matching_ascending ids, fun entity => mem_matching, fun answers asks => ?_, fun covered => ?_⟩
  · by_cases unowned : ∀ entity, ¬view.roster.Owns (ids.filter fun id => id.index < maxKinds) entity
    · exact .inr unowned
    · -- an entity that matches owns every kind asked for, and no signature has a kind without a bit
      rw [not_forall_not] at unowned
      obtain ⟨entity, owns⟩ := unowned
      obtain ⟨-, signature, -, owned⟩ := (answers.owners entity).mp (mem_matching.mpr ⟨asks, owns⟩)
      exact .inl fun id member => Signature.contains_lt (owned id member)
  · refine ⟨view.matching_ascending ids, fun entity => ?_⟩
    rw [mem_matching, and_congr_right_iff]
    intro asks
    rcases covered asks with small | unowned
    · rw [List.filter_eq_self.mpr fun id member => decide_eq_true (small id member)]
    · refine iff_of_false (unowned entity) ?_
      rintro ⟨signature, known, owned⟩
      exact unowned entity ⟨signature, known, fun id member => owned id (List.mem_of_mem_filter member)⟩

def unmarked : View where
  store := .empty
  roster := (Operation.playAll Roster.play [.create] (.empty Roster.defaultCapacity)).2
  components := [⟨40⟩]

/-- The entity matches the kind that no signature can have. -/
theorem unmarked_matching :
    ¬∀ (view : View) (ids : List ComponentId), view.Answers ids (view.matching ids) := by
  intro every
  have listed : (⟨0⟩ : Entity) ∈ unmarked.matching [⟨40⟩] := by decide
  obtain ⟨-, signature, -, owned⟩ := ((every unmarked [⟨40⟩]).owners ⟨0⟩).mp listed
  exact absurd (Signature.contains_lt (owned ⟨40⟩ List.mem_cons_self)) (by decide)

end View

end Stagecraft
