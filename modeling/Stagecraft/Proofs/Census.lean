import Mathlib.Data.Fin.Tuple.Basic
import Stagecraft.Proofs.Allocation
import Stagecraft.Proofs.Steps
import Stagecraft.Roster.InPlace

/-!
The census: what a roster is to a host that does not see its free numbers, its slots and its count. Any calls,
in any order, are answered as by a partial map from the numbers below the capacity to signatures.
-/

namespace Stagecraft.Roster

/-- A partial map from the numbers below a capacity to signatures. -/
structure Census (capacity : Nat) where
  signatures : Fin capacity → Option Signature

namespace Census

variable {capacity : Nat}

def vacant : Census capacity := ⟨fun _ => none⟩

def least? (census : Census capacity) : Option (Fin capacity) :=
  Fin.find? fun number => (census.signatures number).isNone

/-- The number of an entity with its signature. An entity at or above the capacity is told from one that is not
alive. -/
def find (census : Census capacity) (entity : Entity) : Except Fault (Fin capacity × Signature) :=
  if inside : entity.id < capacity then
    match census.signatures ⟨entity.id, inside⟩ with
    | some signature => .ok (⟨entity.id, inside⟩, signature)
    | none => .error (.entityNotAlive entity)
  else .error (.entityOutOfRange entity)

def assign (census : Census capacity) (number : Fin capacity) (content : Option Signature) : Census capacity :=
  ⟨Function.update census.signatures number content⟩

def living (census : Census capacity) : List Entity :=
  ((List.finRange capacity).filter fun number => (census.signatures number).isSome).map fun number => .mk number.val

def play : Call → Operation (Census capacity) Answer
  | .create => .replace fun census =>
    match census.least? with
    | some number => .ok (.created ⟨number⟩, census.assign number (some .empty))
    | none => .error .tooManyEntities
  | .destroy entity => .replace fun census => do
    let (number, _) ← census.find entity
    return (.done, census.assign number none)
  | .setSignature entity signature => .replace fun census => do
    let (number, _) ← census.find entity
    return (.done, census.assign number (some signature))
  | .signature entity => .replace fun census => do
    let (_, signature) ← census.find entity
    return (.owned signature, census)

theorem least?_eq_some_iff {census : Census capacity} {number : Fin capacity} :
    census.least? = some number ↔
      census.signatures number = none ∧ ∀ smaller < number, (census.signatures smaller).isSome = true := by
  simp only [least?, Fin.find?_eq_some_iff, Option.isNone_iff_eq_none, Option.isNone_eq_false_iff]

theorem least?_eq_none_iff {census : Census capacity} :
    census.least? = none ↔ ∀ number, (census.signatures number).isSome = true := by
  simp only [least?, Fin.find?_eq_none_iff, Option.isNone_eq_false_iff]

theorem find_number {census : Census capacity} {entity : Entity} {number : Fin capacity} {signature : Signature}
    (found : census.find entity = .ok (number, signature)) : entity = ⟨number⟩ := by
  unfold Census.find at found
  split at found
  · split at found
    · cases found
      rfl
    · cases found
  · cases found

end Census

/-! ### Rosters that stand for a census -/

theorem map_setSignature (roster : Roster) (entity : Entity) (signature : Signature) :
    (roster.setSignature entity signature).map (fun _ => ()) = roster.checkAlive entity := by
  unfold setSignature
  cases roster.checkAlive entity <;> rfl

/-- A roster in step that tells of every number what a census tells. -/
structure StandsFor {capacity : Nat} (roster : Roster) (census : Census capacity) : Prop where
  wellFormed : roster.WellFormed
  capacity_eq : roster.capacity = capacity
  signature? : ∀ number : Fin capacity, roster.signature? ⟨number⟩ = census.signatures number

namespace StandsFor

variable {capacity : Nat} {roster : Roster} {census : Census capacity}

theorem empty (capacity : Nat) : (Roster.empty capacity).StandsFor (Census.vacant : Census capacity) where
  wellFormed := empty_wellFormed capacity
  capacity_eq := rfl
  signature? number := by simp [Roster.signature?, Roster.empty, Census.vacant]

theorem own (wellFormed : roster.WellFormed) :
    roster.StandsFor (⟨fun number => roster.signature? ⟨number⟩⟩ : Census roster.capacity) :=
  ⟨wellFormed, rfl, fun _ => rfl⟩

theorem changes (stands : roster.StandsFor census) {number : Fin capacity} {content : Option Signature}
    {next : Roster} (changes : Changes roster ⟨number⟩ content next) :
    next.StandsFor (census.assign number content) where
  wellFormed := changes.wellFormed
  capacity_eq := changes.capacity.trans stands.capacity_eq
  signature? other := by
    simp only [changes.signature?, stands.signature?, Census.assign, Function.update_apply, Entity.mk.injEq,
      Fin.val_inj, eq_comm]

/-- The signature of an entity, and the fault where it has none, are those of the census. -/
theorem signature (stands : roster.StandsFor census) (entity : Entity) :
    roster.signature entity = (census.find entity).map Prod.snd := by
  unfold Roster.signature Census.find
  rw [stands.capacity_eq]
  by_cases inside : entity.id < capacity
  · rw [if_neg (Nat.not_le_of_lt inside), dif_pos inside, ← stands.signature? ⟨entity.id, inside⟩]
    cases roster.signature? entity <;> rfl
  · rw [if_pos (Nat.le_of_not_lt inside), dif_neg inside]
    rfl

theorem checkAlive (stands : roster.StandsFor census) (entity : Entity) :
    roster.checkAlive entity = (census.find entity).map fun _ => () := by
  unfold Roster.checkAlive
  rw [stands.signature]
  cases census.find entity <;> rfl

/-! ### One call -/

theorem create (stands : roster.StandsFor census) :
    (play .create roster).1 = (census.play .create).1 ∧
      (play .create roster).2.StandsFor (census.play .create).2 := by
  simp only [Roster.play, Census.play, Operation.replace]
  cases created : roster.create with
  | error fault =>
    obtain ⟨rfl, full⟩ := create_error stands.wellFormed created
    have none : census.least? = none := Census.least?_eq_none_iff.mpr fun number => by
      rw [← stands.signature?]
      exact full number (stands.capacity_eq ▸ number.isLt)
    rw [none]
    exact ⟨rfl, stands⟩
  | ok result =>
    obtain ⟨entity, next⟩ := result
    have creates := create_ok stands.wellFormed created
    have inside : entity.id < capacity := stands.capacity_eq ▸ creates.inRange
    have least : census.least? = some ⟨entity.id, inside⟩ := by
      refine Census.least?_eq_some_iff.mpr ⟨?_, fun smaller less => ?_⟩
      · rw [← stands.signature?]
        exact creates.dead
      · rw [← stands.signature?]
        exact creates.least smaller less
    rw [least]
    exact ⟨rfl, stands.changes creates.changes⟩

/-- A change of one entity is refused as the census refuses to find it, and changes the census likewise. -/
theorem changed (stands : roster.StandsFor census) {entity : Entity} {content : Option Signature}
    {outcome : Except Fault Roster} (refusal : outcome.map (fun _ => ()) = roster.checkAlive entity)
    (done : ∀ next, outcome = .ok next → Changes roster entity content next) :
    (∃ fault, outcome = .error fault ∧ census.find entity = .error fault) ∨
    (∃ next number signature, outcome = .ok next ∧ census.find entity = .ok (number, signature) ∧
      next.StandsFor (census.assign number content)) := by
  rw [stands.checkAlive] at refusal
  cases found : census.find entity with
  | error reason =>
    rw [found] at refusal
    cases outcome with
    | error fault =>
      cases refusal
      exact .inl ⟨reason, rfl, rfl⟩
    | ok next => cases refusal
  | ok result =>
    obtain ⟨number, signature⟩ := result
    rw [found] at refusal
    cases outcome with
    | error fault => cases refusal
    | ok next =>
      obtain rfl := Census.find_number found
      exact .inr ⟨next, number, signature, rfl, rfl, stands.changes (done next rfl)⟩

/-- A roster in step answers every call as its census does, and stands for it afterwards. -/
theorem play (stands : roster.StandsFor census) (call : Call) :
    (Roster.play call roster).1 = (Census.play call census).1 ∧
      (Roster.play call roster).2.StandsFor (Census.play call census).2 := by
  cases call with
  | create => exact stands.create
  | destroy entity =>
    simp only [Roster.play, Census.play, Operation.replace]
    rcases stands.changed (map_destroy roster entity)
        (fun _ ended => (destroy_ok stands.wellFormed ended).2) with
      ⟨fault, refused, unfound⟩ | ⟨next, number, signature, ended, found, kept⟩
    · rw [refused, unfound]
      exact ⟨rfl, stands⟩
    · rw [ended, found]
      exact ⟨rfl, kept⟩
  | setSignature entity signature =>
    simp only [Roster.play, Census.play, Operation.replace]
    rcases stands.changed (map_setSignature roster entity signature)
        (fun _ replaced => (setSignature_ok stands.wellFormed replaced).2) with
      ⟨fault, refused, unfound⟩ | ⟨next, number, previous, replaced, found, kept⟩
    · rw [refused, unfound]
      exact ⟨rfl, stands⟩
    · rw [replaced, found]
      exact ⟨rfl, kept⟩
  | signature entity =>
    simp only [Roster.play, Census.play, Operation.replace, stands.signature]
    cases census.find entity <;> exact ⟨rfl, stands⟩

/-! ### What is listed and counted -/

theorem entities (stands : roster.StandsFor census) : roster.entities = census.living := by
  apply eq_of_ascending (entities_ascending roster)
  · rw [Census.living, List.pairwise_map]
    exact (List.pairwise_lt_finRange capacity).filter _
  · rintro ⟨number⟩
    simp only [mem_entities, Census.living, List.mem_map, List.mem_filter, List.mem_finRange, true_and,
      Entity.mk.injEq]
    constructor
    · intro alive
      have inside : number < capacity := stands.capacity_eq ▸ lt_capacity_of_alive stands.wellFormed alive
      rw [isAlive, stands.signature? ⟨number, inside⟩] at alive
      exact ⟨⟨number, inside⟩, alive, rfl⟩
    · rintro ⟨number, alive, rfl⟩
      exact (congrArg Option.isSome (stands.signature? number)).trans alive

theorem size (stands : roster.StandsFor census) : roster.size = census.living.length := by
  rw [← stands.entities, length_entities stands.wellFormed]

end StandsFor

/-! ### Rosters in place -/

namespace InPlace

variable {roster : Roster}

theorem onSlot_eq {α : Type} {number : Nat} {attempt : Attempt (Option Signature) α} {result : Except Fault α}
    {content : Option Signature} (inside : number < roster.slots.size)
    (done : attempt roster.slots[number] = some (result, content)) :
    onSlot number attempt roster =
      some (result, { roster with slots := roster.slots.setIfInBounds number content }) := by
  rw [Array.setIfInBounds_def, dif_pos inside]
  exact Attempt.within_eq (Attempt.onPlace_eq inside done)

theorem take_eq (roster : Roster) : take roster = some (Operation.replace Roster.take roster) := by
  obtain ⟨capacity, free, fresh, slots, size⟩ := roster
  cases free with
  | cons number rest => rfl
  | nil =>
    by_cases room : fresh < capacity
    · simp only [take, Operation.replace, Roster.take, Attempt.bind_get, if_pos room]
      rfl
    · simp only [take, Operation.replace, Roster.take, Attempt.bind_get, if_neg room]
      rfl

theorem create_eq (wellFormed : roster.WellFormed) :
    create roster = some (Operation.replace Roster.create roster) := by
  have taking := take_eq roster
  unfold Operation.replace at taking ⊢
  unfold Roster.create create
  cases taken : roster.take with
  | error fault =>
    rw [taken] at taking
    exact Attempt.bind_error taking _
  | ok result =>
    obtain ⟨number, next⟩ := result
    rw [taken] at taking
    have takes := take_ok wellFormed taken
    have inside : number < next.slots.size := takes.slots_size ▸ takes.inside
    rw [Attempt.bind_ok taking, Attempt.bind_ok (onSlot_eq inside rfl)]
    rfl

theorem checkAlive_eq (roster : Roster) (entity : Entity) :
    checkAlive entity roster = some (roster.checkAlive entity, roster) := by
  unfold checkAlive Roster.checkAlive Roster.signature isAlive
  rw [Attempt.bind_get]
  split
  · rfl
  · cases roster.signature? entity <;> rfl

theorem destroy_eq (wellFormed : roster.WellFormed) (entity : Entity) :
    destroy entity roster =
      some (Operation.replace (fun roster => (roster.destroy entity).map ((), ·)) roster) := by
  have checked := checkAlive_eq roster entity
  simp only [Operation.replace, Roster.destroy, destroy]
  cases accepted : roster.checkAlive entity with
  | error fault =>
    rw [accepted] at checked
    exact Attempt.bind_error checked _
  | ok =>
    rw [accepted] at checked
    have alive := (checkAlive_ok_iff wellFormed).mp accepted
    have positive : 0 < roster.size := by
      rw [← length_entities wellFormed]
      exact List.length_pos_of_mem ((mem_entities roster entity).mpr alive)
    have vacated : onSlot entity.id (set (none : Option Signature)) roster = some (.ok ⟨⟩, _) :=
      onSlot_eq (lt_size_of_alive alive) rfl
    rw [Attempt.bind_ok checked, Attempt.bind_ok vacated, Attempt.bind_modify, Attempt.within_eq]
    · rfl
    · exact Attempt.countDown_eq positive

theorem setSignature_eq (wellFormed : roster.WellFormed) (entity : Entity) (signature : Signature) :
    setSignature entity signature roster =
      some (Operation.replace (fun roster => (roster.setSignature entity signature).map ((), ·)) roster) := by
  have checked := checkAlive_eq roster entity
  simp only [Operation.replace, Roster.setSignature, setSignature]
  cases accepted : roster.checkAlive entity with
  | error fault =>
    rw [accepted] at checked
    exact Attempt.bind_error checked _
  | ok =>
    rw [accepted] at checked
    have alive := (checkAlive_ok_iff wellFormed).mp accepted
    have written : onSlot entity.id (set (some signature)) roster = some (.ok ⟨⟩, _) :=
      onSlot_eq (lt_size_of_alive alive) rfl
    rw [Attempt.bind_ok checked]
    exact written

theorem signature_eq (wellFormed : roster.WellFormed) (entity : Entity) :
    signature entity roster =
      some (Operation.replace (fun roster => (roster.signature entity).map (·, roster)) roster) := by
  have checked := checkAlive_eq roster entity
  unfold Roster.checkAlive at checked
  simp only [Operation.replace, signature]
  cases found : roster.signature entity with
  | error fault =>
    rw [found] at checked
    exact Attempt.bind_error checked _
  | ok owned =>
    rw [found] at checked
    have known := (signature_ok_iff wellFormed).mp found
    have alive : roster.isAlive entity = true := by rw [isAlive, known, Option.isSome_some]
    have inside := lt_size_of_alive alive
    have slot : roster.slots[entity.id] = some owned := by
      rw [signature?, Array.getElem?_eq_getElem inside] at known
      exact known
    have seen : onSlot entity.id get roster = some (.ok _, _) := onSlot_eq inside rfl
    rw [Array.setIfInBounds_def, dif_pos inside, Array.set_getElem_self, slot] at seen
    rw [Attempt.bind_ok checked, Attempt.bind_ok seen]
    rfl

/-- On a roster in step nothing breaks, and changing its parts in place does what replacing it does. -/
theorem play_eq (wellFormed : roster.WellFormed) (call : Call) :
    play call roster = some (Roster.play call roster) := by
  cases call with
  | create =>
    simp only [play, Roster.play]
    refine Attempt.bind_pure_eq (create_eq wellFormed) ?_
    cases roster.create <;> rfl
  | destroy entity =>
    simp only [play, Roster.play]
    refine Attempt.bind_pure_eq (destroy_eq wellFormed entity) ?_
    cases roster.destroy entity <;> rfl
  | setSignature entity signature =>
    simp only [play, Roster.play]
    refine Attempt.bind_pure_eq (setSignature_eq wellFormed entity signature) ?_
    cases roster.setSignature entity signature <;> rfl
  | signature entity =>
    simp only [play, Roster.play]
    refine Attempt.bind_pure_eq (signature_eq wellFormed entity) ?_
    cases roster.signature entity <;> rfl

end InPlace

/-! ### Any calls -/

theorem play_wellFormed {roster : Roster} (wellFormed : roster.WellFormed) (call : Call) :
    (play call roster).2.WellFormed :=
  ((StandsFor.own wellFormed).play call).2.wellFormed

theorem play_refused {roster : Roster} {call : Call} {fault : Fault}
    (refused : (play call roster).1 = .error fault) : (play call roster).2 = roster := by
  unfold play at refused ⊢
  cases call <;> exact Operation.replace_refused refused

/-- What a host finds of a roster, told by a census. -/
structure Embodies {capacity : Nat} (roster : Roster) (census : Census capacity) : Prop where
  capacity_eq : roster.capacity = capacity
  signature : ∀ entity, roster.signature entity = (census.find entity).map Prod.snd
  entities : roster.entities = census.living
  size : roster.size = census.living.length
  /-- A refused call leaves every part of the roster as it was. -/
  refused : ∀ call fault next, InPlace.play call roster = some (.error fault, next) → next = roster

theorem StandsFor.embodies {capacity : Nat} {roster : Roster} {census : Census capacity}
    (stands : roster.StandsFor census) : roster.Embodies census where
  capacity_eq := stands.capacity_eq
  signature := stands.signature
  entities := stands.entities
  size := stands.size
  refused call fault next refused := by
    rw [InPlace.play_eq stands.wellFormed] at refused
    have played := Option.some.inj refused
    rw [← play_refused (congrArg Prod.fst played), played]

/-- Any calls, in any order and on any entities, are answered as by a census; nothing breaks, and the roster
embodies the census afterwards. -/
theorem playAll_census (capacity : Nat) (calls : List Call) :
    ∃ answers census roster,
      Operation.playAll Census.play calls (Census.vacant : Census capacity) = (answers, census) ∧
      Attempt.playAll InPlace.play calls (empty capacity) = some (answers, roster) ∧
      Operation.playAll play calls (empty capacity) = (answers, roster) ∧ roster.Embodies census := by
  have inStep : ∀ call (roster : Roster) (census : Census capacity), roster.StandsFor census →
      (play call roster).1 = (Census.play call census).1 ∧
        (play call roster).2.StandsFor (Census.play call census).2 :=
    fun call _ _ stands => stands.play call
  have inPlace : ∀ call state image, (state = image ∧ state.WellFormed) →
      ∃ next, InPlace.play call state = some ((play call image).1, next) ∧
        next = (play call image).2 ∧ next.WellFormed := by
    rintro call state _ ⟨rfl, wellFormed⟩
    exact ⟨_, InPlace.play_eq wellFormed call, rfl, play_wellFormed wellFormed call⟩
  obtain ⟨answered, stands⟩ := Operation.playAll_inStep inStep calls (StandsFor.empty capacity)
  obtain ⟨roster, played, rfl, -⟩ := Attempt.playAll_inStep inPlace calls ⟨rfl, empty_wellFormed capacity⟩
  refine ⟨_, _, _, rfl, ?_, ?_, stands.embodies⟩
  · rw [played, answered]
  · rw [← answered]

end Stagecraft.Roster
