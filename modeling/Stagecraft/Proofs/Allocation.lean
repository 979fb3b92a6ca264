import Stagecraft.Roster
import Stagecraft.Proofs.Slots

/-!
Allocation: the numbers that wait to be given out again, the mark below which every number was given
out once, the slots and the count stay in step. A roster is then known by its capacity and by what it
tells of every entity: whatever its past, it gives out the least number that is not alive.
-/

namespace Stagecraft.Roster

structure WellFormed (roster : Roster) : Prop where
  /-- Every number given out has a slot, and no other has. -/
  slots_size : roster.slots.size = roster.fresh
  fresh_le : roster.fresh ≤ roster.capacity
  ascending : roster.free.Pairwise (· < ·)
  mem_free : ∀ number, number ∈ roster.free ↔
    number < roster.fresh ∧ roster.signature? ⟨number⟩ = none
  counted : roster.size = roster.slots.countP Option.isSome

theorem empty_wellFormed (capacity : Nat) : (empty capacity).WellFormed where
  slots_size := rfl
  fresh_le := Nat.zero_le _
  ascending := List.Pairwise.nil
  mem_free := by simp [empty]
  counted := rfl

theorem lt_size_of_alive {roster : Roster} {entity : Entity}
    (alive : roster.isAlive entity = true) : entity.id < roster.slots.size := by
  by_contra outside
  simp [isAlive, signature?, Array.getElem?_eq_none (Nat.le_of_not_lt outside)] at alive

theorem lt_capacity_of_alive {roster : Roster} {entity : Entity} (wellFormed : roster.WellFormed)
    (alive : roster.isAlive entity = true) : entity.id < roster.capacity := by
  have inside := lt_size_of_alive alive
  have bound := wellFormed.fresh_le
  have size := wellFormed.slots_size
  omega

theorem signature_ok_iff {roster : Roster} {entity : Entity} {signature : Signature}
    (wellFormed : roster.WellFormed) :
    roster.signature entity = .ok signature ↔ roster.signature? entity = some signature := by
  unfold Roster.signature
  constructor
  · intro known
    split at known
    · cases known
    · split at known <;> simp_all
  · intro known
    have alive : roster.isAlive entity = true := by simp [isAlive, known]
    rw [if_neg (Nat.not_le_of_lt (lt_capacity_of_alive wellFormed alive)), known]

theorem checkAlive_ok_iff {roster : Roster} {entity : Entity} (wellFormed : roster.WellFormed) :
    roster.checkAlive entity = .ok () ↔ roster.isAlive entity = true := by
  unfold checkAlive isAlive
  cases known : roster.signature? entity with
  | some signature =>
    rw [(signature_ok_iff wellFormed).mpr known]
    exact iff_of_true rfl rfl
  | none =>
    unfold Roster.signature
    rw [known]
    split <;> simp [bind, Except.bind]

theorem length_entities {roster : Roster} (wellFormed : roster.WellFormed) :
    roster.entities.length = roster.size := by
  rw [wellFormed.counted]
  exact Slots.length_occupied roster.slots

theorem entities_ascending (roster : Roster) :
    roster.entities.Pairwise (fun first second => first.id < second.id) :=
  Slots.ascending _ _

theorem entities_distinct (roster : Roster) : roster.entities.Nodup := by
  apply (entities_ascending roster).imp
  rintro first _ less rfl
  exact Nat.lt_irrefl first.id less

theorem alive_of_not_free {roster : Roster} (wellFormed : roster.WellFormed) {number : Nat}
    (bound : number < roster.fresh) (used : number ∉ roster.free) :
    roster.isAlive ⟨number⟩ = true := by
  rw [wellFormed.mem_free] at used
  rw [isAlive, Option.isSome_iff_ne_none]
  exact fun dead => used ⟨bound, dead⟩

/-- What taking a number does: the least number that is not alive has a slot afterwards and waits no
more. Otherwise the roster is in step. -/
structure Takes (roster : Roster) (number : Nat) (next : Roster) : Prop where
  dead : roster.signature? ⟨number⟩ = none
  least : ∀ smaller < number, roster.isAlive ⟨smaller⟩ = true
  inside : number < next.fresh
  capacity : next.capacity = roster.capacity
  signature? : ∀ other, next.signature? other = roster.signature? other
  slots_size : next.slots.size = next.fresh
  fresh_le : next.fresh ≤ next.capacity
  ascending : next.free.Pairwise (· < ·)
  mem_free : ∀ other, other ∈ next.free ↔
    other < next.fresh ∧ number ≠ other ∧ next.signature? ⟨other⟩ = none
  counted : next.size = next.slots.countP Option.isSome

/-- The first of the numbers that wait is the least. -/
theorem take_free {roster : Roster} (wellFormed : roster.WellFormed) {number : Nat}
    {rest : List Nat} (free : roster.free = number :: rest) :
    Takes roster number { roster with free := rest } := by
  have sorted := wellFormed.ascending
  rw [free, List.pairwise_cons] at sorted
  obtain ⟨bound, dead⟩ := (wellFormed.mem_free number).mp (by simp [free])
  refine ⟨dead, ?_, bound, rfl, fun _ => rfl, wellFormed.slots_size, wellFormed.fresh_le, sorted.2, ?_,
    wellFormed.counted⟩
  · intro smaller less
    apply alive_of_not_free wellFormed (Nat.lt_trans less bound)
    rw [free, List.mem_cons]
    rintro (same | later)
    · exact Nat.ne_of_lt less same
    · exact Nat.lt_asymm less (sorted.1 smaller later)
  · intro other
    have known := wellFormed.mem_free other
    rw [free, List.mem_cons] at known
    constructor
    · intro later
      obtain ⟨inside, vacant⟩ := known.mp (.inr later)
      exact ⟨inside, Nat.ne_of_lt (sorted.1 other later), vacant⟩
    · rintro ⟨inside, different, vacant⟩
      exact (known.mpr ⟨inside, vacant⟩).resolve_left (Ne.symm different)

/-- Where no number waits, every number given out is alive. -/
theorem take_fresh {roster : Roster} (wellFormed : roster.WellFormed) (free : roster.free = [])
    (room : roster.fresh < roster.capacity) :
    Takes roster roster.fresh
      { roster with fresh := roster.fresh + 1, slots := roster.slots.push none } := by
  have alive (number : Nat) (bound : number < roster.fresh) : roster.isAlive ⟨number⟩ = true :=
    alive_of_not_free wellFormed bound (by simp [free])
  have pushed (other : Entity) :
      (roster.slots.push none)[other.id]?.join = roster.slots[other.id]?.join := by
    rw [Array.getElem?_push]
    by_cases last : other.id = roster.slots.size
    · rw [if_pos last, last, Array.getElem?_eq_none (Nat.le_refl _)]
      rfl
    · rw [if_neg last]
  refine ⟨?_, alive, Nat.lt_succ_self _, rfl, pushed, ?_, room, by simp [free], ?_, ?_⟩
  · rw [Roster.signature?, ← wellFormed.slots_size, Array.getElem?_eq_none (Nat.le_refl _)]
    rfl
  · rw [Array.size_push, wellFormed.slots_size]
  · intro other
    simp only [free, List.not_mem_nil, false_iff]
    rintro ⟨bound, different, vacant⟩
    have living := alive other (by omega)
    have dead : roster.signature? ⟨other⟩ = none := (pushed ⟨other⟩).symm.trans vacant
    simp [isAlive, dead] at living
  · rw [Array.countP_push, wellFormed.counted]
    rfl

theorem take_ok {roster next : Roster} {number : Nat} (wellFormed : roster.WellFormed)
    (taken : roster.take = .ok (number, next)) : Takes roster number next := by
  unfold take at taken
  split at taken
  · next free =>
    cases taken
    exact take_free wellFormed free
  · next free =>
    split at taken
    · next room =>
      cases taken
      exact take_fresh wellFormed free room
    · cases taken

/-- One entity has another signature than before, or none; the roster stays in step. -/
structure Changes (roster : Roster) (entity : Entity) (content : Option Signature)
    (next : Roster) : Prop where
  capacity : next.capacity = roster.capacity
  signature? : ∀ other,
    next.signature? other = if entity = other then content else roster.signature? other
  wellFormed : next.WellFormed

structure Creates (roster : Roster) (entity : Entity) (next : Roster) : Prop where
  dead : roster.signature? entity = none
  inRange : entity.id < roster.capacity
  least : ∀ smaller < entity.id, roster.isAlive ⟨smaller⟩ = true
  changes : Changes roster entity (some .empty) next

theorem signature?_setIfInBounds (roster : Roster) (entity other : Entity)
    (inside : entity.id < roster.slots.size) (content : Option Signature) :
    ({ roster with slots := roster.slots.setIfInBounds entity.id content } : Roster).signature?
      other = if entity = other then content else roster.signature? other := by
  obtain ⟨i⟩ := entity
  obtain ⟨j⟩ := other
  simp only [Roster.signature?, Entity.mk.injEq]
  exact Slots.join_setIfInBounds _ _ _ inside _

theorem create_ok {roster next : Roster} {entity : Entity} (wellFormed : roster.WellFormed)
    (created : roster.create = .ok (entity, next)) : Creates roster entity next := by
  unfold create at created
  cases taken : roster.take with
  | error fault => simp [taken, bind, Except.bind] at created
  | ok result =>
    obtain ⟨number, middle⟩ := result
    rw [taken] at created
    cases created
    have takes := take_ok wellFormed taken
    have inside : number < middle.slots.size := takes.slots_size ▸ takes.inside
    have signatures (other : Entity) := signature?_setIfInBounds middle ⟨number⟩ other inside
      (some .empty)
    refine ⟨takes.dead, ?_, takes.least, takes.capacity, ?_, ?_⟩
    · exact takes.capacity ▸ Nat.lt_of_lt_of_le takes.inside takes.fresh_le
    · intro other
      rw [← takes.signature? other]
      exact signatures other
    · refine ⟨?_, takes.fresh_le, takes.ascending, ?_, ?_⟩
      · simpa using takes.slots_size
      · intro other
        have known := signatures ⟨other⟩
        have free := takes.mem_free other
        simp only [Roster.signature?] at known free ⊢
        rw [free, known]
        by_cases same : number = other
        · simp [same]
        · simp [same]
      · have count := Slots.countP_setIfInBounds _ _ inside (some Signature.empty)
        have vacant : middle.slots[number]?.join = none :=
          (takes.signature? ⟨number⟩).trans takes.dead
        rw [vacant, ← takes.counted] at count
        exact count.symm

/-- A creation is refused only when every number in range is alive. -/
theorem create_error {roster : Roster} {fault : Fault} (wellFormed : roster.WellFormed)
    (refused : roster.create = .error fault) :
    fault = .tooManyEntities ∧ ∀ number < roster.capacity, roster.isAlive ⟨number⟩ = true := by
  unfold create take at refused
  split at refused
  · cases refused
  · next free =>
    split at refused
    · cases refused
    · next full =>
      cases refused
      refine ⟨rfl, fun number bound => alive_of_not_free wellFormed ?_ (by simp [free])⟩
      exact Nat.lt_of_lt_of_le bound (Nat.le_of_not_lt full)

theorem mem_insertNumber (number other : Nat) (numbers : List Nat) :
    other ∈ insertNumber number numbers ↔ other = number ∨ other ∈ numbers := by
  induction numbers with
  | nil => simp [insertNumber]
  | cons first rest ih =>
    unfold insertNumber
    split
    · simp
    · split
      · next same => simp [same]
      · rw [List.mem_cons, ih, List.mem_cons]
        exact or_left_comm

theorem insertNumber_ascending (number : Nat) (numbers : List Nat)
    (sorted : numbers.Pairwise (· < ·)) : (insertNumber number numbers).Pairwise (· < ·) := by
  induction numbers with
  | nil => simp [insertNumber]
  | cons first rest ih =>
    have tail := List.pairwise_cons.mp sorted
    unfold insertNumber
    split
    · next less =>
      refine List.pairwise_cons.mpr ⟨fun other member => ?_, sorted⟩
      rcases List.mem_cons.mp member with same | later
      · exact same ▸ less
      · exact Nat.lt_trans less (tail.1 other later)
    · split
      · exact sorted
      · refine List.pairwise_cons.mpr ⟨fun other member => ?_, ih tail.2⟩
        rcases (mem_insertNumber number other rest).mp member with same | later
        · omega
        · exact tail.1 other later

theorem destroy_ok {roster next : Roster} {entity : Entity} (wellFormed : roster.WellFormed)
    (ended : roster.destroy entity = .ok next) :
    roster.isAlive entity = true ∧ Changes roster entity none next := by
  unfold destroy at ended
  cases accepted : roster.checkAlive entity with
  | error fault => simp [accepted, bind, Except.bind] at ended
  | ok =>
    rw [accepted] at ended
    cases ended
    have alive := (checkAlive_ok_iff wellFormed).mp accepted
    have inside := lt_size_of_alive alive
    have signatures (other : Entity) := signature?_setIfInBounds roster entity other inside none
    refine ⟨alive, rfl, signatures, ?_, wellFormed.fresh_le, ?_, ?_, ?_⟩
    · simpa using wellFormed.slots_size
    · exact insertNumber_ascending _ _ wellFormed.ascending
    · intro number
      have known := signatures ⟨number⟩
      have free := wellFormed.mem_free number
      simp only [Roster.signature?] at known free ⊢
      rw [mem_insertNumber, free, known]
      by_cases same : entity = ⟨number⟩
      · subst same
        simpa using wellFormed.slots_size ▸ inside
      · have different : number ≠ entity.id := fun equal => same (equal ▸ rfl)
        simp [same, different]
    · have count := Slots.countP_setIfInBounds _ _ inside (none : Option Signature)
      have occupied : (roster.slots[entity.id]?.join).isSome = true := alive
      rw [occupied, ← wellFormed.counted] at count
      exact (Nat.eq_sub_of_add_eq count).symm

theorem map_destroy (roster : Roster) (entity : Entity) :
    (roster.destroy entity).map (fun _ => ()) = roster.checkAlive entity := by
  unfold destroy
  cases roster.checkAlive entity <;> rfl

theorem setSignature_ok {roster next : Roster} {entity : Entity} {signature : Signature}
    (wellFormed : roster.WellFormed) (replaced : roster.setSignature entity signature = .ok next) :
    roster.isAlive entity = true ∧ Changes roster entity (some signature) next := by
  unfold setSignature at replaced
  cases accepted : roster.checkAlive entity with
  | error fault => simp [accepted, bind, Except.bind] at replaced
  | ok =>
    rw [accepted] at replaced
    cases replaced
    have alive := (checkAlive_ok_iff wellFormed).mp accepted
    have inside := lt_size_of_alive alive
    have signatures (other : Entity) :=
      signature?_setIfInBounds roster entity other inside (some signature)
    refine ⟨alive, rfl, signatures, ?_, wellFormed.fresh_le, wellFormed.ascending, ?_, ?_⟩
    · simpa using wellFormed.slots_size
    · intro number
      have known := signatures ⟨number⟩
      have free := wellFormed.mem_free number
      simp only [Roster.signature?] at known free ⊢
      rw [free, known]
      by_cases same : entity = ⟨number⟩
      · subst same
        have occupied : (roster.slots[number]?.join).isSome = true := alive
        simp [Option.isSome_iff_ne_none.mp occupied]
      · simp [same]
    · have count := Slots.countP_setIfInBounds _ _ inside (some signature)
      have occupied : (roster.slots[entity.id]?.join).isSome = true := alive
      rw [occupied, ← wellFormed.counted] at count
      exact Nat.add_right_cancel count.symm

/-- Two rosters tell the same of every entity, whatever numbers wait in either. -/
structure Agrees (first second : Roster) : Prop where
  capacity : first.capacity = second.capacity
  signature? : ∀ entity, first.signature? entity = second.signature? entity

namespace Agrees

variable {first second : Roster}

theorem isAlive (agrees : first.Agrees second) (entity : Entity) :
    first.isAlive entity = second.isAlive entity := by
  rw [Roster.isAlive, Roster.isAlive, agrees.signature?]

theorem signature (agrees : first.Agrees second) (entity : Entity) :
    first.signature entity = second.signature entity := by
  rw [Roster.signature, Roster.signature, agrees.capacity, agrees.signature?]

theorem checkAlive (agrees : first.Agrees second) (entity : Entity) :
    first.checkAlive entity = second.checkAlive entity := by
  rw [Roster.checkAlive, Roster.checkAlive, agrees.signature]

theorem changes (agrees : first.Agrees second) {entity : Entity} {content : Option Signature}
    {left right : Roster} (one : Changes first entity content left)
    (other : Changes second entity content right) : left.Agrees right where
  capacity := by rw [one.capacity, other.capacity, agrees.capacity]
  signature? member := by rw [one.signature?, other.signature?, agrees.signature?]

/-- Where two rosters agree, one cannot give out a number when the other has none left, and the least
number that is not alive is the same in both. -/
theorem create (agrees : first.Agrees second) (firstFormed : first.WellFormed)
    (secondFormed : second.WellFormed) :
    first.create.map Prod.fst = second.create.map Prod.fst := by
  cases one : first.create with
  | error fault =>
    obtain ⟨rfl, full⟩ := create_error firstFormed one
    cases other : second.create with
    | error fault => rw [(create_error secondFormed other).1]
    | ok result =>
      have creates := create_ok secondFormed other
      have alive := full result.1.id (agrees.capacity ▸ creates.inRange)
      rw [agrees.isAlive, Roster.isAlive, creates.dead] at alive
      cases alive
  | ok result =>
    have creates := create_ok firstFormed one
    cases other : second.create with
    | error fault =>
      have alive := (create_error secondFormed other).2 result.1.id
        (agrees.capacity ▸ creates.inRange)
      rw [← agrees.isAlive, Roster.isAlive, creates.dead] at alive
      cases alive
    | ok answer =>
      have created := create_ok secondFormed other
      have same : result.1.id = answer.1.id := by
        apply Nat.le_antisymm
        · by_contra less
          have alive := creates.least _ (Nat.lt_of_not_le less)
          rw [agrees.isAlive, Roster.isAlive, created.dead] at alive
          cases alive
        · by_contra less
          have alive := created.least _ (Nat.lt_of_not_le less)
          rw [← agrees.isAlive, Roster.isAlive, creates.dead] at alive
          cases alive
      exact congrArg Except.ok (congrArg Entity.mk same)

end Agrees

end Stagecraft.Roster
