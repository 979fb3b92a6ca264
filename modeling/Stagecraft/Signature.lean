import Stagecraft.Handle

/-!
Signatures: the sets of component kinds that entities own, as words of 32 bits. A kind past the last
bit belongs to no signature.
-/

namespace Stagecraft

def maxKinds : Nat := 32

/-- A set of component kinds; bit `i` stands for kind `i`. -/
structure Signature where
  bits : BitVec maxKinds
deriving DecidableEq

namespace Signature

def empty : Signature := ⟨0⟩

instance : Inhabited Signature := ⟨empty⟩

/-- The bit of a kind; there is none past the end of the word. -/
def bit (id : ComponentId) : BitVec maxKinds := BitVec.twoPow maxKinds id.index

def insert (signature : Signature) (id : ComponentId) : Signature := ⟨signature.bits ||| bit id⟩

def erase (signature : Signature) (id : ComponentId) : Signature := ⟨signature.bits &&& ~~~bit id⟩

def contains (signature : Signature) (id : ComponentId) : Bool := signature.bits.getLsbD id.index

def ofList (ids : List ComponentId) : Signature := ids.foldl insert empty

def covers (signature required : Signature) : Bool :=
  signature.bits &&& required.bits == required.bits

def isEmpty (signature : Signature) : Bool := signature.bits == 0

def render (signature : Signature) : String :=
  "Signature(0b" ++ String.ofList ((List.range maxKinds).reverse.map
    (fun i => if signature.bits.getLsbD i then '1' else '0')) ++ ")"

theorem contains_empty (id : ComponentId) : empty.contains id = false := by
  simp [empty, contains]

theorem contains_insert (signature : Signature) (id other : ComponentId) :
    (signature.insert id).contains other =
      (signature.contains other || (decide (other.index < maxKinds) && decide (id = other))) := by
  obtain ⟨i⟩ := id
  obtain ⟨j⟩ := other
  by_cases same : i = j
  · subst same
    simp [insert, contains, bit, BitVec.getLsbD_twoPow]
  · simp [insert, contains, bit, BitVec.getLsbD_twoPow, same]

theorem contains_erase (signature : Signature) (id other : ComponentId) :
    (signature.erase id).contains other = (signature.contains other && decide (id ≠ other)) := by
  obtain ⟨i⟩ := id
  obtain ⟨j⟩ := other
  by_cases small : j < maxKinds
  · simp [erase, contains, bit, small, eq_comm]
  · simp [erase, contains, BitVec.getLsbD_of_ge _ _ (Nat.le_of_not_lt small)]

/-- A signature of given kinds has those of them that have a bit. -/
theorem contains_ofList (ids : List ComponentId) (id : ComponentId) :
    (ofList ids).contains id = (decide (id.index < maxKinds) && decide (id ∈ ids)) := by
  have from_ (signature : Signature) : (ids.foldl insert signature).contains id =
      (signature.contains id || (decide (id.index < maxKinds) && decide (id ∈ ids))) := by
    induction ids generalizing signature with
    | nil => simp
    | cons first rest ih =>
      rw [List.foldl_cons, ih, contains_insert]
      by_cases same : id = first
      · subst same
        by_cases small : id.index < maxKinds <;> simp [small]
      · simp [same, Ne.symm same]
  rw [ofList, from_, contains_empty, Bool.false_or]

theorem contains_of_covers {signature required : Signature} {id : ComponentId}
    (covered : signature.covers required = true) (needed : required.contains id = true) :
    signature.contains id = true := by
  have both : signature.bits &&& required.bits = required.bits := beq_iff_eq.mp covered
  rw [contains, ← both, BitVec.getLsbD_and, Bool.and_eq_true] at needed
  exact needed.1

theorem contains_lt {signature : Signature} {id : ComponentId}
    (owned : signature.contains id = true) : id.index < maxKinds := by
  exact BitVec.lt_of_getLsbD owned

end Signature

end Stagecraft
