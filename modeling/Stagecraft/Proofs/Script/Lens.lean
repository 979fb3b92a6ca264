import Stagecraft.Proofs.Script.Parts
import Stagecraft.Script.InPlace

/-!
Lenses: assignments to parts of a value and readings of parts agree. What was assigned is read again, what
lies apart from it is read as before, and an assignment that fails changes nothing. Whether one succeeds is
a matter of one reading and two schemas.
-/

namespace Stagecraft

theorem Schema.ne_optional (schema : Schema) : schema ≠ .optional schema := by
  intro same
  have sizes := congrArg sizeOf same
  simp only [Schema.optional.sizeOf_spec] at sizes
  omega

theorem Vector3.axis?_eq_some_iff {v : Vector3} {name : String} {n : Float} :
    v.axis? name = some n ↔
      (name = "x" ∧ v.x = n) ∨ (name = "y" ∧ v.y = n) ∨ (name = "z" ∧ v.z = n) := by
  unfold axis?
  split <;> simp_all

namespace Script

/-- A value is converted to its own schema, and to that of an optional of it. -/
theorem coerce_ok_iff {target : String} {value result : Value} {expected : Schema} :
    coerce target value expected = .ok result ↔
      (value.schema = expected ∧ result = value) ∨
        (expected = .optional value.schema ∧ result = .filled value) := by
  constructor
  · intro coerced
    unfold coerce at coerced
    split at coerced
    next same =>
      cases coerced
      exact .inl ⟨same, rfl⟩
    next =>
      split at coerced
      next inner =>
        split at coerced
        next same =>
          cases coerced
          exact .inr ⟨congrArg Schema.optional same.symm, rfl⟩
        next => cases coerced
      next => cases coerced
  · intro fits
    cases fits with
    | inl exactly =>
      unfold coerce
      rw [if_pos exactly.1, exactly.2]
    | inr wrapped =>
      obtain ⟨rfl, rfl⟩ := wrapped
      unfold coerce
      rw [if_neg (Schema.ne_optional value.schema)]
      exact if_pos rfl

/-! ### One name

A part is replaced under one name, by a value of the same schema. -/

def withPart (value : Value) (name : String) (part : Value) : Value :=
  match value with
  | .record fields => .record (Keyed.replace name part fields)
  | .vector v =>
    match part.asNumber?.bind (fun n => v.setAxis? n name) with
    | some changed => .vector changed
    | none => value
  | _ => value

section Fields

variable {fields : List (String × Value)} {name : String} {part replacement : Value}

theorem lookup_replace (found : fields.lookup name = some part) :
    (Keyed.replace name replacement fields).lookup name = some replacement := by
  induction fields with
  | nil => cases found
  | cons field rest ih =>
    obtain ⟨other, value⟩ := field
    unfold Keyed.replace
    rw [List.lookup_cons] at found
    by_cases equal : name = other
    · simp [equal]
    · rw [beq_eq_false_iff_ne.mpr equal] at found
      rw [if_neg equal, List.lookup_cons, beq_eq_false_iff_ne.mpr equal]
      exact ih found

theorem lookup_replace_other {other : String} (apart : other ≠ name) :
    (Keyed.replace name replacement fields).lookup other = fields.lookup other := by
  induction fields with
  | nil => rfl
  | cons field rest ih =>
    obtain ⟨key, value⟩ := field
    unfold Keyed.replace
    split
    next equal =>
      have missed : (other == key) = false := beq_eq_false_iff_ne.mpr (equal ▸ apart)
      simp only [List.lookup_cons, missed]
    next => simp only [List.lookup_cons, ih]

theorem replace_self (found : fields.lookup name = some part) : Keyed.replace name part fields = fields := by
  induction fields with
  | nil => cases found
  | cons field rest ih =>
    obtain ⟨other, value⟩ := field
    unfold Keyed.replace
    rw [List.lookup_cons] at found
    by_cases equal : name = other
    · rw [beq_iff_eq.mpr equal] at found
      cases found
      rw [if_pos equal]
    · rw [beq_eq_false_iff_ne.mpr equal] at found
      rw [if_neg equal, ih found]

end Fields

section Part

variable {slot part replacement : Value} {name : String}

theorem setAxis?_of_axis? {v : Vector3} {n : Float} (found : v.axis? name = some n) (m : Float) :
    ∃ changed, v.setAxis? m name = some changed ∧ changed.axis? name = some m ∧
      (∀ other, other ≠ name → changed.axis? other = v.axis? other) ∧ v.setAxis? n name = some v := by
  rcases Vector3.axis?_eq_some_iff.mp found with ⟨rfl, rfl⟩ | ⟨rfl, rfl⟩ | ⟨rfl, rfl⟩
  all_goals
    refine ⟨_, rfl, rfl, fun other apart => ?_, rfl⟩
    unfold Vector3.axis?
    split <;> simp_all

theorem exists_axis {v : Vector3} (found : partOf? (.vector v) name = some part)
    (same : replacement.schema = part.schema) :
    ∃ n m, v.axis? name = some n ∧ part = .number n ∧ replacement = .number m := by
  obtain ⟨n, there, rfl⟩ := Option.map_eq_some_iff.mp found
  refine ⟨n, ?_⟩
  cases replacement with
  | number m => exact ⟨m, there, rfl, rfl⟩
  | integer | text | boolean | vector | record | optional => simp [Value.schema] at same

theorem withPart_schema (found : partOf? slot name = some part) (same : replacement.schema = part.schema) :
    (withPart slot name replacement).schema = slot.schema := by
  cases slot with
  | record fields =>
    rw [withPart, Value.schema, Value.schema, schemas_replace found same]
  | vector v =>
    unfold withPart
    dsimp only
    split <;> rfl
  | number | integer | text | boolean | optional => rfl

theorem partOf?_withPart (found : partOf? slot name = some part)
    (same : replacement.schema = part.schema) :
    partOf? (withPart slot name replacement) name = some replacement := by
  cases slot with
  | record fields => exact lookup_replace found
  | vector v =>
    obtain ⟨n, m, there, rfl, rfl⟩ := exists_axis found same
    obtain ⟨changed, set, read, -, -⟩ := setAxis?_of_axis? there m
    simp only [withPart, Value.asNumber?, Option.bind_some, set, partOf?, read, Option.map_some]
  | number | integer | text | boolean | optional => cases found

theorem partOf?_withPart_other {other : String} (found : partOf? slot name = some part)
    (same : replacement.schema = part.schema) (apart : other ≠ name) :
    partOf? (withPart slot name replacement) other = partOf? slot other := by
  cases slot with
  | record fields => exact lookup_replace_other apart
  | vector v =>
    obtain ⟨n, m, there, rfl, rfl⟩ := exists_axis found same
    obtain ⟨changed, set, -, others, -⟩ := setAxis?_of_axis? there m
    simp only [withPart, Value.asNumber?, Option.bind_some, set, partOf?, others other apart]
  | number | integer | text | boolean | optional => cases found

theorem withPart_self (found : partOf? slot name = some part) : withPart slot name part = slot := by
  cases slot with
  | record fields => exact congrArg Value.record (replace_self found)
  | vector v =>
    obtain ⟨n, _, there, rfl, -⟩ := exists_axis found rfl
    obtain ⟨-, -, -, -, kept⟩ := setAxis?_of_axis? there n
    simp only [withPart, Value.asNumber?, Option.bind_some, kept]
  | number | integer | text | boolean | optional => cases found

end Part

/-! ### Readings along a path -/

section Reading

variable {slot later part : Value} {name : String} {path : List String}

theorem fieldOf_ok_iff : fieldOf slot name = .ok part ↔ partOf? slot name = some part := by
  unfold fieldOf
  cases partOf? slot name <;> simp

theorem readPath_cons (found : partOf? slot name = some part) :
    readPath slot (name :: path) = readPath part path := by
  rw [readPath, fieldOf_ok_iff.mpr found]
  rfl

theorem readPath_cons_none (missing : partOf? slot name = none) :
    readPath slot (name :: path) = .error (.unknownField name slot.schema) := by
  rw [readPath, fieldOf, missing]
  rfl

theorem readPath_congr (schema : later.schema = slot.schema) (same : partOf? later name = partOf? slot name) :
    readPath later (name :: path) = readPath slot (name :: path) := by
  rw [readPath, readPath, fieldOf, fieldOf, same, schema]

end Reading

/-! ### Assignments along a path -/

section Assigning

variable {target : String} {value slot part : Value} {name : String} {path : List String}

theorem assignPath_nil (target : String) (value slot : Value) :
    assignPath target value [] slot = match coerce target value slot.schema with
      | .ok assigned => (.ok (), assigned)
      | .error fault => (.error fault, slot) := rfl

theorem assignPath_cons_none (missing : partOf? slot name = none) :
    assignPath target value (name :: path) slot = (.error (.unknownField name slot.schema), slot) := by
  cases slot with
  | record fields =>
    have absent : fields.lookup name = none := missing
    simp only [assignPath, absent]
  | vector v =>
    have absent : v.axis? name = none := Option.map_eq_none_iff.mp missing
    simp [assignPath, absent]
  | number | integer | text | boolean | optional => rfl

/-- An assignment to a part of a part succeeds as it does there, and leaves there what it leaves there. The
reasons of failures differ, since an axis is looked at together with the path behind it. -/
theorem assignPath_cons (target : String) (value : Value) (path : List String)
    (found : partOf? slot name = some part) :
    ((assignPath target value (name :: path) slot).1 = .ok () ↔
        (assignPath target value path part).1 = .ok ()) ∧
      (assignPath target value (name :: path) slot).2 =
        withPart slot name (assignPath target value path part).2 := by
  cases slot with
  | record fields =>
    have present : fields.lookup name = some part := found
    simp only [assignPath, present, withPart, and_self]
  | vector v =>
    have kept := withPart_self found
    obtain ⟨n, _, there, rfl, -⟩ := exists_axis found rfl
    cases path with
    | nil =>
      cases value with
      | number m =>
        obtain ⟨changed, set, -⟩ := setAxis?_of_axis? there m
        simp [assignPath, there, set, coerce, Value.asNumber?, Value.schema, withPart]
      | integer | text | boolean | vector | record | optional =>
        simp [assignPath, there, coerce, Value.asNumber?, Value.schema, kept]
    | cons next path => simp [assignPath, kept]
  | number | integer | text | boolean | optional => cases found

theorem assignPath_schema (target : String) (value : Value) (path : List String) (slot : Value) :
    (assignPath target value path slot).2.schema = slot.schema := by
  induction path generalizing slot with
  | nil =>
    rw [assignPath_nil]
    split
    next coerced => exact coerce_schema coerced
    next => rfl
  | cons name path ih =>
    cases found : partOf? slot name with
    | none => rw [assignPath_cons_none found]
    | some part =>
      rw [(assignPath_cons target value path found).2]
      exact withPart_schema found (ih part)

/-- An assignment that fails puts back every part that it took up. -/
theorem assignPath_failed (failed : (assignPath target value path slot).1 ≠ .ok ()) :
    (assignPath target value path slot).2 = slot := by
  induction path generalizing slot with
  | nil =>
    rw [assignPath_nil] at failed ⊢
    split at failed
    · exact absurd rfl failed
    · rfl
  | cons name path ih =>
    cases found : partOf? slot name with
    | none => rw [assignPath_cons_none found]
    | some part =>
      have inner := mt (assignPath_cons target value path found).1.mpr failed
      rw [(assignPath_cons target value path found).2, ih inner, withPart_self found]

/-- An assignment succeeds where its path leads to a place for the value. -/
theorem assignPath_ok_iff : (assignPath target value path slot).1 = .ok () ↔
    ∃ part, readPath slot path = .ok part ∧
      (value.schema = part.schema ∨ part.schema = .optional value.schema) := by
  induction path generalizing slot with
  | nil =>
    rw [assignPath_nil]
    simp only [readPath, Except.ok.injEq, exists_eq_left']
    constructor
    · intro succeeded
      split at succeeded
      · next coerced => exact (coerce_ok_iff.mp coerced).imp And.left And.left
      · cases succeeded
    · intro fits
      have coerced : ∃ assigned, coerce target value slot.schema = .ok assigned := by
        rcases fits with same | wrapped
        · exact ⟨value, coerce_ok_iff.mpr (.inl ⟨same, rfl⟩)⟩
        · exact ⟨_, coerce_ok_iff.mpr (.inr ⟨wrapped, rfl⟩)⟩
      obtain ⟨assigned, coerced⟩ := coerced
      rw [coerced]
  | cons name path ih =>
    cases found : partOf? slot name with
    | none =>
      rw [assignPath_cons_none found, readPath_cons_none found]
      simp
    | some part => rw [(assignPath_cons target value path found).1, ih, readPath_cons found]

/-- What a place reads after an assignment: the value itself, or an optional that it fills. -/
theorem readPath_assigned (succeeded : (assignPath target value path slot).1 = .ok ())
    (held : readPath slot path = .ok part) :
    ∃ assigned, coerce target value part.schema = .ok assigned ∧
      readPath (assignPath target value path slot).2 path = .ok assigned := by
  induction path generalizing slot with
  | nil =>
    cases held
    rw [assignPath_nil] at succeeded ⊢
    split at succeeded
    · next assigned coerced => exact ⟨assigned, coerced, rfl⟩
    · cases succeeded
  | cons name path ih =>
    cases found : partOf? slot name with
    | none =>
      rw [readPath_cons_none found] at held
      cases held
    | some inner =>
      rw [readPath_cons found] at held
      obtain ⟨assigned, coerced, read⟩ := ih ((assignPath_cons target value path found).1.mp succeeded) held
      have there := partOf?_withPart found (assignPath_schema target value path inner)
      rw [(assignPath_cons target value path found).2, readPath_cons there]
      exact ⟨assigned, coerced, read⟩

/-- Apart from the assigned place and what lies inside it or around it, everything is read as before. -/
theorem readPath_apart {other : List String} (outside : ¬ other <+: path) (beside : ¬ path <+: other) :
    readPath (assignPath target value path slot).2 other = readPath slot other := by
  induction path generalizing slot other with
  | nil => exact absurd List.nil_prefix beside
  | cons name path ih =>
    cases other with
    | nil => exact absurd List.nil_prefix outside
    | cons next rest =>
      cases found : partOf? slot name with
      | none => rw [assignPath_cons_none found]
      | some part =>
        have schema := assignPath_schema target value path part
        rw [(assignPath_cons target value path found).2]
        by_cases same : next = name
        · rw [same, List.cons_prefix_cons] at outside beside
          simp only [true_and] at outside beside
          rw [same, readPath_cons (partOf?_withPart found schema), readPath_cons found]
          exact ih outside beside
        · exact readPath_congr (withPart_schema found schema) (partOf?_withPart_other found schema same)

/-- An assignment of what is read there already changes nothing. -/
theorem assignPath_self (target : String) (held : readPath slot path = .ok part) :
    assignPath target part path slot = (.ok (), slot) := by
  induction path generalizing slot with
  | nil =>
    cases held
    rw [assignPath_nil, coerce_ok_iff.mpr (.inl ⟨rfl, rfl⟩)]
  | cons name path ih =>
    cases found : partOf? slot name with
    | none =>
      rw [readPath_cons_none found] at held
      cases held
    | some inner =>
      have same := ih ((readPath_cons found).symm.trans held)
      obtain ⟨succeeds, left⟩ := assignPath_cons target part path found
      rw [same] at succeeds left
      exact Prod.ext (succeeds.mpr rfl) (left.trans (withPart_self found))

/-- The running interpreter makes a new value of a slot, the one that an assignment in place leaves. -/
theorem setPath_eq (target : String) (value : Value) (path : List String) (slot : Value) :
    setPath target value path slot =
      (assignPath target value path slot).1.map (fun _ => (assignPath target value path slot).2) := by
  induction path generalizing slot with
  | nil =>
    rw [assignPath_nil, setPath]
    cases coerce target value slot.schema <;> rfl
  | cons name path ih =>
    cases slot with
    | record fields =>
      simp only [setPath, assignPath]
      cases fields.lookup name with
      | none => rfl
      | some part =>
        simp only [ih]
        cases (assignPath target value path part).1 <;> rfl
    | vector v =>
      simp only [setPath, assignPath]
      split
      · cases value.asNumber? with
        | none => rfl
        | some n =>
          dsimp only
          cases v.setAxis? n name <;> rfl
      · rfl
    | number | integer | text | boolean | optional => rfl

end Assigning

/-- Assignments and readings along paths are a lens on values. -/
theorem assignPath_lens (target : String) (value slot : Value) (path : List String) :
    let outcome := (assignPath target value path slot).1
    let later := (assignPath target value path slot).2
    later.schema = slot.schema ∧
    (outcome = .ok () ↔ ∃ part, readPath slot path = .ok part ∧
      (value.schema = part.schema ∨ part.schema = .optional value.schema)) ∧
    (outcome = .ok () →
      (∀ part, readPath slot path = .ok part →
        (value.schema = part.schema → readPath later path = .ok value) ∧
        (part.schema = .optional value.schema → readPath later path = .ok (.filled value))) ∧
      ∀ other, ¬ other <+: path → ¬ path <+: other → readPath later other = readPath slot other) ∧
    (outcome ≠ .ok () → later = slot) ∧
    (∀ part, readPath slot path = .ok part → assignPath target part path slot = (.ok (), slot)) ∧
    setPath target value path slot = outcome.map (fun _ => later) := by
  intro outcome later
  refine ⟨assignPath_schema target value path slot, assignPath_ok_iff, fun succeeded => ⟨?_, ?_⟩,
    assignPath_failed, fun part => assignPath_self target, setPath_eq target value path slot⟩
  · intro part held
    obtain ⟨assigned, coerced, read⟩ := readPath_assigned succeeded held
    constructor
    · intro same
      rw [coerce_ok_iff.mpr (.inl ⟨same, rfl⟩)] at coerced
      cases coerced
      exact read
    · intro wrapped
      rw [coerce_ok_iff.mpr (.inr ⟨wrapped, rfl⟩)] at coerced
      cases coerced
      exact read
  · exact fun other => readPath_apart

/-- A lamp that is at a place and belongs to nobody is moved along one axis, and given to somebody. What is no
number moves it nowhere. -/
theorem lens_of_lamp :
    let lamp : Value := .record [("owner", .vacant (.basic .text)), ("place", .vector ⟨1.0, 2.0, 3.0⟩)]
    let moved := assignPath "lamp.place.y" (.number 7.0) ["place", "y"] lamp
    let given := assignPath "lamp.owner" (.text "Ada") ["owner"] lamp
    let refused := assignPath "lamp.place.y" (.text "up") ["place", "y"] lamp
    moved.2.schema = lamp.schema ∧ readPath moved.2 ["place", "y"] = .ok (.number 7.0) ∧
      readPath moved.2 ["place", "x"] = readPath lamp ["place", "x"] ∧
      readPath given.2 ["owner"] = .ok (.filled (.text "Ada")) ∧
      refused.1 ≠ .ok () ∧ refused.2 = lamp ∧
      assignPath "lamp.place.y" (.number 2.0) ["place", "y"] lamp = (.ok (), lamp) := by
  intro lamp moved given refused
  have there : readPath lamp ["place", "y"] = .ok (.number 2.0) := rfl
  have numbers (n m : Float) : (Value.number n).schema = (Value.number m).schema := rfl
  have owned : readPath lamp ["owner"] = .ok (.vacant (.basic .text)) := rfl
  obtain ⟨kept, moves, after, -, same, -⟩ :=
    assignPath_lens "lamp.place.y" (.number 7.0) lamp ["place", "y"]
  obtain ⟨-, gives, afterGiven, -⟩ := assignPath_lens "lamp.owner" (.text "Ada") lamp ["owner"]
  obtain ⟨-, accepts, -, failed, -⟩ := assignPath_lens "lamp.place.y" (.text "up") lamp ["place", "y"]
  obtain ⟨reads, others⟩ := after (moves.mpr ⟨_, there, .inl (numbers 7.0 2.0)⟩)
  obtain ⟨fills, -⟩ := afterGiven (gives.mpr ⟨_, owned, .inr rfl⟩)
  have unfit : refused.1 ≠ .ok () := by
    intro succeeded
    obtain ⟨part, read, fits⟩ := accepts.mp succeeded
    cases there.symm.trans read
    simp [Value.schema] at fits
  refine ⟨kept, (reads _ there).1 (numbers 7.0 2.0), others ["place", "x"] ?_ ?_, (fills _ owned).2 rfl,
    unfit, failed unfit, same _ there⟩
  · decide
  · decide

end Script

end Stagecraft
