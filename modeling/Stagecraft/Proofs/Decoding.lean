import Stagecraft.Proofs.Doubles
import Stagecraft.Proofs.Interchange

/-!
Decoding: which documents denote a value. Against a schema these are the documents of its shape, and what is
read from one of them is written and read again without a change. Without a schema there are no optionals; what
is read is what a schema of just this shape would have given, and writing is undone.
-/

namespace Stagecraft

namespace Json

def isNumber : Json → Bool
  | .number _ | .integer _ => true
  | _ => false

mutual

def Finite : Json → Prop
  | .number n => n.isFinite = true
  | .array items => ItemsFinite items
  | .object entries => EntriesFinite entries
  | .null | .boolean _ | .integer _ | .text _ => True
termination_by structural json => json

def ItemsFinite : List Json → Prop
  | [] => True
  | item :: rest => Finite item ∧ ItemsFinite rest
termination_by structural items => items

def EntriesFinite : List (String × Json) → Prop
  | [] => True
  | (_, item) :: rest => Finite item ∧ EntriesFinite rest
termination_by structural entries => entries

end

mutual

def Ordered : Json → Prop
  | .array items => ItemsOrdered items
  | .object entries => entries.Pairwise (fun a b => a.1 < b.1) ∧ EntriesOrdered entries
  | .null | .boolean _ | .integer _ | .number _ | .text _ => True
termination_by structural json => json

def ItemsOrdered : List Json → Prop
  | [] => True
  | item :: rest => Ordered item ∧ ItemsOrdered rest
termination_by structural items => items

def EntriesOrdered : List (String × Json) → Prop
  | [] => True
  | (_, item) :: rest => Ordered item ∧ EntriesOrdered rest
termination_by structural entries => entries

end

theorem entriesOrdered_iff {entries : List (String × Json)} :
    EntriesOrdered entries ↔ ∀ entry ∈ entries, entry.2.Ordered := by
  induction entries with
  | nil => exact iff_of_true trivial nofun
  | cons entry rest ih => rw [List.forall_mem_cons, ← ih, EntriesOrdered]

mutual

/-- Documents are kept in their canonical form, so whoever asks for an ordered one may ask for any. -/
theorem ordered_sorted : (json : Json) → json.sorted.Ordered
  | .null | .boolean _ | .integer _ | .number _ | .text _ => trivial
  | .array items => itemsOrdered_sortedItems items
  | .object entries => by
    refine ⟨Keyed.ofList_sorted _, entriesOrdered_iff.mpr fun entry filed => ?_⟩
    exact entriesOrdered_iff.mp (entriesOrdered_sortedEntries entries) entry
      (Keyed.mem_of_mem_ofList filed)

theorem itemsOrdered_sortedItems : (items : List Json) → ItemsOrdered (sortedItems items)
  | [] => trivial
  | item :: rest => ⟨ordered_sorted item, itemsOrdered_sortedItems rest⟩

theorem entriesOrdered_sortedEntries : (entries : List (String × Json)) →
    EntriesOrdered (sortedEntries entries)
  | [] => trivial
  | (_, item) :: rest => ⟨ordered_sorted item, entriesOrdered_sortedEntries rest⟩

end

/-- The document has the shape that a schema prescribes. -/
inductive Conforms : Schema → Json → Prop
  | number {json : Json} (numeric : json.isNumber = true) : Conforms (.basic .number) json
  | integer (i : Int64) : Conforms (.basic .integer) (.integer i.toInt)
  | text (s : String) : Conforms (.basic .text) (.text s)
  | boolean (b : Bool) : Conforms (.basic .boolean) (.boolean b)
  | vector {x y z : Json} (first : x.isNumber = true) (second : y.isNumber = true)
      (third : z.isNumber = true) : Conforms (.basic .vector) (.array [x, y, z])
  | vacant (inner : Schema) : Conforms (.optional inner) .null
  | filled {inner : Schema} {json : Json} (content : Conforms inner json) : Conforms (.optional inner) json
  | record {schemas : List (String × Schema)} {entries : List (String × Json)}
      (known : ∀ entry ∈ entries, entry.1 ∈ schemas.map Prod.fst)
      (present : ∀ field ∈ schemas, ∀ json, entries.lookup field.1 = some json → Conforms field.2 json)
      (absent : ∀ field ∈ schemas, entries.lookup field.1 = none → field.2.isOptional = true) :
      Conforms (.record schemas) (.object entries)

end Json

namespace Value

open Json (Conforms)

/-! ### Documents of the right shape -/

theorem exists_asNumber?_iff (json : Json) :
    (∃ n, json.asNumber? = some n) ↔ json.isNumber = true := by
  cases json with
  | number n => exact iff_of_true ⟨n, rfl⟩ rfl
  | integer i => exact iff_of_true ⟨_, rfl⟩ rfl
  | _ => exact iff_of_false (fun ⟨_, found⟩ => nomatch found) nofun

theorem asInteger?_eq_some_iff {json : Json} {i : Int64} :
    json.asInteger? = some i ↔ json = .integer i.toInt := by
  constructor
  · intro found
    unfold Json.asInteger? at found
    split at found
    · next n =>
      split at found
      · next inside =>
        cases found
        rw [Int64.toInt_ofInt_of_le inside.1 inside.2]
      · cases found
    · cases found
  · rintro rfl
    exact asInteger?_toInt i

theorem decodeComponent_ok_iff {item : Json} {n : Float} :
    decodeComponent item = .ok n ↔ item.asNumber? = some n := by
  unfold decodeComponent
  cases item.asNumber? with
  | some found => simp
  | none => simp

theorem decodeVector_ok_iff {items : List Json} {v : Vector3} :
    decodeVector items = .ok v ↔ ∃ x y z, items = [x, y, z] ∧ x.asNumber? = some v.x ∧
      y.asNumber? = some v.y ∧ z.asNumber? = some v.z := by
  unfold decodeVector
  split
  · next x y z =>
    constructor
    · intro succeeded
      obtain ⟨a, first, succeeded⟩ := bind_ok succeeded
      obtain ⟨b, second, succeeded⟩ := bind_ok succeeded
      obtain ⟨c, third, succeeded⟩ := bind_ok succeeded
      cases succeeded
      exact ⟨x, y, z, rfl, decodeComponent_ok_iff.mp first, decodeComponent_ok_iff.mp second,
        decodeComponent_ok_iff.mp third⟩
    · rintro ⟨a, b, c, same, first, second, third⟩
      cases same
      rw [decodeComponent_ok_iff.mpr first, decodeComponent_ok_iff.mpr second,
        decodeComponent_ok_iff.mpr third]
      rfl
  · next other =>
    refine iff_of_false nofun ?_
    rintro ⟨x, y, z, same, -⟩
    exact other x y z same

theorem exists_decodeBasic_iff (kind : Basic) (json : Json) :
    (∃ value, decodeBasic kind json = .ok value) ↔ Conforms (.basic kind) json := by
  cases kind with
  | number =>
    constructor
    · rintro ⟨value, read⟩
      unfold decodeBasic at read
      dsimp only at read
      split at read
      · next n found => exact .number ((exists_asNumber?_iff json).mp ⟨n, found⟩)
      · cases read
    · intro conforms
      cases conforms with
      | number numeric =>
        obtain ⟨n, found⟩ := (exists_asNumber?_iff json).mpr numeric
        exact ⟨.number n, by simp only [decodeBasic, found]⟩
  | integer =>
    constructor
    · rintro ⟨value, read⟩
      unfold decodeBasic at read
      dsimp only at read
      split at read
      · next i found =>
        rw [asInteger?_eq_some_iff.mp found]
        exact .integer i
      · cases read
    · intro conforms
      cases conforms with
      | integer i => exact ⟨.integer i, by simp only [decodeBasic, asInteger?_toInt]⟩
  | text =>
    constructor
    · rintro ⟨value, read⟩
      cases json with
      | text s => exact .text s
      | _ => cases read
    · intro conforms
      cases conforms with
      | text s => exact ⟨.text s, rfl⟩
  | boolean =>
    constructor
    · rintro ⟨value, read⟩
      cases json with
      | boolean b => exact .boolean b
      | _ => cases read
    · intro conforms
      cases conforms with
      | boolean b => exact ⟨.boolean b, rfl⟩
  | vector =>
    constructor
    · rintro ⟨value, read⟩
      cases json with
      | array items =>
        obtain ⟨v, found, -⟩ := bind_ok read
        obtain ⟨x, y, z, rfl, first, second, third⟩ := decodeVector_ok_iff.mp found
        exact .vector ((exists_asNumber?_iff x).mp ⟨_, first⟩) ((exists_asNumber?_iff y).mp ⟨_, second⟩)
          ((exists_asNumber?_iff z).mp ⟨_, third⟩)
      | _ => cases read
    · intro conforms
      cases conforms with
      | @vector x y z first second third =>
        obtain ⟨a, first⟩ := (exists_asNumber?_iff x).mpr first
        obtain ⟨b, second⟩ := (exists_asNumber?_iff y).mpr second
        obtain ⟨c, third⟩ := (exists_asNumber?_iff z).mpr third
        have read : decodeVector [x, y, z] = .ok ⟨a, b, c⟩ :=
          decodeVector_ok_iff.mpr ⟨x, y, z, rfl, first, second, third⟩
        exact ⟨.vector ⟨a, b, c⟩, by simp only [decodeBasic, read]; rfl⟩

theorem decodeAs_optional_ok_iff {inner : Schema} {json : Json} {value : Value} :
    decodeAs (.optional inner) json = .ok value ↔
      json = .null ∧ value = .vacant inner ∨
        json ≠ .null ∧ ∃ content, decodeAs inner json = .ok content ∧ value = .optional inner (some content) := by
  by_cases null : json = .null
  · subst null
    simp [decodeAs, eq_comm]
  · rw [decodeAs_optional inner null]
    constructor
    · intro read
      obtain ⟨content, found, read⟩ := bind_ok read
      cases read
      exact .inr ⟨null, content, found, rfl⟩
    · rintro (⟨same, -⟩ | ⟨-, content, found, rfl⟩)
      · exact absurd same null
      · rw [found]
        rfl

theorem decodeAs_record_ok_iff {schemas : List (String × Schema)} {json : Json} {value : Value} :
    decodeAs (.record schemas) json = .ok value ↔
      ∃ entries fields, json = .object entries ∧ (∀ entry ∈ entries, entry.1 ∈ schemas.map Prod.fst) ∧
        decodeFieldsAs schemas entries = .ok fields ∧ value = .record fields := by
  constructor
  · intro read
    cases json with
    | object entries =>
      rw [decodeAs] at read
      split at read
      · cases read
      · next none =>
        obtain ⟨fields, found, read⟩ := bind_ok read
        cases read
        refine ⟨entries, fields, rfl, fun entry member => ?_, found, rfl⟩
        have known := List.find?_eq_none.mp none entry member
        rw [← Keyed.lookup_isSome_iff, Option.isSome_iff_ne_none]
        simpa using known
    | _ => cases read
  · rintro ⟨entries, fields, rfl, known, found, rfl⟩
    rw [decodeAs_record known, found]
    rfl

/-- The value is what a record has in a field: what the entry of the name reads as, or an empty optional where
there is none. -/
def Supplies (entries : List (String × Json)) (field : String × Schema) (value : Value) : Prop :=
  (∃ json, entries.lookup field.1 = some json ∧ decodeAs field.2 json = .ok value) ∨
    entries.lookup field.1 = none ∧ ∃ inner, field.2 = .optional inner ∧ value = .vacant inner

theorem decodeFieldsAs_cons_ok_iff {field : String × Schema} {rest : List (String × Schema)}
    {entries : List (String × Json)} {fields : List (String × Value)} :
    decodeFieldsAs (field :: rest) entries = .ok fields ↔
      ∃ value others, Supplies entries field value ∧ decodeFieldsAs rest entries = .ok others ∧
        fields = (field.1, value) :: others := by
  obtain ⟨name, schema⟩ := field
  constructor
  · intro read
    cases found : entries.lookup name with
    | some json =>
      rw [decodeFieldsAs_cons found] at read
      obtain ⟨value, first, read⟩ := bind_ok read
      obtain ⟨others, second, read⟩ := bind_ok read
      cases read
      exact ⟨value, others, .inl ⟨json, found, first⟩, second, rfl⟩
    | none =>
      cases schema with
      | optional inner =>
        simp only [decodeFieldsAs, found] at read
        obtain ⟨value, first, read⟩ := bind_ok read
        cases first
        obtain ⟨others, second, read⟩ := bind_ok read
        cases read
        exact ⟨.vacant inner, others, .inr ⟨found, inner, rfl, rfl⟩, second, rfl⟩
      | basic kind =>
        simp only [decodeFieldsAs, found] at read
        cases read
      | record fields =>
        simp only [decodeFieldsAs, found] at read
        cases read
  · rintro ⟨value, others, ⟨json, found, first⟩ | ⟨none, inner, same, rfl⟩, second, rfl⟩
    · rw [decodeFieldsAs_cons found, first, second]
      rfl
    · dsimp only at none same
      subst same
      simp only [decodeFieldsAs, none, second]
      rfl

mutual

/-- Exactly the documents of the prescribed shape are read. -/
theorem exists_decodeAs_iff : (schema : Schema) → (json : Json) →
    ((∃ value, decodeAs schema json = .ok value) ↔ Conforms schema json)
  | .basic kind, json => by
    simp only [decodeAs]
    exact exists_decodeBasic_iff kind json
  | .optional inner, json => by
    simp only [decodeAs_optional_ok_iff]
    constructor
    · rintro ⟨value, ⟨rfl, -⟩ | ⟨-, content, read, -⟩⟩
      · exact .vacant inner
      · exact .filled ((exists_decodeAs_iff inner json).mp ⟨content, read⟩)
    · intro conforms
      by_cases null : json = .null
      · exact ⟨_, .inl ⟨null, rfl⟩⟩
      · cases conforms with
        | vacant => exact absurd rfl null
        | filled content =>
          obtain ⟨content, read⟩ := (exists_decodeAs_iff inner json).mpr content
          exact ⟨_, .inr ⟨null, content, read, rfl⟩⟩
  | .record schemas, json => by
    simp only [decodeAs_record_ok_iff]
    constructor
    · rintro ⟨value, entries, fields, rfl, known, read, -⟩
      obtain ⟨present, absent⟩ := (exists_decodeFieldsAs_iff schemas entries).mp ⟨fields, read⟩
      exact .record known present absent
    · intro conforms
      cases conforms with
      | record known present absent =>
        obtain ⟨fields, read⟩ := (exists_decodeFieldsAs_iff schemas _).mpr ⟨present, absent⟩
        exact ⟨_, _, fields, rfl, known, read, rfl⟩

theorem exists_decodeFieldsAs_iff : (schemas : List (String × Schema)) →
    (entries : List (String × Json)) →
    ((∃ fields, decodeFieldsAs schemas entries = .ok fields) ↔
      (∀ field ∈ schemas, ∀ json, entries.lookup field.1 = some json → Conforms field.2 json) ∧
        ∀ field ∈ schemas, entries.lookup field.1 = none → field.2.isOptional = true)
  | [], entries => iff_of_true ⟨[], rfl⟩ ⟨nofun, nofun⟩
  | (name, schema) :: rest, entries => by
    have here : (∃ value, Supplies entries (name, schema) value) ↔
        (∀ json, entries.lookup name = some json → Conforms schema json) ∧
          (entries.lookup name = none → schema.isOptional = true) := by
      unfold Supplies
      cases found : entries.lookup name with
      | some json => simpa using exists_decodeAs_iff schema json
      | none => cases schema <;> simp [Schema.isOptional]
    have behind := exists_decodeFieldsAs_iff rest entries
    simp only [decodeFieldsAs_cons_ok_iff]
    rw [List.forall_mem_cons, List.forall_mem_cons]
    constructor
    · rintro ⟨fields, value, others, supplied, read, -⟩
      obtain ⟨present, absent⟩ := here.mp ⟨value, supplied⟩
      obtain ⟨presentOthers, absentOthers⟩ := behind.mp ⟨others, read⟩
      exact ⟨⟨present, presentOthers⟩, absent, absentOthers⟩
    · rintro ⟨⟨present, presentOthers⟩, absent, absentOthers⟩
      obtain ⟨value, supplied⟩ := here.mpr ⟨present, absent⟩
      obtain ⟨others, read⟩ := behind.mpr ⟨presentOthers, absentOthers⟩
      exact ⟨_, value, others, supplied, read, rfl⟩

end

/-! ### What is read -/

theorem finite_of_lookup {entries : List (String × Json)} (finite : Json.EntriesFinite entries)
    {name : String} {json : Json} (found : entries.lookup name = some json) : json.Finite := by
  induction entries with
  | nil => cases found
  | cons entry rest ih =>
    obtain ⟨other, item⟩ := entry
    rw [Keyed.lookup_cons] at found
    split at found
    · cases found
      exact finite.1
    · exact ih finite.2 found

/-- The double of a finite number is finite, that of an integer always. -/
theorem isFinite_of_asNumber? {json : Json} (finite : json.Finite) {n : Float}
    (found : json.asNumber? = some n) : n.isFinite = true := by
  cases json with
  | number m =>
    cases found
    exact finite
  | integer i =>
    cases found
    exact Doubles.isFinite_nearest i
  | _ => cases found

/-- What is read of a document: all of it is as the schema prescribes, no filled optional holds an empty one,
and a finite document gives a finite value. -/
structure Sound (json : Json) (schema : Schema) (value : Value) : Prop where
  fits : value.Fits schema
  whole : value.Whole
  finite : json.Finite → value.Finite

theorem decodeBasic_sound {kind : Basic} {json : Json} {value : Value}
    (read : decodeBasic kind json = .ok value) : Sound json (.basic kind) value := by
  unfold decodeBasic at read
  dsimp only at read
  split at read
  · split at read
    · next n found =>
      cases read
      exact ⟨rfl, trivial, fun finite => isFinite_of_asNumber? finite found⟩
    · cases read
  · split at read
    · cases read
      exact ⟨rfl, trivial, fun _ => trivial⟩
    · cases read
  · cases read
    exact ⟨rfl, trivial, fun _ => trivial⟩
  · cases read
    exact ⟨rfl, trivial, fun _ => trivial⟩
  · obtain ⟨v, found, read⟩ := bind_ok read
    cases read
    obtain ⟨x, y, z, rfl, first, second, third⟩ := decodeVector_ok_iff.mp found
    refine ⟨rfl, trivial, fun finite => ?_⟩
    obtain ⟨a, b, c, -⟩ := finite
    exact ⟨isFinite_of_asNumber? a first, isFinite_of_asNumber? b second, isFinite_of_asNumber? c third⟩
  · cases read

theorem isVacant_decodeAs {schema : Schema} {json : Json} {value : Value}
    (read : decodeAs schema json = .ok value) (present : json ≠ .null) : value.isVacant = false := by
  cases schema with
  | basic kind =>
    rw [decodeAs] at read
    have fits := (decodeBasic_sound read).fits
    unfold isVacant
    split
    · rw [Fits] at fits
      cases fits
    · rfl
  | record schemas =>
    obtain ⟨entries, fields, -, -, -, rfl⟩ := decodeAs_record_ok_iff.mp read
    rfl
  | optional inner =>
    rcases decodeAs_optional_ok_iff.mp read with ⟨null, -⟩ | ⟨-, content, -, rfl⟩
    · exact absurd null present
    · rfl

mutual

theorem decodeAs_sound : (schema : Schema) → {json : Json} → {value : Value} →
    decodeAs schema json = .ok value → Sound json schema value
  | .basic kind, _, _, read => by
    rw [decodeAs] at read
    exact decodeBasic_sound read
  | .optional inner, _, _, read => by
    rcases decodeAs_optional_ok_iff.mp read with ⟨-, rfl⟩ | ⟨present, content, found, rfl⟩
    · exact ⟨rfl, trivial, fun _ => trivial⟩
    · have sound := decodeAs_sound inner found
      exact ⟨⟨rfl, sound.fits⟩, ⟨isVacant_decodeAs found present, sound.whole⟩, sound.finite⟩
  | .record schemas, _, _, read => by
    obtain ⟨entries, fields, rfl, -, found, rfl⟩ := decodeAs_record_ok_iff.mp read
    obtain ⟨fit, whole, finite⟩ := decodeFieldsAs_sound schemas found
    exact ⟨fit, whole, finite⟩

theorem decodeFieldsAs_sound : (schemas : List (String × Schema)) → {entries : List (String × Json)} →
    {fields : List (String × Value)} → decodeFieldsAs schemas entries = .ok fields →
    FieldsFit fields schemas ∧ FieldsWhole fields ∧ (Json.EntriesFinite entries → FieldsFinite fields)
  | [], _, _, read => by
    rw [decodeFieldsAs] at read
    cases read
    exact ⟨rfl, trivial, fun _ => trivial⟩
  | (name, schema) :: rest, entries, _, read => by
    obtain ⟨value, others, supplied, found, rfl⟩ := decodeFieldsAs_cons_ok_iff.mp read
    have here : value.Fits schema ∧ value.Whole ∧ (Json.EntriesFinite entries → value.Finite) := by
      rcases supplied with ⟨json, stored, first⟩ | ⟨-, inner, same, rfl⟩
      · have sound := decodeAs_sound schema first
        exact ⟨sound.fits, sound.whole, fun finite => sound.finite (finite_of_lookup finite stored)⟩
      · exact ⟨same, trivial, fun _ => trivial⟩
    obtain ⟨fit, whole, finite⟩ := decodeFieldsAs_sound rest found
    exact ⟨⟨rfl, here.1, fit⟩, ⟨here.2.1, whole⟩, fun all => ⟨here.2.2 all, finite all⟩⟩

end

/-- Exactly the documents of the prescribed shape are read; and what is read of one of them passes the check
against the schema, can be written, and is read again from what was written. -/
theorem decodes_iff_conforms {schema : Schema} (ordered : schema.Ordered) {json : Json}
    (finite : json.Finite) :
    ((∃ value, decodeAs schema json = .ok value) ↔ Conforms schema json) ∧
      ∀ value, decodeAs schema json = .ok value →
        value.check schema = .ok () ∧
          ∃ written, value.encode = .ok written ∧ decodeAs schema written = .ok value := by
  refine ⟨exists_decodeAs_iff schema json, fun value read => ?_⟩
  have sound := decodeAs_sound schema read
  obtain ⟨written, encoded⟩ := (exists_encode_iff value).mpr (sound.finite finite)
  refine ⟨(check_ok_iff value schema).mpr (schema_of_fits value sound.fits), written, encoded, ?_⟩
  rw [decodeAs_encode value ordered sound.fits encoded, (restored_eq_iff value).mpr sound.whole]

/-- A record of a place and an optional note, of which the document has a whole number among the axes and no
note. -/
theorem place_decodes_iff_conforms :
    let schema := Schema.record
      [("note", .optional (.basic .text)), ("place", .basic .vector), ("weight", .basic .number)]
    let place := Json.array [.integer 1, .integer (-2), .integer 3]
    let json := Json.object [("place", place), ("weight", .integer 7)]
    (schema.Ordered ∧ json.Finite) ∧ Conforms schema json ∧
      ((∃ value, decodeAs schema json = .ok value) ↔ Conforms schema json) ∧
      ∀ value, decodeAs schema json = .ok value →
        value.check schema = .ok () ∧
          ∃ written, value.encode = .ok written ∧ decodeAs schema written = .ok value := by
  intro schema place json
  have ordered : schema.Ordered := by
    have first : "note" < "place" := by decide
    have second : "note" < "weight" := by decide
    have third : "place" < "weight" := by decide
    refine ⟨.cons ?_ (List.pairwise_pair.mpr third), trivial, trivial, trivial, trivial⟩
    exact List.forall_mem_cons.mpr ⟨first, List.forall_mem_singleton.mpr second⟩
  have finite : json.Finite := by
    simp [json, place, Json.Finite, Json.EntriesFinite, Json.ItemsFinite]
  have conforms : Conforms schema json := by
    let entries := [("place", place), ("weight", Json.integer 7)]
    have note : entries.lookup "note" = none := rfl
    have axes : entries.lookup "place" = some place := rfl
    have weight : entries.lookup "weight" = some (.integer 7) := rfl
    refine .record (by simp) ?_ ?_
    · rw [List.forall_mem_cons, List.forall_mem_cons, List.forall_mem_singleton]
      refine ⟨fun item found => ?_, fun item found => ?_, fun item found => ?_⟩
      · cases note.symm.trans found
      · cases axes.symm.trans found
        exact .vector rfl rfl rfl
      · cases weight.symm.trans found
        exact .number rfl
    · rw [List.forall_mem_cons, List.forall_mem_cons, List.forall_mem_singleton]
      refine ⟨fun _ => rfl, fun found => ?_, fun found => ?_⟩
      · cases axes.symm.trans found
      · cases weight.symm.trans found
  exact ⟨⟨ordered, finite⟩, conforms, decodes_iff_conforms ordered finite⟩

/-! ### Reading without a schema -/

mutual

def Definite : Value → Prop
  | .number _ | .integer _ | .text _ | .boolean _ | .vector _ => True
  | .record fields => FieldsDefinite fields
  | .optional _ _ => False
termination_by structural value => value

def FieldsDefinite : List (String × Value) → Prop
  | [] => True
  | (_, value) :: rest => Definite value ∧ FieldsDefinite rest
termination_by structural fields => fields

end

theorem decode_integer_ok_iff {i : Int} {value : Value} :
    decode (.integer i) = .ok value ↔ ∃ word : Int64, i = word.toInt ∧ value = .integer word := by
  rw [decode]
  constructor
  · intro read
    split at read
    · next word found =>
      cases read
      exact ⟨word, Json.integer.inj (asInteger?_eq_some_iff.mp found), rfl⟩
    · cases read
  · rintro ⟨word, rfl, rfl⟩
    rw [asInteger?_toInt]

theorem decode_array_ok_iff {items : List Json} {value : Value} :
    decode (.array items) = .ok value ↔ ∃ v, decodeVector items = .ok v ∧ value = .vector v := by
  rw [decode]
  constructor
  · intro read
    obtain ⟨v, found, read⟩ := bind_ok read
    cases read
    exact ⟨v, found, rfl⟩
  · rintro ⟨v, found, rfl⟩
    rw [found]
    rfl

theorem decode_object_ok_iff {entries : List (String × Json)} {value : Value} :
    decode (.object entries) = .ok value ↔
      ∃ fields, decodeEntries entries = .ok fields ∧ value = .record fields := by
  rw [decode]
  constructor
  · intro read
    obtain ⟨fields, found, read⟩ := bind_ok read
    cases read
    exact ⟨fields, found, rfl⟩
  · rintro ⟨fields, found, rfl⟩
    rw [found]
    rfl

theorem decodeEntries_cons_ok_iff {entry : String × Json} {rest : List (String × Json)}
    {fields : List (String × Value)} :
    decodeEntries (entry :: rest) = .ok fields ↔ ∃ value others, decode entry.2 = .ok value ∧
      decodeEntries rest = .ok others ∧ fields = (entry.1, value) :: others := by
  rw [decodeEntries]
  constructor
  · intro read
    obtain ⟨value, first, read⟩ := bind_ok read
    obtain ⟨others, second, read⟩ := bind_ok read
    cases read
    exact ⟨value, others, first, second, rfl⟩
  · rintro ⟨value, others, first, second, rfl⟩
    rw [first, second]
    rfl

theorem decode_eq_number_iff {json : Json} {n : Float} :
    decode json = .ok (.number n) ↔ json = .number n := by
  cases json with
  | number m => simp [decode]
  | integer i => simp [decode_integer_ok_iff]
  | array items => simp [decode_array_ok_iff]
  | object entries => simp [decode_object_ok_iff]
  | _ => simp [decode]

theorem decode_eq_integer_iff {json : Json} {i : Int64} :
    decode json = .ok (.integer i) ↔ json = .integer i.toInt := by
  cases json with
  | integer j => simp [decode_integer_ok_iff]
  | array items => simp [decode_array_ok_iff]
  | object entries => simp [decode_object_ok_iff]
  | _ => simp [decode]

mutual

/-- What is read has no optionals, and is as finite as the document. -/
theorem definite_of_decode : (json : Json) → {value : Value} → decode json = .ok value →
    value.Definite ∧ (json.Finite → value.Finite)
  | .null, _, read => nomatch read
  | .boolean _, _, read | .text _, _, read => by
    cases read
    exact ⟨trivial, fun _ => trivial⟩
  | .number _, _, read => by
    cases read
    exact ⟨trivial, id⟩
  | .integer _, _, read => by
    obtain ⟨word, -, rfl⟩ := decode_integer_ok_iff.mp read
    exact ⟨trivial, fun _ => trivial⟩
  | .array _, _, read => by
    obtain ⟨v, found, rfl⟩ := decode_array_ok_iff.mp read
    obtain ⟨x, y, z, rfl, first, second, third⟩ := decodeVector_ok_iff.mp found
    exact ⟨trivial, fun ⟨a, b, c, _⟩ => ⟨isFinite_of_asNumber? a first,
      isFinite_of_asNumber? b second, isFinite_of_asNumber? c third⟩⟩
  | .object entries, _, read => by
    obtain ⟨fields, found, rfl⟩ := decode_object_ok_iff.mp read
    exact definite_of_decodeEntries entries found

theorem definite_of_decodeEntries : (entries : List (String × Json)) →
    {fields : List (String × Value)} → decodeEntries entries = .ok fields →
    FieldsDefinite fields ∧ (Json.EntriesFinite entries → FieldsFinite fields)
  | [], _, read => by
    cases read
    exact ⟨trivial, id⟩
  | (name, json) :: rest, _, read => by
    obtain ⟨value, others, first, second, rfl⟩ := decodeEntries_cons_ok_iff.mp read
    obtain ⟨definite, finite⟩ := definite_of_decode json first
    obtain ⟨definiteOthers, finiteOthers⟩ := definite_of_decodeEntries rest second
    exact ⟨⟨definite, definiteOthers⟩, fun all => ⟨finite all.1, finiteOthers all.2⟩⟩

end

mutual

/-- Without optionals, what was written is read as it was. -/
theorem decode_encode : (value : Value) → {json : Json} → value.Definite → value.encode = .ok json →
    decode json = .ok value
  | .number n, _, _, encoded => by
    rw [encode, encodeNumber_ok_iff] at encoded
    exact decode_eq_number_iff.mpr encoded.2
  | .integer i, _, _, encoded => by
    cases encoded
    exact decode_eq_integer_iff.mpr rfl
  | .text _, _, _, encoded | .boolean _, _, _, encoded => by
    cases encoded
    rfl
  | .vector v, _, _, encoded => by
    rw [encode] at encoded
    obtain ⟨x, first, encoded⟩ := bind_ok encoded
    obtain ⟨y, second, encoded⟩ := bind_ok encoded
    obtain ⟨z, third, encoded⟩ := bind_ok encoded
    cases encoded
    rw [encodeNumber_ok_iff] at first second third
    rw [first.2, second.2, third.2]
    rfl
  | .record fields, _, definite, encoded => by
    rw [encode] at encoded
    obtain ⟨entries, written, encoded⟩ := bind_ok encoded
    cases encoded
    exact decode_object_ok_iff.mpr ⟨fields, decodeEntries_encodeFields fields definite written, rfl⟩
  | .optional _ _, _, definite, _ => definite.elim

theorem decodeEntries_encodeFields : (fields : List (String × Value)) →
    {entries : List (String × Json)} → FieldsDefinite fields → encodeFields fields = .ok entries →
    decodeEntries entries = .ok fields
  | [], _, _, encoded => by
    cases encoded
    rfl
  | (name, value) :: rest, _, definite, encoded => by
    rw [encodeFields] at encoded
    obtain ⟨json, first, encoded⟩ := bind_ok encoded
    obtain ⟨others, second, encoded⟩ := bind_ok encoded
    cases encoded
    exact decodeEntries_cons_ok_iff.mpr ⟨value, rest, decode_encode value definite.1 first,
      decodeEntries_encodeFields rest definite.2 second, rfl⟩

end

theorem names_decodeEntries : (entries : List (String × Json)) → {fields : List (String × Value)} →
    decodeEntries entries = .ok fields →
    (schemas fields).map Prod.fst = entries.map Prod.fst
  | [], _, read => by
    cases read
    rfl
  | (name, json) :: rest, _, read => by
    obtain ⟨value, others, -, second, rfl⟩ := decodeEntries_cons_ok_iff.mp read
    rw [schemas, List.map_cons, List.map_cons, names_decodeEntries rest second]

mutual

/-- What was read without a schema, its own schema reads from the same document. -/
theorem decodeAs_of_decode : (json : Json) → {value : Value} → json.Ordered → decode json = .ok value →
    decodeAs value.schema json = .ok value
  | .null, _, _, read => nomatch read
  | .boolean _, _, _, read | .text _, _, _, read | .number _, _, _, read => by
    cases read
    rfl
  | .integer _, _, _, read => by
    obtain ⟨word, rfl, rfl⟩ := decode_integer_ok_iff.mp read
    rw [schema, decodeAs, decodeBasic]
    simp only [asInteger?_toInt]
  | .array items, _, _, read => by
    obtain ⟨v, found, rfl⟩ := decode_array_ok_iff.mp read
    rw [schema, decodeAs, decodeBasic]
    simp only [found]
    rfl
  | .object entries, _, ordered, read => by
    obtain ⟨fields, found, rfl⟩ := decode_object_ok_iff.mp read
    have names := names_decodeEntries entries found
    have distinct : (entries.map Prod.fst).Nodup := Keyed.Sorted.distinct ordered.1
    rw [schema, decodeAs_record (fun entry member => names ▸ List.mem_map_of_mem member),
      decodeFieldsAs_of_decodeEntries entries ordered.2 found
        (fun entry member => (Keyed.lookup_eq_some_iff distinct).mpr member)]
    rfl

theorem decodeFieldsAs_of_decodeEntries : (entries : List (String × Json)) →
    {all : List (String × Json)} → {fields : List (String × Value)} →
    Json.EntriesOrdered entries → decodeEntries entries = .ok fields →
    (∀ entry ∈ entries, all.lookup entry.1 = some entry.2) →
    decodeFieldsAs (schemas fields) all = .ok fields
  | [], _, _, _, read, _ => by
    cases read
    rfl
  | (name, json) :: rest, all, _, ordered, read, stored => by
    obtain ⟨value, others, first, second, rfl⟩ := decodeEntries_cons_ok_iff.mp read
    have here : all.lookup name = some json := stored (name, json) List.mem_cons_self
    rw [schemas, decodeFieldsAs_cons here, decodeAs_of_decode json ordered.1 first,
      decodeFieldsAs_of_decodeEntries rest ordered.2 second
        (fun entry member => stored entry (List.mem_cons_of_mem _ member))]
    rfl

end

/-- What a document is read as without a schema, its own schema reads from it as well, and it is read again
from what it is written as; every value without optionals comes back from its document, and has one if it is
finite. Numbers and integers stay apart. -/
theorem decode_inverts_encode :
    (∀ (json : Json) (value : Value), json.Ordered → json.Finite → decode json = .ok value →
      value.Definite ∧ decodeAs value.schema json = .ok value ∧
        ∃ written, value.encode = .ok written ∧ decode written = .ok value) ∧
    (∀ value : Value, value.Definite →
      ((∃ written, value.encode = .ok written) ↔ value.Finite) ∧
        ∀ written, value.encode = .ok written → decode written = .ok value) ∧
    (∀ (json : Json) (n : Float), decode json = .ok (.number n) ↔ json = .number n) ∧
    ∀ (json : Json) (i : Int64), decode json = .ok (.integer i) ↔ json = .integer i.toInt := by
  refine ⟨fun json value ordered finite read => ?_, fun value definite => ?_,
    fun json n => decode_eq_number_iff, fun json i => decode_eq_integer_iff⟩
  · obtain ⟨definite, whole⟩ := definite_of_decode json read
    obtain ⟨written, encoded⟩ := (exists_encode_iff value).mpr (whole finite)
    exact ⟨definite, decodeAs_of_decode json ordered read, written, encoded,
      decode_encode value definite encoded⟩
  · exact ⟨exists_encode_iff value, fun written encoded => decode_encode value definite encoded⟩

/-- An integer stays one beside a place with a whole number among its axes, which becomes a double. -/
theorem crate_decode_inverts_encode :
    let json := Json.object
      [("count", .integer 3), ("place", .array [.integer 1, .integer (-2), .integer 4])]
    (json.Ordered ∧ json.Finite) ∧
      ∃ value, decode json = .ok value ∧ value.Definite ∧ decodeAs value.schema json = .ok value ∧
        (∃ written, value.encode = .ok written ∧ decode written = .ok value) ∧
        ((∃ written, value.encode = .ok written) ↔ value.Finite) := by
  intro json
  have ordered : json.Ordered := by
    have less : "count" < "place" := by decide
    exact ⟨List.pairwise_pair.mpr less, trivial, ⟨trivial, trivial, trivial, trivial⟩, trivial⟩
  have finite : json.Finite := by
    simp [json, Json.Finite, Json.EntriesFinite, Json.ItemsFinite]
  have read : ∃ value, decode json = .ok value := ⟨_, rfl⟩
  obtain ⟨value, read⟩ := read
  obtain ⟨definite, same, back⟩ := decode_inverts_encode.1 json value ordered finite read
  exact ⟨⟨ordered, finite⟩, value, read, definite, same, back, (decode_inverts_encode.2.1 value definite).1⟩

end Value

end Stagecraft
