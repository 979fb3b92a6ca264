import Stagecraft.Value.Interchange
import Stagecraft.Proofs.Entries
import Stagecraft.Proofs.Steps

/-!
Interchange: what comes back of a value that was written as a document and read against its schema.
The document of a filled optional is that of its content, so an empty optional inside a filled one is
null, which reads as the outer one being empty. Everything else comes back as it was.
-/

namespace Stagecraft

namespace Schema

def isOptional : Schema → Bool
  | .optional _ => true
  | _ => false

mutual

/-- No optional is the content of an optional. -/
def Plain : Schema → Prop
  | .basic _ => True
  | .record fields => PlainFields fields
  | .optional inner => inner.isOptional = false ∧ Plain inner
termination_by structural schema => schema

def PlainFields : List (String × Schema) → Prop
  | [] => True
  | (_, schema) :: rest => Plain schema ∧ PlainFields rest
termination_by structural fields => fields

end

end Schema

namespace Value

mutual

/-- Every number in the value, the axes of vectors included, has a document. -/
def Finite : Value → Prop
  | .number n => n.isFinite = true
  | .integer _ | .text _ | .boolean _ => True
  | .vector v => v.x.isFinite = true ∧ v.y.isFinite = true ∧ v.z.isFinite = true
  | .record fields => FieldsFinite fields
  | .optional _ (some value) => Finite value
  | .optional _ none => True
termination_by structural value => value

def FieldsFinite : List (String × Value) → Prop
  | [] => True
  | (_, value) :: rest => Finite value ∧ FieldsFinite rest
termination_by structural fields => fields

end

def isVacant : Value → Bool
  | .optional _ none => true
  | _ => false

/-- The value is an optional that holds nothing, or nothing but such a value. -/
def isBlank : Value → Bool
  | .number _ | .integer _ | .text _ | .boolean _ | .vector _ | .record _ => false
  | .optional _ (some value) => isBlank value
  | .optional _ none => true
termination_by structural value => value

mutual

/-- No filled optional, at any depth, holds an empty one. -/
def Whole : Value → Prop
  | .number _ | .integer _ | .text _ | .boolean _ | .vector _ => True
  | .record fields => FieldsWhole fields
  | .optional _ (some value) => value.isVacant = false ∧ Whole value
  | .optional _ none => True
termination_by structural value => value

def FieldsWhole : List (String × Value) → Prop
  | [] => True
  | (_, value) :: rest => Whole value ∧ FieldsWhole rest
termination_by structural fields => fields

end

mutual

/-- The value with every optional emptied whose content is blank. -/
def restored : Value → Value
  | .number n => .number n
  | .integer i => .integer i
  | .text s => .text s
  | .boolean b => .boolean b
  | .vector v => .vector v
  | .record fields => .record (restoredFields fields)
  | .optional inner (some value) =>
    if value.isBlank then .vacant inner else .optional inner (some (restored value))
  | .optional inner none => .vacant inner
termination_by structural value => value

def restoredFields : List (String × Value) → List (String × Value)
  | [] => []
  | (name, value) :: rest => (name, restored value) :: restoredFields rest
termination_by structural fields => fields

end

/-! ### Fitting values -/

mutual

theorem schema_of_fits : (value : Value) → {schema : Schema} → value.Fits schema →
    value.schema = schema
  | .number _, _, fits | .integer _, _, fits | .text _, _, fits | .boolean _, _, fits
  | .vector _, _, fits =>
    by rw [Fits] at fits; rw [schema, fits]
  | .record fields, .record schemas, fits => by
    rw [Fits] at fits
    rw [schema, schemas_of_fit fields fits]
  | .record _, .basic _, fits => by simp [Fits] at fits
  | .record _, .optional _, fits => by simp [Fits] at fits
  | .optional _ (some _), _, fits => by rw [Fits] at fits; rw [schema, fits.1]
  | .optional _ none, _, fits => by rw [Fits] at fits; rw [schema, fits]

theorem schemas_of_fit : (fields : List (String × Value)) → {expected : List (String × Schema)} →
    FieldsFit fields expected → schemas fields = expected
  | [], _, fit => by rw [FieldsFit] at fit; rw [schemas, fit]
  | _ :: _, [], fit => by simp [FieldsFit] at fit
  | (name, value) :: rest, _ :: _, fit => by
    rw [FieldsFit] at fit
    rw [schemas, fit.1, schema_of_fits value fit.2.1, schemas_of_fit rest fit.2.2]

end

theorem names_of_fit {fields : List (String × Value)} {expected : List (String × Schema)}
    (fit : FieldsFit fields expected) : expected.map Prod.fst = fields.map Prod.fst := by
  rw [← schemas_of_fit fields fit]
  clear fit
  induction fields with
  | nil => rfl
  | cons field rest ih => rw [schemas, List.map_cons, List.map_cons, ih]

mutual

theorem whole_of_plain : (value : Value) → {schema : Schema} → schema.Plain → value.Fits schema →
    value.Whole
  | .number _, _, _, _ | .integer _, _, _, _ | .text _, _, _, _ | .boolean _, _, _, _
  | .vector _, _, _, _ =>
    by rw [Whole]; trivial
  | .record fields, .record _, plain, fits => by
    rw [Schema.Plain] at plain
    rw [Fits] at fits
    rw [Whole]
    exact fieldsWhole_of_plain fields plain fits
  | .record _, .basic _, _, fits => by simp [Fits] at fits
  | .record _, .optional _, _, fits => by simp [Fits] at fits
  | .optional inner (some value), _, plain, fits => by
    rw [Fits] at fits
    obtain ⟨rfl, fits⟩ := fits
    rw [Schema.Plain] at plain
    rw [Whole]
    refine ⟨?_, whole_of_plain value plain.2 fits⟩
    rw [← schema_of_fits value fits] at plain
    unfold isVacant
    split
    · simp [schema, Schema.isOptional] at plain
    · rfl
  | .optional _ none, _, _, _ => by rw [Whole]; trivial

theorem fieldsWhole_of_plain : (fields : List (String × Value)) →
    {schemas : List (String × Schema)} → Schema.PlainFields schemas → FieldsFit fields schemas →
    FieldsWhole fields
  | [], _, _, _ => by rw [FieldsWhole]; trivial
  | _ :: _, [], _, fit => by simp [FieldsFit] at fit
  | (_, value) :: rest, _ :: _, plain, fit => by
    rw [Schema.PlainFields] at plain
    rw [FieldsFit] at fit
    rw [FieldsWhole]
    exact ⟨whole_of_plain value plain.1 fit.2.1, fieldsWhole_of_plain rest plain.2 fit.2.2⟩

end

/-! ### Writing -/

theorem encodeNumber_ok_iff (n : Float) (json : Json) :
    encodeNumber n = .ok json ↔ n.isFinite = true ∧ json = .number n := by
  unfold encodeNumber
  split
  · next finite => simp [finite, eq_comm]
  · next infinite => simp [infinite]

mutual

theorem exists_encode_iff : (value : Value) → ((∃ json, value.encode = .ok json) ↔ value.Finite)
  | .number n => by simp [encode, Finite, encodeNumber_ok_iff]
  | .integer _ | .text _ | .boolean _ => by simp [encode, Finite]
  | .vector v => by
    rw [encode, Finite]
    constructor
    · rintro ⟨json, encoded⟩
      obtain ⟨x, first, encoded⟩ := bind_ok encoded
      obtain ⟨y, second, encoded⟩ := bind_ok encoded
      obtain ⟨z, third, -⟩ := bind_ok encoded
      exact ⟨((encodeNumber_ok_iff _ _).mp first).1, ((encodeNumber_ok_iff _ _).mp second).1,
        ((encodeNumber_ok_iff _ _).mp third).1⟩
    · rintro ⟨first, second, third⟩
      refine ⟨.array [.number v.x, .number v.y, .number v.z], ?_⟩
      rw [(encodeNumber_ok_iff _ _).mpr ⟨first, rfl⟩, (encodeNumber_ok_iff _ _).mpr ⟨second, rfl⟩,
        (encodeNumber_ok_iff _ _).mpr ⟨third, rfl⟩]
      rfl
  | .record fields => by
    rw [encode, Finite, ← exists_encodeFields_iff fields]
    constructor
    · rintro ⟨json, encoded⟩
      obtain ⟨entries, encoded, -⟩ := bind_ok encoded
      exact ⟨entries, encoded⟩
    · rintro ⟨entries, encoded⟩
      exact ⟨.object entries, by rw [encoded]; rfl⟩
  | .optional _ (some value) => by rw [encode, Finite, exists_encode_iff value]
  | .optional _ none => by simp [encode, Finite]

theorem exists_encodeFields_iff : (fields : List (String × Value)) →
    ((∃ entries, encodeFields fields = .ok entries) ↔ FieldsFinite fields)
  | [] => by simp [encodeFields, FieldsFinite]
  | (name, value) :: rest => by
    rw [encodeFields, FieldsFinite, ← exists_encode_iff value, ← exists_encodeFields_iff rest]
    constructor
    · rintro ⟨all, encoded⟩
      obtain ⟨json, first, encoded⟩ := bind_ok encoded
      obtain ⟨entries, others, -⟩ := bind_ok encoded
      exact ⟨⟨json, first⟩, ⟨entries, others⟩⟩
    · rintro ⟨⟨json, first⟩, ⟨entries, others⟩⟩
      exact ⟨(name, json) :: entries, by rw [first, others]; rfl⟩

end

/-- Null is the document of blank values, and of no others. -/
theorem encode_eq_null_iff : (value : Value) → (value.encode = .ok .null ↔ value.isBlank = true)
  | .number n => by simp [encode, isBlank, encodeNumber_ok_iff]
  | .integer _ | .text _ | .boolean _ => by simp [encode, isBlank]
  | .vector v => by
    rw [encode, isBlank]
    refine ⟨fun encoded => ?_, nofun⟩
    obtain ⟨x, -, encoded⟩ := bind_ok encoded
    obtain ⟨y, -, encoded⟩ := bind_ok encoded
    obtain ⟨z, -, encoded⟩ := bind_ok encoded
    cases encoded
  | .record fields => by
    rw [encode, isBlank]
    refine ⟨fun encoded => ?_, nofun⟩
    obtain ⟨entries, -, encoded⟩ := bind_ok encoded
    cases encoded
  | .optional _ (some value) => by rw [encode, isBlank, encode_eq_null_iff value]
  | .optional _ none => by simp [encode, isBlank]

theorem names_encodeFields {fields : List (String × Value)} {entries : List (String × Json)}
    (encoded : encodeFields fields = .ok entries) :
    entries.map Prod.fst = fields.map Prod.fst := by
  induction fields generalizing entries with
  | nil =>
    rw [encodeFields] at encoded
    cases encoded
    rfl
  | cons field rest ih =>
    rw [encodeFields] at encoded
    obtain ⟨json, -, encoded⟩ := bind_ok encoded
    obtain ⟨others, found, encoded⟩ := bind_ok encoded
    cases encoded
    rw [List.map_cons, List.map_cons, ih found]

/-! ### What comes back -/

mutual

theorem encode_restored : (value : Value) → value.restored.encode = value.encode
  | .number _ | .integer _ | .text _ | .boolean _ | .vector _ => by rw [restored]
  | .record fields => by rw [restored, encode, encode, encode_restoredFields fields]
  | .optional _ (some value) => by
    rw [restored, encode]
    split
    next blank => rw [vacant, encode, (encode_eq_null_iff value).mpr blank]
    next => rw [encode, encode_restored value]
  | .optional _ none => by rw [restored, vacant]

theorem encode_restoredFields : (fields : List (String × Value)) →
    encodeFields (restoredFields fields) = encodeFields fields
  | [] => by rw [restoredFields]
  | (_, value) :: rest => by
    rw [restoredFields, encodeFields, encodeFields, encode_restored value,
      encode_restoredFields rest]

end

mutual

theorem fits_restored : (value : Value) → {schema : Schema} → value.Fits schema →
    value.restored.Fits schema
  | .number _, _, fits | .integer _, _, fits | .text _, _, fits | .boolean _, _, fits
  | .vector _, _, fits =>
    by rwa [restored]
  | .record fields, .record _, fits => by
    rw [Fits] at fits
    rw [restored, Fits]
    exact fit_restoredFields fields fits
  | .record _, .basic _, fits => by simp [Fits] at fits
  | .record _, .optional _, fits => by simp [Fits] at fits
  | .optional _ (some value), _, fits => by
    rw [Fits] at fits
    rw [restored]
    split
    next => rw [vacant, Fits, fits.1]
    next =>
      rw [Fits]
      exact ⟨fits.1, fits_restored value fits.2⟩
  | .optional _ none, _, fits => by rwa [restored, vacant]

theorem fit_restoredFields : (fields : List (String × Value)) →
    {schemas : List (String × Schema)} → FieldsFit fields schemas →
    FieldsFit (restoredFields fields) schemas
  | [], _, fit => by rwa [restoredFields]
  | _ :: _, [], fit => by simp [FieldsFit] at fit
  | (_, value) :: rest, _ :: _, fit => by
    rw [FieldsFit] at fit
    rw [restoredFields, FieldsFit]
    exact ⟨fit.1, fits_restored value fit.2.1, fit_restoredFields rest fit.2.2⟩

end

/-- A blank value that holds no empty optional is an empty optional itself. -/
theorem isVacant_of_isBlank : (value : Value) → value.Whole → value.isBlank = true →
    value.isVacant = true
  | .number _, _, blank | .integer _, _, blank | .text _, _, blank | .boolean _, _, blank
  | .vector _, _, blank | .record _, _, blank => by simp [isBlank] at blank
  | .optional _ (some value), whole, blank => by
    rw [Whole] at whole
    rw [isBlank] at blank
    have vacant := isVacant_of_isBlank value whole.2 blank
    rw [whole.1] at vacant
    cases vacant
  | .optional _ none, _, _ => rfl

theorem isBlank_of_isVacant {value : Value} (vacant : value.isVacant = true) :
    value.isBlank = true := by
  unfold isVacant at vacant
  split at vacant
  · rw [isBlank]
  · cases vacant

mutual

theorem restored_eq_iff : (value : Value) → (value.restored = value ↔ value.Whole)
  | .number _ | .integer _ | .text _ | .boolean _ | .vector _ => by simp [restored, Whole]
  | .record fields => by rw [restored, Whole, Value.record.injEq, restoredFields_eq_iff fields]
  | .optional inner (some value) => by
    rw [restored, Whole]
    split
    next blank =>
      refine ⟨nofun, fun ⟨full, whole⟩ => ?_⟩
      rw [isVacant_of_isBlank value whole blank] at full
      cases full
    next filled =>
      have full : value.isVacant = false :=
        Bool.eq_false_iff.mpr (fun vacant => filled (isBlank_of_isVacant vacant))
      simp only [Value.optional.injEq, Option.some.injEq, true_and, restored_eq_iff value, full]
  | .optional _ none => by simp [restored, vacant, Whole]

theorem restoredFields_eq_iff : (fields : List (String × Value)) →
    (restoredFields fields = fields ↔ FieldsWhole fields)
  | [] => by simp [restoredFields, FieldsWhole]
  | (name, value) :: rest => by
    rw [restoredFields, FieldsWhole, ← restored_eq_iff value, ← restoredFields_eq_iff rest]
    simp

end

/-! ### Reading -/

theorem asInteger?_toInt (i : Int64) : Json.asInteger? (.integer i.toInt) = some i := by
  have inside : Json.leastInteger ≤ i.toInt ∧ i.toInt < Json.signedBound :=
    ⟨Int64.le_toInt i, Int64.toInt_lt i⟩
  rw [Json.asInteger?, if_pos inside, Int64.ofInt_toInt]

theorem decodeAs_optional (inner : Schema) {json : Json} (filled : json ≠ .null) :
    decodeAs (.optional inner) json =
      (decodeAs inner json >>= fun value => return .optional inner (some value)) := by
  cases json with
  | null => exact absurd rfl filled
  | _ => simp only [decodeAs]

theorem decodeFieldsAs_cons {name : String} {schema : Schema} {rest : List (String × Schema)}
    {entries : List (String × Json)} {json : Json} (found : entries.lookup name = some json) :
    decodeFieldsAs ((name, schema) :: rest) entries = (do
      let value ← decodeAs schema json
      let fields ← decodeFieldsAs rest entries
      return (name, value) :: fields) := by
  simp only [decodeFieldsAs, found]

theorem decodeAs_record {schemas : List (String × Schema)} {entries : List (String × Json)}
    (known : ∀ entry ∈ entries, entry.1 ∈ schemas.map Prod.fst) :
    decodeAs (.record schemas) (.object entries) =
      (decodeFieldsAs schemas entries >>= fun fields => return .record fields) := by
  have none : entries.find? (fun entry => (schemas.lookup entry.1).isNone) = none := by
    rw [List.find?_eq_none]
    intro entry member
    have found := Keyed.lookup_isSome_iff.mpr (known entry member)
    rw [Option.isSome_iff_ne_none] at found
    simpa using found
  rw [decodeAs, none]

mutual

/-- What a document reads as is what its value was, up to optionals of blank content. -/
theorem decodeAs_encode : (value : Value) → {schema : Schema} → {json : Json} → schema.Ordered →
    value.Fits schema → value.encode = .ok json → decodeAs schema json = .ok value.restored
  | .number n, _, _, _, fits, encoded => by
    rw [Fits] at fits
    rw [encode, encodeNumber_ok_iff] at encoded
    rw [fits, encoded.2, restored]
    simp [decodeAs, decodeBasic, Json.asNumber?]
  | .integer i, _, _, _, fits, encoded => by
    rw [Fits] at fits
    rw [encode] at encoded
    cases encoded
    rw [fits, restored, decodeAs, decodeBasic]
    simp only [asInteger?_toInt]
  | .text _, _, _, _, fits, encoded | .boolean _, _, _, _, fits, encoded => by
    rw [Fits] at fits
    rw [encode] at encoded
    cases encoded
    rw [fits, restored, decodeAs, decodeBasic]
  | .vector v, _, _, _, fits, encoded => by
    rw [Fits] at fits
    rw [encode] at encoded
    obtain ⟨x, first, encoded⟩ := bind_ok encoded
    obtain ⟨y, second, encoded⟩ := bind_ok encoded
    obtain ⟨z, third, encoded⟩ := bind_ok encoded
    cases encoded
    rw [encodeNumber_ok_iff] at first second third
    rw [fits, first.2, second.2, third.2, restored]
    rfl
  | .record fields, .record schemas, _, ordered, fits, encoded => by
    rw [Schema.Ordered] at ordered
    rw [Fits] at fits
    rw [encode] at encoded
    obtain ⟨entries, written, encoded⟩ := bind_ok encoded
    cases encoded
    have names : entries.map Prod.fst = schemas.map Prod.fst :=
      (names_encodeFields written).trans (names_of_fit fits).symm
    have distinct : (entries.map Prod.fst).Nodup := by
      rw [names]
      exact Keyed.Sorted.distinct ordered.1
    rw [decodeAs_record (fun entry member => names ▸ List.mem_map_of_mem member),
      decodeFieldsAs_encodeFields fields ordered.2 fits written
        (fun entry member => (Keyed.lookup_eq_some_iff distinct).mpr member), restored]
    rfl
  | .record _, .basic _, _, _, fits, _ => by simp [Fits] at fits
  | .record _, .optional _, _, _, fits, _ => by simp [Fits] at fits
  | .optional inner (some value), _, json, ordered, fits, encoded => by
    rw [Fits] at fits
    obtain ⟨rfl, fits⟩ := fits
    rw [Schema.Ordered] at ordered
    rw [encode] at encoded
    rw [restored]
    split
    next blank =>
      rw [(encode_eq_null_iff value).mpr blank] at encoded
      cases encoded
      rw [decodeAs]
    next filled =>
      have notNull : json ≠ .null := by
        rintro rfl
        exact filled ((encode_eq_null_iff value).mp encoded)
      rw [decodeAs_optional inner notNull, decodeAs_encode value ordered fits encoded]
      rfl
  | .optional _ none, _, _, _, fits, encoded => by
    rw [Fits] at fits
    rw [encode] at encoded
    cases encoded
    rw [fits, restored, decodeAs]

theorem decodeFieldsAs_encodeFields : (fields : List (String × Value)) →
    {schemas : List (String × Schema)} → {entries all : List (String × Json)} →
    Schema.OrderedFields schemas → FieldsFit fields schemas →
    encodeFields fields = .ok entries →
    (∀ entry ∈ entries, all.lookup entry.1 = some entry.2) →
    decodeFieldsAs schemas all = .ok (restoredFields fields)
  | [], _, _, _, _, fit, _, _ => by
    rw [FieldsFit] at fit
    rw [fit, decodeFieldsAs, restoredFields]
  | _ :: _, [], _, _, _, fit, _, _ => by simp [FieldsFit] at fit
  | (name, value) :: rest, _ :: _, _, _, ordered, fit, encoded, found => by
    rw [Schema.OrderedFields] at ordered
    rw [FieldsFit] at fit
    rw [encodeFields] at encoded
    obtain ⟨json, first, encoded⟩ := bind_ok encoded
    obtain ⟨others, second, encoded⟩ := bind_ok encoded
    cases encoded
    have here := found (name, json) List.mem_cons_self
    have behind := decodeFieldsAs_encodeFields rest ordered.2 fit.2.2 second
      (fun entry member => found entry (List.mem_cons_of_mem _ member))
    rw [decodeFieldsAs_cons (fit.1 ▸ here), decodeAs_encode value ordered.1 fit.2.1 first, behind,
      restoredFields, fit.1]
    rfl

end

/-- A finite value has a document, which reads as the value exactly if no filled optional in it holds an
empty one. -/
theorem reads_back_iff_whole {schema : Schema} {value : Value} (ordered : schema.Ordered)
    (fits : value.Fits schema) (finite : value.Finite) :
    ∃ json, value.encode = .ok json ∧ (decodeAs schema json = .ok value ↔ value.Whole) := by
  obtain ⟨json, encoded⟩ := (exists_encode_iff value).mpr finite
  refine ⟨json, encoded, ?_⟩
  rw [decodeAs_encode value ordered fits encoded, Except.ok.injEq, restored_eq_iff]

/-- A record with an empty optional, next to one that is filled. -/
theorem letter_reads_back_iff_whole :
    let schema := Schema.record
      [("sender", .optional (.basic .text)), ("stamps", .optional (.basic .integer))]
    let letter := Value.record
      [("sender", .vacant (.basic .text)), ("stamps", .filled (.integer 2))]
    (schema.Ordered ∧ letter.Fits schema ∧ letter.Finite) ∧
      ∃ json, letter.encode = .ok json ∧ (decodeAs schema json = .ok letter ↔ letter.Whole) := by
  intro schema letter
  have ordered : schema.Ordered := by
    have less : "sender" < "stamps" := by decide
    simp only [schema, Schema.Ordered, Schema.OrderedFields, and_true]
    exact List.pairwise_pair.mpr less
  have fits : letter.Fits schema := by
    simp [schema, letter, Fits, FieldsFit, vacant, filled, Value.schema]
  have finite : letter.Finite := by
    simp [letter, Finite, FieldsFinite, vacant, filled]
  exact ⟨⟨ordered, fits, finite⟩, reads_back_iff_whole ordered fits finite⟩

/-- An empty optional in a filled one is lost: what comes back is empty outside. -/
theorem nested_vacant_is_lost :
    let schema := Schema.optional (.optional (.basic .text))
    let value := Value.filled (.vacant (.basic .text))
    schema.Ordered ∧ value.Fits schema ∧ value.Finite ∧ value.encode = .ok .null ∧
      decodeAs schema .null = .ok (.vacant (.optional (.basic .text))) ∧
      decodeAs schema .null ≠ .ok value := by
  simp [Schema.Ordered, filled, vacant, schema, Fits, Finite, encode, decodeAs]

end Value

end Stagecraft
