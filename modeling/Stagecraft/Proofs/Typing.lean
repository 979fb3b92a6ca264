import Stagecraft.Proofs.Interchange
import Stagecraft.Proofs.Requests
import Stagecraft.Proofs.Safety
import Stagecraft.Proofs.Storage

/-!
Typing: values that have the schemas of their places in all their parts, the contents of optionals included.
Nothing checks this where a value is stored or emitted, since the schema of an optional says nothing about its
content. What a document or a schema gives is typed, and a behavior that writes only typed values leaves
nothing but typed values behind.
-/

namespace Stagecraft

namespace Value

def Typed (value : Value) : Prop := value.Fits value.schema

theorem Fits.typed {value : Value} {schema : Schema} (fits : value.Fits schema) : value.Typed := by
  unfold Typed
  rw [schema_of_fits value fits]
  exact fits

/-! ### Where values come from -/

mutual

/-- The value that a schema starts from has its parts as the schema prescribes. -/
theorem initial_fits : (schema : Schema) → (initial schema).Fits schema
  | .basic kind => by cases kind <;> rfl
  | .record fields => by
    rw [initial, Fits]
    exact initials_fit fields
  | .optional inner => by rw [initial, vacant, Fits]

theorem initials_fit : (fields : List (String × Schema)) → FieldsFit (initials fields) fields
  | [] => by rw [initials, FieldsFit]
  | (name, schema) :: rest => by
    rw [initials, FieldsFit]
    exact ⟨rfl, initial_fits schema, initials_fit rest⟩

end

theorem vacant_fits (inner : Schema) : (vacant inner).Fits (.optional inner) := by
  rw [vacant, Fits]

theorem decodeBasic_fits {kind : Basic} {json : Json} {value : Value}
    (decoded : decodeBasic kind json = .ok value) : value.Fits (.basic kind) := by
  unfold decodeBasic at decoded
  dsimp only at decoded
  split at decoded
  · split at decoded
    · cases decoded
      rw [Fits]
    · cases decoded
  · split at decoded
    · cases decoded
      rw [Fits]
    · cases decoded
  · cases decoded
    rw [Fits]
  · cases decoded
    rw [Fits]
  · obtain ⟨_, -, same⟩ := bind_ok decoded
    cases same
    rw [Fits]
  · cases decoded

mutual

theorem decodeAs_fits : (schema : Schema) → {json : Json} → {value : Value} →
    decodeAs schema json = .ok value → value.Fits schema
  | .basic _, _, _, decoded => decodeBasic_fits decoded
  | .optional inner, json, value, decoded => by
    cases json with
    | null =>
      cases decoded
      exact vacant_fits inner
    | _ =>
      obtain ⟨content, inside, same⟩ := bind_ok decoded
      cases same
      rw [Fits]
      exact ⟨rfl, decodeAs_fits inner inside⟩
  | .record schemas, json, value, decoded => by
    cases json with
    | object entries =>
      unfold decodeAs at decoded
      dsimp only at decoded
      split at decoded
      · cases decoded
      · obtain ⟨fields, inside, same⟩ := bind_ok decoded
        cases same
        rw [Fits]
        exact decodeFieldsAs_fit schemas inside
    | _ => cases decoded

theorem decodeFieldsAs_fit : (schemas : List (String × Schema)) → {entries : List (String × Json)} →
    {fields : List (String × Value)} → decodeFieldsAs schemas entries = .ok fields →
    FieldsFit fields schemas
  | [], _, _, decoded => by
    cases decoded
    rw [FieldsFit]
  | (name, schema) :: rest, entries, fields, decoded => by
    have built {value : Value} (fits : value.Fits schema)
        (others : (do return (name, value) :: (← decodeFieldsAs rest entries)) = Except.ok fields) :
        FieldsFit fields ((name, schema) :: rest) := by
      obtain ⟨behind, remaining, same⟩ := bind_ok others
      cases same
      rw [FieldsFit]
      exact ⟨rfl, fits, decodeFieldsAs_fit rest remaining⟩
    unfold decodeFieldsAs at decoded
    dsimp only at decoded
    split at decoded
    · obtain ⟨value, first, others⟩ := bind_ok decoded
      exact built (decodeAs_fits schema first) others
    · split at decoded
      · exact built (vacant_fits _) decoded
      · cases decoded

end

/-! ### Parts of values -/

theorem typed_number (n : Float) : (number n).Typed := by rw [Typed, schema, Fits]
theorem typed_integer (i : Int64) : (integer i).Typed := by rw [Typed, schema, Fits]
theorem typed_text (s : String) : (text s).Typed := by rw [Typed, schema, Fits]
theorem typed_boolean (b : Bool) : (boolean b).Typed := by rw [Typed, schema, Fits]
theorem typed_vector (v : Vector3) : (vector v).Typed := by rw [Typed, schema, Fits]
theorem typed_empty : empty.Typed := by rw [empty, Typed, schema, Fits, schemas, FieldsFit]

theorem Typed.filled {value : Value} (typed : value.Typed) : (filled value).Typed := by
  rw [Typed, filled_schema, Value.filled, Fits]
  exact ⟨rfl, typed⟩

theorem Typed.of_field {fields : List (String × Value)} (typed : (record fields).Typed) {name : String}
    {part : Value} (found : fields.lookup name = some part) : part.Typed := by
  rw [Typed, schema, Fits] at typed
  induction fields with
  | nil => cases found
  | cons field rest ih =>
    obtain ⟨other, value⟩ := field
    rw [schemas, FieldsFit] at typed
    rw [List.lookup_cons] at found
    split at found
    · cases found
      exact typed.2.1
    · exact ih typed.2.2 found

theorem Typed.replace {fields : List (String × Value)} (typed : (record fields).Typed) {name : String}
    {part replacement : Value} (found : fields.lookup name = some part) (whole : replacement.Typed) :
    (record (Keyed.replace name replacement fields)).Typed := by
  rw [Typed, schema, Fits] at typed ⊢
  induction fields with
  | nil => cases found
  | cons field rest ih =>
    obtain ⟨other, value⟩ := field
    rw [schemas, FieldsFit] at typed
    rw [List.lookup_cons] at found
    unfold Keyed.replace
    by_cases equal : name = other
    · rw [if_pos equal, schemas, FieldsFit]
      exact ⟨rfl, whole, typed.2.2⟩
    · rw [beq_eq_false_iff_ne.mpr equal] at found
      rw [if_neg equal, schemas, FieldsFit]
      exact ⟨rfl, typed.2.1, ih typed.2.2 found⟩

end Value

/-! ### Stores -/

def Store.Typed (store : Store) : Prop :=
  ∀ entity id value component, store.get? entity id = some value →
    store.component? id = some component → value.Fits component.schema

namespace Store.Typed

variable {store : Store}

theorem of_slots (fit : ∀ kind ∈ store.kinds, ∀ column, kind.column = some column →
    ∀ value, some value ∈ column.slots → value.Fits kind.component.schema) : store.Typed := by
  intro entity id value component present known
  obtain ⟨column, opened, held⟩ := Option.bind_eq_some_iff.mp present
  obtain ⟨kind, listed, has⟩ := Option.bind_eq_some_iff.mp opened
  rw [Store.component?, listed] at known
  cases known
  exact fit kind (Array.mem_of_getElem? listed) column has value
    (Array.mem_of_getElem? (Option.join_eq_some_iff.mp held))

theorem value (typed : store.Typed) {entity : Entity} {id : ComponentId} {value : Value}
    (present : store.get? entity id = some value) : value.Typed := by
  obtain ⟨component, known⟩ := component?_of_get? present
  exact (typed entity id value component present known).typed

/-- A value is accepted for its schema alone; a typed one leaves the store typed. -/
theorem set (typed : store.Typed) (entity : Entity) (id : ComponentId) {value : Value}
    (whole : value.Typed) : (store.set entity id value).2.Typed := by
  unfold Store.set
  split
  · exact typed
  · next component known =>
    split
    · split
      · next accepted =>
        intro other kind held found present registered
        rw [component?_write] at registered
        rw [get?_write] at present
        split at present
        · next same =>
          obtain ⟨_, -, equal⟩ := Option.bind_eq_some_iff.mp present
          cases equal
          rw [same.2, registered] at known
          cases known
          rw [← (component.accept_ok_iff value).mp accepted]
          exact whole
        · exact typed other kind held found present registered
      · exact typed
    · exact typed

end Store.Typed

/-! ### Behaviors -/

namespace Behavior

variable {ε δ α β : Type}

/-- Begun with typed values in the store, a behavior has typed values there all along, however it ends; and a
result that it ends with is as described. -/
structure KeepsTyped (post : α → Prop) (behavior : Behavior ε α) : Prop where
  along : ∀ {situation}, situation.view.store.Typed →
    ∀ passed ∈ behavior.situations situation, passed.view.store.Typed
  ends : ∀ {situation result}, situation.view.store.Typed →
    (behavior.run situation).1 = .ok result → post result

namespace KeepsTyped

variable {post : α → Prop}

theorem leaves {behavior : Behavior ε α} (keeps : behavior.KeepsTyped post) {situation : Situation}
    (typed : situation.view.store.Typed) : (behavior.run situation).2.view.store.Typed :=
  keeps.along typed _ (behavior.run_mem_situations situation)

theorem pure {result : α} (satisfied : post result) :
    (Pure.pure result : Behavior ε α).KeepsTyped post where
  along typed := List.forall_mem_singleton.mpr typed
  ends := by
    rintro _ _ _ ⟨⟩
    exact satisfied

theorem fail (reason : ε) : (Behavior.fail reason : Behavior ε α).KeepsTyped post where
  along typed := List.forall_mem_singleton.mpr typed
  ends := by rintro _ _ _ ⟨⟩

theorem bind {behavior : Behavior ε α} {next : α → Behavior ε β} {middle : α → Prop} {final : β → Prop}
    (first : behavior.KeepsTyped middle) (second : ∀ result, middle result → (next result).KeepsTyped final) :
    (behavior >>= next).KeepsTyped final := by
  have between {situation later : Situation} {result : α} (typed : situation.view.store.Typed)
      (ran : behavior.run situation = (.ok result, later)) :
      (next result).KeepsTyped final ∧ later.view.store.Typed := by
    have left := first.leaves typed
    rw [ran] at left
    exact ⟨second result (first.ends typed (congrArg Prod.fst ran)), left⟩
  constructor
  · intro situation typed passed member
    rcases mem_situations_bind member with here | ⟨result, later, ran, behind⟩
    · exact first.along typed passed here
    · obtain ⟨keeps, left⟩ := between typed ran
      exact keeps.along left passed behind
  · intro situation result typed ended
    change ((behavior.bind next).run situation).1 = _ at ended
    rw [run_bind] at ended
    split at ended
    · next ran =>
      obtain ⟨keeps, left⟩ := between typed ran
      exact keeps.ends left ended
    · cases ended

theorem ofExcept {attempt : Except ε α} (succeeded : ∀ value, attempt = .ok value → post value) :
    (Behavior.ofExcept attempt).KeepsTyped post := by
  cases attempt with
  | ok value => exact pure (succeeded value rfl)
  | error reason => exact fail reason

theorem mapM {act : α → Behavior ε β} (each : ∀ member, (act member).KeepsTyped (fun _ => True))
    (members : List α) : (members.mapM act).KeepsTyped (fun _ => True) := by
  induction members with
  | nil => exact .pure trivial
  | cons member rest ih =>
    rw [List.mapM_cons]
    exact .bind (each member) (fun _ _ => .bind ih (fun _ _ => .pure trivial))

theorem mapReason {behavior : Behavior ε α} (keeps : behavior.KeepsTyped post) (change : ε → δ) :
    (behavior.mapReason change).KeepsTyped post where
  along typed := by
    rw [situations_mapReason]
    exact keeps.along typed
  ends typed ended := by
    rw [run_mapReason] at ended
    exact keeps.ends typed (mapError_ok ended)

theorem ask (request : Request) {post : request.Answer → Prop}
    (left : ∀ situation : Situation, situation.view.store.Typed →
      (situation.answer request).2.view.store.Typed)
    (answered : ∀ situation : Situation, situation.view.store.Typed → post (situation.answer request).1) :
    (Behavior.ask request .done : Behavior ε request.Answer).KeepsTyped post where
  along typed := List.forall_mem_cons.mpr ⟨typed, List.forall_mem_singleton.mpr (left _ typed)⟩
  ends := by
    rintro situation _ typed ⟨⟩
    exact answered situation typed

end KeepsTyped

theorem componentId_keepsTyped (name : String) :
    (componentId name : Behavior ε (Option ComponentId)).KeepsTyped (fun _ => True) :=
  .ask (.componentId name) (fun _ typed => typed) (fun _ _ => trivial)

theorem matching_keepsTyped (ids : List ComponentId) :
    (matching ids : Behavior ε (List Entity)).KeepsTyped (fun _ => True) :=
  .ask (.matching ids) (fun _ typed => typed) (fun _ _ => trivial)

theorem output_keepsTyped (line : Output) :
    (output line : Behavior ε Unit).KeepsTyped (fun _ => True) :=
  .ask (.output line) (fun _ typed => typed) (fun _ _ => trivial)

theorem step_keepsTyped : (step : Behavior ε Unit).KeepsTyped (fun _ => True) :=
  .ask (.step) (fun _ typed => typed) (fun _ _ => trivial)

theorem value_keepsTyped (entity : Entity) (id : ComponentId) :
    (value entity id : Behavior ε (Option Value)).KeepsTyped
      (fun answer => ∀ value, answer = some value → value.Typed) := by
  refine .ask (.value entity id) (fun _ typed => typed) (fun situation typed value present => ?_)
  change (if id ∈ situation.view.components then _ else none) = some value at present
  split at present
  · exact typed.value present
  · cases present

theorem write_keepsTyped (entity : Entity) (id : ComponentId) {value : Value} (whole : value.Typed) :
    (write entity id value : Behavior ε (Except Fault Unit)).KeepsTyped (fun _ => True) := by
  refine .ask (.write entity id value) ?_ (fun _ _ => trivial)
  rintro ⟨⟨store, roster, components⟩, output⟩ typed
  change (View.set ⟨store, roster, components⟩ entity id value).2.store.Typed
  by_cases inside : id ∈ components
  · rw [View.set, if_pos inside]
    exact typed.set entity id whole
  · rw [View.set, if_neg inside]
    exact typed

end Behavior

end Stagecraft
