import Stagecraft.Keyed
import Stagecraft.Schema
import Stagecraft.Decimal.Layout

/-!
Values. Numbers and integers are distinct kinds and nothing converts between them unasked. A record
lists its fields in strictly increasing order of their names. An optional carries its inner schema,
so that an empty one still has a schema; what it holds is not part of its schema.
-/

namespace Stagecraft

structure Vector3 where
  x : Float
  y : Float
  z : Float
deriving DecidableEq, Inhabited

namespace Vector3

def zero : Vector3 := ⟨0.0, 0.0, 0.0⟩

def zipWith (f : Float → Float → Float) (a b : Vector3) : Vector3 :=
  ⟨f a.x b.x, f a.y b.y, f a.z b.z⟩

def neg (v : Vector3) : Vector3 := ⟨-v.x, -v.y, -v.z⟩

def agrees (a b : Vector3) : Bool := a.x == b.x && a.y == b.y && a.z == b.z

def axis? (v : Vector3) : String → Option Float
  | "x" => some v.x
  | "y" => some v.y
  | "z" => some v.z
  | _ => none

def setAxis? (v : Vector3) (component : Float) : String → Option Vector3
  | "x" => some { v with x := component }
  | "y" => some { v with y := component }
  | "z" => some { v with z := component }
  | _ => none

end Vector3

inductive Value where
  | number (n : Float)
  | integer (i : Int64)
  | text (s : String)
  | boolean (b : Bool)
  | vector (v : Vector3)
  | record (fields : List (String × Value))
  | optional (inner : Schema) (content : Option Value)
deriving Inhabited

namespace Value

mutual

/-- Equality of representations is decidable; it tells the two zeros apart. -/
def decEq : (a b : Value) → Decidable (a = b)
  | .number a, .number b =>
    if h : a = b then isTrue (h ▸ rfl) else isFalse (fun e => h (Value.number.inj e))
  | .integer a, .integer b =>
    if h : a = b then isTrue (h ▸ rfl) else isFalse (fun e => h (Value.integer.inj e))
  | .text a, .text b =>
    if h : a = b then isTrue (h ▸ rfl) else isFalse (fun e => h (Value.text.inj e))
  | .boolean a, .boolean b =>
    if h : a = b then isTrue (h ▸ rfl) else isFalse (fun e => h (Value.boolean.inj e))
  | .vector a, .vector b =>
    if h : a = b then isTrue (h ▸ rfl) else isFalse (fun e => h (Value.vector.inj e))
  | .record a, .record b =>
    match decEqFields a b with
    | isTrue h => isTrue (h ▸ rfl)
    | isFalse h => isFalse (fun e => h (Value.record.inj e))
  | .optional a (some x), .optional b (some y) =>
    if h : a = b then
      match decEq x y with
      | isTrue same => isTrue (by rw [h, same])
      | isFalse other => isFalse (by simp [other])
    else isFalse (by simp [h])
  | .optional a none, .optional b none =>
    if h : a = b then isTrue (by rw [h]) else isFalse (by simp [h])
  | .optional _ (some _), .optional _ none => isFalse (by simp)
  | .optional _ none, .optional _ (some _) => isFalse (by simp)
  | .number _, .integer _ | .number _, .text _ | .number _, .boolean _ | .number _, .vector _
  | .number _, .record _ | .number _, .optional _ _ => isFalse nofun
  | .integer _, .number _ | .integer _, .text _ | .integer _, .boolean _ | .integer _, .vector _
  | .integer _, .record _ | .integer _, .optional _ _ => isFalse nofun
  | .text _, .number _ | .text _, .integer _ | .text _, .boolean _ | .text _, .vector _
  | .text _, .record _ | .text _, .optional _ _ => isFalse nofun
  | .boolean _, .number _ | .boolean _, .integer _ | .boolean _, .text _ | .boolean _, .vector _
  | .boolean _, .record _ | .boolean _, .optional _ _ => isFalse nofun
  | .vector _, .number _ | .vector _, .integer _ | .vector _, .text _ | .vector _, .boolean _
  | .vector _, .record _ | .vector _, .optional _ _ => isFalse nofun
  | .record _, .number _ | .record _, .integer _ | .record _, .text _ | .record _, .boolean _
  | .record _, .vector _ | .record _, .optional _ _ => isFalse nofun
  | .optional _ _, .number _ | .optional _ _, .integer _ | .optional _ _, .text _
  | .optional _ _, .boolean _ | .optional _ _, .vector _ | .optional _ _, .record _ => isFalse nofun
termination_by structural a => a

def decEqFields : (a b : List (String × Value)) → Decidable (a = b)
  | [], [] => isTrue rfl
  | (m, a) :: as, (n, b) :: bs =>
    if h : m = n then
      match decEq a b with
      | isTrue ha =>
        match decEqFields as bs with
        | isTrue hs => isTrue (by rw [h, ha, hs])
        | isFalse hs => isFalse (by simp [hs])
      | isFalse ha => isFalse (by simp [ha])
    else isFalse (by simp [h])
  | [], _ :: _ => isFalse nofun
  | _ :: _, [] => isFalse nofun
termination_by structural a => a

end

instance : DecidableEq Value := decEq

mutual

/-- The schema of a value. The content of an optional does not count. -/
def schema : Value → Schema
  | .number _ => .basic .number
  | .integer _ => .basic .integer
  | .text _ => .basic .text
  | .boolean _ => .basic .boolean
  | .vector _ => .basic .vector
  | .record fields => .record (schemas fields)
  | .optional inner _ => .optional inner
termination_by structural value => value

def schemas : List (String × Value) → List (String × Schema)
  | [] => []
  | (name, value) :: rest => (name, schema value) :: schemas rest
termination_by structural fields => fields

end

def empty : Value := .record []

def filled (value : Value) : Value := .optional value.schema (some value)

def vacant (inner : Schema) : Value := .optional inner none

def basic? : Value → Option Basic
  | .number _ => some .number
  | .integer _ => some .integer
  | .text _ => some .text
  | .boolean _ => some .boolean
  | .vector _ => some .vector
  | .record _ => none
  | .optional _ _ => none

mutual

/-- The value that a schema starts from: zeros, no text, false, empty optionals. -/
def initial : Schema → Value
  | .basic .number => .number 0.0
  | .basic .integer => .integer 0
  | .basic .text => .text ""
  | .basic .boolean => .boolean false
  | .basic .vector => .vector .zero
  | .record fields => .record (initials fields)
  | .optional inner => .vacant inner
termination_by structural schema => schema

def initials : List (String × Schema) → List (String × Value)
  | [] => []
  | (name, schema) :: rest => (name, initial schema) :: initials rest
termination_by structural fields => fields

end

def asNumber? : Value → Option Float
  | .number n => some n
  | _ => none

def asInteger? : Value → Option Int64
  | .integer i => some i
  | _ => none

def asText? : Value → Option String
  | .text s => some s
  | _ => none

def asBoolean? : Value → Option Bool
  | .boolean b => some b
  | _ => none

def asVector? : Value → Option Vector3
  | .vector v => some v
  | _ => none

def asRecord? : Value → Option (List (String × Value))
  | .record fields => some fields
  | _ => none

def field? (value : Value) (name : String) : Option Value :=
  match value with
  | .record fields => fields.lookup name
  | _ => none

mutual

def render : Value → String
  | .number n => Decimal.Layout.plain.write n
  | .integer i => toString i
  | .text s => s
  | .boolean b => if b then "true" else "false"
  | .vector v =>
    "(" ++ Decimal.Layout.plain.write v.x ++ ", " ++ Decimal.Layout.plain.write v.y ++ ", "
      ++ Decimal.Layout.plain.write v.z ++ ")"
  | .record fields => "\x7b" ++ renderFields fields ++ "\x7d"
  | .optional _ (some value) => render value
  | .optional _ none => "none"
termination_by structural value => value

def renderFields : List (String × Value) → String
  | [] => ""
  | [(name, value)] => name ++ ": " ++ render value
  | (name, value) :: rest => name ++ ": " ++ render value ++ ", " ++ renderFields rest
termination_by structural fields => fields

end

mutual

/-- Equality as the program compares: numbers by value, so a value that is no number differs from
itself and the two zeros are equal. -/
def agrees : Value → Value → Bool
  | .number a, .number b => a == b
  | .integer a, .integer b => a == b
  | .text a, .text b => a == b
  | .boolean a, .boolean b => a == b
  | .vector a, .vector b => a.agrees b
  | .record a, .record b => agreeFields a b
  | .optional a (some x), .optional b (some y) => a = b && agrees x y
  | .optional a none, .optional b none => a = b
  | _, _ => false
termination_by structural value => value

def agreeFields : List (String × Value) → List (String × Value) → Bool
  | [], [] => true
  | (m, a) :: as, (n, b) :: bs => m == n && agrees a b && agreeFields as bs
  | _, _ => false
termination_by structural fields => fields

end

mutual

/-- Every part of the value, the content of every optional included, has the schema that its place
prescribes. -/
def Fits : Value → Schema → Prop
  | .number _, schema => schema = .basic .number
  | .integer _, schema => schema = .basic .integer
  | .text _, schema => schema = .basic .text
  | .boolean _, schema => schema = .basic .boolean
  | .vector _, schema => schema = .basic .vector
  | .record fields, .record schemas => FieldsFit fields schemas
  | .record _, _ => False
  | .optional inner (some value), schema => schema = .optional inner ∧ Fits value inner
  | .optional inner none, schema => schema = .optional inner
termination_by structural value => value

def FieldsFit : List (String × Value) → List (String × Schema) → Prop
  | [], schemas => schemas = []
  | (_, _) :: _, [] => False
  | (m, value) :: rest, (n, schema) :: schemas => m = n ∧ Fits value schema ∧ FieldsFit rest schemas
termination_by structural fields => fields

end

theorem filled_schema (value : Value) : (filled value).schema = .optional value.schema := by
  simp [filled, schema]

end Value

structure Mismatch where
  expected : Schema
  found : Schema
deriving DecidableEq

namespace Mismatch

def message (m : Mismatch) : String :=
  "type mismatch: expected " ++ m.expected.render ++ ", found " ++ m.found.render

end Mismatch

def Value.check (value : Value) (expected : Schema) : Except Mismatch Unit :=
  if value.schema = expected then .ok () else .error ⟨expected, value.schema⟩

theorem Value.check_ok_iff (value : Value) (expected : Schema) :
    value.check expected = .ok () ↔ value.schema = expected := by
  unfold check
  split <;> simp_all

end Stagecraft
