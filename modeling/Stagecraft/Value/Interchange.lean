import Stagecraft.Value
import Stagecraft.Json.Writer

/-!
Values as documents. A vector is an array of three numbers, a record an object, a filled optional
the document of its content and an empty one null. Decoding without a schema takes every number
with a fraction or exponent for a number and every other for an integer, and knows no optionals;
decoding against a schema restores them.
-/

namespace Stagecraft

inductive Undecodable where
  | untypedNull
  | integerRange (i : Int)
  | vectorLength (count : Nat)
  | vectorComponent (item : Json)
  | unexpected (expected : Schema) (found : Json)
  | unknownField (name : String) (schema : Schema)
  | missingField (name : String)
deriving DecidableEq

inductive DataFault where
  | decode (reason : Undecodable)
  | nonFinite (n : Float)
  | mismatch (m : Mismatch)
deriving DecidableEq

namespace Undecodable

def message : Undecodable → String
  | untypedNull => "null has no type without a schema"
  | integerRange i => "integer " ++ toString i ++ " out of range"
  | vectorLength count =>
    "expected an array of 3 numbers, found " ++ toString count ++ " elements"
  | vectorComponent item => "vector component " ++ item.compact ++ " is not a number"
  | unexpected expected found => "expected " ++ expected.render ++ ", found " ++ found.compact
  | unknownField name schema => "unknown field `" ++ name ++ "` for " ++ schema.render
  | missingField name => "missing field `" ++ name ++ "`"

end Undecodable

namespace DataFault

def message : DataFault → String
  | decode reason => "cannot decode value: " ++ reason.message
  | nonFinite n => "cannot encode non-finite number " ++ Decimal.Layout.plain.write n
  | mismatch m => m.message

end DataFault

namespace Value

def encodeNumber (n : Float) : Except DataFault Json :=
  if n.isFinite then .ok (.number n) else .error (.nonFinite n)

mutual

/-- The document of a value. The first number without a document refuses the whole. -/
def encode : Value → Except DataFault Json
  | .number n => encodeNumber n
  | .integer i => .ok (.integer i.toInt)
  | .text s => .ok (.text s)
  | .boolean b => .ok (.boolean b)
  | .vector v => do
    let x ← encodeNumber v.x
    let y ← encodeNumber v.y
    let z ← encodeNumber v.z
    return .array [x, y, z]
  | .record fields => do
    let entries ← encodeFields fields
    return .object entries
  | .optional _ (some value) => encode value
  | .optional _ none => .ok .null
termination_by structural value => value

def encodeFields : List (String × Value) → Except DataFault (List (String × Json))
  | [] => .ok []
  | (name, value) :: rest => do
    let json ← encode value
    let entries ← encodeFields rest
    return (name, json) :: entries
termination_by structural fields => fields

end

def decodeComponent (item : Json) : Except DataFault Float :=
  match item.asNumber? with
  | some n => .ok n
  | none => .error (.decode (.vectorComponent item))

def decodeVector : List Json → Except DataFault Vector3
  | [x, y, z] => do
    let x ← decodeComponent x
    let y ← decodeComponent y
    let z ← decodeComponent z
    return ⟨x, y, z⟩
  | items => .error (.decode (.vectorLength items.length))

mutual

def decode : Json → Except DataFault Value
  | .null => .error (.decode .untypedNull)
  | .boolean b => .ok (.boolean b)
  | .text s => .ok (.text s)
  | .number n => .ok (.number n)
  | .integer i =>
    match Json.asInteger? (.integer i) with
    | some i => .ok (.integer i)
    | none => .error (.decode (.integerRange i))
  | .array items => do
    let v ← decodeVector items
    return .vector v
  | .object entries => do
    let fields ← decodeEntries entries
    return .record fields
termination_by structural json => json

def decodeEntries : List (String × Json) → Except DataFault (List (String × Value))
  | [] => .ok []
  | (name, json) :: rest => do
    let value ← decode json
    let fields ← decodeEntries rest
    return (name, value) :: fields
termination_by structural entries => entries

end

def decodeBasic (kind : Basic) (json : Json) : Except DataFault Value :=
  let refused : Except DataFault Value := .error (.decode (.unexpected (.basic kind) json))
  match kind, json with
  | .number, json =>
    match json.asNumber? with
    | some n => .ok (.number n)
    | none => refused
  | .integer, json =>
    match json.asInteger? with
    | some i => .ok (.integer i)
    | none => refused
  | .text, .text s => .ok (.text s)
  | .boolean, .boolean b => .ok (.boolean b)
  | .vector, .array items => do
    let v ← decodeVector items
    return .vector v
  | _, _ => refused

mutual

/-- The value of a document that a schema prescribes. Null, or a missing entry, stands for an empty
optional; an entry that the schema does not name is refused before any field is read. -/
def decodeAs : Schema → Json → Except DataFault Value
  | .basic kind, json => decodeBasic kind json
  | .optional inner, json =>
    match json with
    | .null => .ok (.vacant inner)
    | json => do
      let value ← decodeAs inner json
      return .optional inner (some value)
  | .record schemas, json =>
    match json with
    | .object entries =>
      match entries.find? (fun entry => (schemas.lookup entry.1).isNone) with
      | some extra => .error (.decode (.unknownField extra.1 (.record schemas)))
      | none => do
        let fields ← decodeFieldsAs schemas entries
        return .record fields
    | json => .error (.decode (.unexpected (.record schemas) json))
termination_by structural schema => schema

def decodeFieldsAs :
    List (String × Schema) → List (String × Json) → Except DataFault (List (String × Value))
  | [], _ => .ok []
  | (name, schema) :: rest, entries => do
    let value ← match entries.lookup name with
      | some json => decodeAs schema json
      | none =>
        match schema with
        | .optional inner => .ok (.vacant inner)
        | _ => .error (.decode (.missingField name))
    let fields ← decodeFieldsAs rest entries
    return (name, value) :: fields
termination_by structural schemas => schemas

end

end Value

end Stagecraft
