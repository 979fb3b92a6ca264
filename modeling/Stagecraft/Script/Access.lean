import Stagecraft.Script.Fault

/-!
Access to parts of values: the fields of records and the axes of vectors. Nothing that is assigned
changes the schema of what it is assigned to.
-/

namespace Stagecraft.Script

/-- A value as one of the expected schema. A plain value becomes the content of an optional. -/
def coerce (target : String) (value : Value) (expected : Schema) : Except Fault Value :=
  if value.schema = expected then .ok value
  else match expected with
    | .optional inner =>
      if value.schema = inner then .ok (.filled value)
      else .error (.assignmentType target expected value.schema)
    | _ => .error (.assignmentType target expected value.schema)

def partOf? (value : Value) (name : String) : Option Value :=
  match value with
  | .record fields => fields.lookup name
  | .vector v => (v.axis? name).map .number
  | _ => none

def fieldOf (value : Value) (name : String) : Except Fault Value :=
  match partOf? value name with
  | some part => .ok part
  | none => .error (.unknownField name value.schema)

def readPath (value : Value) : List String → Except Fault Value
  | [] => .ok value
  | name :: path => do readPath (← fieldOf value name) path

def setPath (target : String) (value : Value) : List String → Value → Except Fault Value
  | [], slot => coerce target value slot.schema
  | name :: path, slot =>
    let unknown : Except Fault Value := .error (.unknownField name slot.schema)
    match slot with
    | .record fields =>
      match fields.lookup name with
      | some part => do
        let part ← setPath target value path part
        return .record (Keyed.replace name part fields)
      | none => unknown
    | .vector v =>
      if path.isEmpty && (v.axis? name).isSome then
        match value.asNumber? with
        | some n =>
          match v.setAxis? n name with
          | some v => .ok (.vector v)
          | none => unknown
        | none => .error (.assignmentType target (.basic .number) value.schema)
      else unknown
    | _ => unknown

end Stagecraft.Script
