/-!
Schemas: the shapes that values have. A record schema lists its fields in strictly increasing order
of their names, so two records with the same fields have equal schemas.
-/

namespace Stagecraft

inductive Basic where
  | number
  | integer
  | text
  | boolean
  | vector
deriving DecidableEq, Repr, Inhabited

namespace Basic

def name : Basic → String
  | .number => "Number"
  | .integer => "Integer"
  | .text => "String"
  | .boolean => "Boolean"
  | .vector => "Vector3"

def ofName? : String → Option Basic
  | "Number" => some .number
  | "Integer" => some .integer
  | "String" => some .text
  | "Boolean" => some .boolean
  | "Vector3" => some .vector
  | "Vec3" => some .vector
  | _ => none

end Basic

inductive Schema where
  | basic (kind : Basic)
  | record (fields : List (String × Schema))
  | optional (inner : Schema)
deriving Repr, Inhabited

namespace Schema

def empty : Schema := .record []

mutual

def decEq : (a b : Schema) → Decidable (a = b)
  | .basic a, .basic b => if h : a = b then isTrue (h ▸ rfl) else isFalse (fun e => h (Schema.basic.inj e))
  | .record a, .record b =>
    match decEqFields a b with
    | isTrue h => isTrue (h ▸ rfl)
    | isFalse h => isFalse (fun e => h (Schema.record.inj e))
  | .optional a, .optional b =>
    match decEq a b with
    | isTrue h => isTrue (h ▸ rfl)
    | isFalse h => isFalse (fun e => h (Schema.optional.inj e))
  | .basic _, .record _ | .basic _, .optional _ => isFalse nofun
  | .record _, .basic _ | .record _, .optional _ => isFalse nofun
  | .optional _, .basic _ | .optional _, .record _ => isFalse nofun
termination_by structural a => a

def decEqFields : (a b : List (String × Schema)) → Decidable (a = b)
  | [], [] => isTrue rfl
  | (m, a) :: as, (n, b) :: bs =>
    if h : m = n then
      match decEq a b with
      | isTrue ha =>
        match decEqFields as bs with
        | isTrue hs => isTrue (by rw [h, ha, hs])
        | isFalse hs => isFalse (by simp [hs])
      | isFalse ha => isFalse (by simp [ha])
    else isFalse (by simp [h])
  | [], _ :: _ => isFalse nofun
  | _ :: _, [] => isFalse nofun
termination_by structural a => a

end

instance : DecidableEq Schema := decEq

def basic? : Schema → Option Basic
  | .basic kind => some kind
  | _ => none

def field? (schema : Schema) (name : String) : Option Schema :=
  match schema with
  | .record fields => fields.lookup name
  | _ => none

mutual

def render : Schema → String
  | .basic kind => kind.name
  | .record [] => "Record \x7b\x7d"
  | .record (field :: rest) => "Record \x7b" ++ renderFields (field :: rest) ++ " \x7d"
  | .optional inner => "Optional<" ++ render inner ++ ">"
termination_by structural schema => schema

def renderFields : List (String × Schema) → String
  | [] => ""
  | [(name, schema)] => " " ++ name ++ ": " ++ render schema
  | (name, schema) :: rest => " " ++ name ++ ": " ++ render schema ++ "," ++ renderFields rest
termination_by structural fields => fields

end

mutual

def Ordered : Schema → Prop
  | .basic _ => True
  | .record fields => fields.Pairwise (fun a b => a.1 < b.1) ∧ OrderedFields fields
  | .optional inner => Ordered inner
termination_by structural schema => schema

def OrderedFields : List (String × Schema) → Prop
  | [] => True
  | (_, schema) :: rest => Ordered schema ∧ OrderedFields rest
termination_by structural fields => fields

end

end Schema

end Stagecraft
