import Stagecraft.Keyed

/-!
Documents. A number without fraction and exponent is an integer, every other a double; integers lie
between the least signed and the greatest unsigned word of 64 bits. Objects keep their entries in
the order they were written in; `Json.sorted` is the canonical form, in which the last of several
entries of one name counts and names increase strictly.
-/

namespace Stagecraft

inductive Json where
  | null
  | boolean (b : Bool)
  | integer (i : Int)
  | number (n : Float)
  | text (s : String)
  | array (items : List Json)
  | object (entries : List (String × Json))
deriving Inhabited

namespace Json

mutual

def decEq : (a b : Json) → Decidable (a = b)
  | .null, .null => isTrue rfl
  | .boolean a, .boolean b =>
    if h : a = b then isTrue (h ▸ rfl) else isFalse (fun e => h (Json.boolean.inj e))
  | .integer a, .integer b =>
    if h : a = b then isTrue (h ▸ rfl) else isFalse (fun e => h (Json.integer.inj e))
  | .number a, .number b =>
    if h : a = b then isTrue (h ▸ rfl) else isFalse (fun e => h (Json.number.inj e))
  | .text a, .text b =>
    if h : a = b then isTrue (h ▸ rfl) else isFalse (fun e => h (Json.text.inj e))
  | .array a, .array b =>
    match decEqItems a b with
    | isTrue h => isTrue (h ▸ rfl)
    | isFalse h => isFalse (fun e => h (Json.array.inj e))
  | .object a, .object b =>
    match decEqEntries a b with
    | isTrue h => isTrue (h ▸ rfl)
    | isFalse h => isFalse (fun e => h (Json.object.inj e))
  | .null, .boolean _ | .null, .integer _ | .null, .number _ | .null, .text _ | .null, .array _
  | .null, .object _ => isFalse nofun
  | .boolean _, .null | .boolean _, .integer _ | .boolean _, .number _ | .boolean _, .text _
  | .boolean _, .array _ | .boolean _, .object _ => isFalse nofun
  | .integer _, .null | .integer _, .boolean _ | .integer _, .number _ | .integer _, .text _
  | .integer _, .array _ | .integer _, .object _ => isFalse nofun
  | .number _, .null | .number _, .boolean _ | .number _, .integer _ | .number _, .text _
  | .number _, .array _ | .number _, .object _ => isFalse nofun
  | .text _, .null | .text _, .boolean _ | .text _, .integer _ | .text _, .number _
  | .text _, .array _ | .text _, .object _ => isFalse nofun
  | .array _, .null | .array _, .boolean _ | .array _, .integer _ | .array _, .number _
  | .array _, .text _ | .array _, .object _ => isFalse nofun
  | .object _, .null | .object _, .boolean _ | .object _, .integer _ | .object _, .number _
  | .object _, .text _ | .object _, .array _ => isFalse nofun
termination_by structural a => a

def decEqItems : (a b : List Json) → Decidable (a = b)
  | [], [] => isTrue rfl
  | a :: as, b :: bs =>
    match decEq a b with
    | isTrue ha =>
      match decEqItems as bs with
      | isTrue hs => isTrue (by rw [ha, hs])
      | isFalse hs => isFalse (by simp [hs])
    | isFalse ha => isFalse (by simp [ha])
  | [], _ :: _ => isFalse nofun
  | _ :: _, [] => isFalse nofun
termination_by structural a => a

def decEqEntries : (a b : List (String × Json)) → Decidable (a = b)
  | [], [] => isTrue rfl
  | (m, a) :: as, (n, b) :: bs =>
    if h : m = n then
      match decEq a b with
      | isTrue ha =>
        match decEqEntries as bs with
        | isTrue hs => isTrue (by rw [h, ha, hs])
        | isFalse hs => isFalse (by simp [hs])
      | isFalse ha => isFalse (by simp [ha])
    else isFalse (by simp [h])
  | [], _ :: _ => isFalse nofun
  | _ :: _, [] => isFalse nofun
termination_by structural a => a

end

instance : DecidableEq Json := decEq

def leastInteger : Int := -Int.pow 2 63

def signedBound : Int := Int.pow 2 63

mutual

/-- The canonical form: objects sorted by name, the last entry of a name counting. -/
def sorted : Json → Json
  | .array items => .array (sortedItems items)
  | .object entries => .object (Keyed.ofList (sortedEntries entries))
  | other => other
termination_by structural json => json

def sortedItems : List Json → List Json
  | [] => []
  | item :: rest => sorted item :: sortedItems rest
termination_by structural items => items

def sortedEntries : List (String × Json) → List (String × Json)
  | [] => []
  | (name, item) :: rest => (name, sorted item) :: sortedEntries rest
termination_by structural entries => entries

end

/-- The double nearest to an integer of a document, ties going to the even significand. -/
def nearest (i : Int) : Float :=
  let size := i.natAbs.toUInt64.toFloat
  if 0 ≤ i then size else -size

def asNumber? : Json → Option Float
  | .number n => some n
  | .integer i => some (nearest i)
  | _ => none

def asInteger? : Json → Option Int64
  | .integer i => if leastInteger ≤ i ∧ i < signedBound then some (Int64.ofInt i) else none
  | _ => none

end Json

end Stagecraft
