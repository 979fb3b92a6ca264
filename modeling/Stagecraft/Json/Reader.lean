import Stagecraft.Json
import Stagecraft.Json.Form
import Stagecraft.Decimal.Numeral

/-!
Reading documents: what written documents denote. Objects keep all their entries in the order of the
text. A numeral with a fraction or an exponent is not read exactly: its first digits that fit a word
of 64 bits are scaled by a power of ten, rounding at each step, and what overflows is refused. A
document of known fields is read field by field, and other entries of it are not read at all.
-/

namespace Stagecraft.Json

def nestingLimit : Nat := 127

namespace Numeral

open Decimal.Numeral (digit value)

/-- Extend `word` by leading digits as long as it fits 64 bits; the digits left over come second. -/
def takeWord : (word : Nat) → List Char → Nat × List Char
  | word, [] => (word, [])
  | word, c :: rest =>
    if 10 * word + digit c < Nat.pow 2 64 then takeWord (10 * word + digit c) rest else (word, c :: rest)

def exponentBound : Nat := Nat.pow 2 31

def scale : (steps : Nat) → Float → Int → Option Float
  | 0, _, _ => some 0.0
  | steps + 1, f, exponent =>
    if exponent.natAbs ≤ 308 then
      let power := Float.ofScientific 1 false exponent.natAbs
      if 0 ≤ exponent then
        if (f * power).isInf then none else some (f * power)
      else some (f / power)
    else if f == 0.0 then some f
    else if 0 ≤ exponent then none
    else scale steps (f / Float.ofScientific 1 false 308) (exponent + 308)

def magnitude? (word : Nat) (exponent : Int) : (moved : Option (Bool × List Char)) → Option Float
  | none => scale 8 word.toUInt64.toFloat exponent
  | some (shrinks, digits) =>
    let amount := value digits
    if amount < exponentBound then
      scale 8 word.toUInt64.toFloat (if shrinks then exponent - amount else exponent + amount)
    else if word ≠ 0 && !shrinks then none
    else some 0.0

/-- A whole number that fits a word. Zero has a sign only as a double, and so have the negative
numbers beyond the signed words. -/
def integer (negative : Bool) (word : Nat) : Json :=
  if negative then
    if word = 0 ∨ Nat.pow 2 63 < word then .number (-word.toUInt64.toFloat) else .integer (-(word : Int))
  else .integer word

def json? (n : Numeral) : Option Json :=
  let (word, left) := takeWord 0 n.whole
  if left.isEmpty && n.fraction.isEmpty && n.exponent.isNone then some (integer n.negative word)
  else
    let (word, ignored) := takeWord word n.fraction
    let exponent : Int := left.length - (n.fraction.length - ignored.length : Nat)
    (magnitude? word exponent n.exponent).map
      (fun f => .number (if n.negative then -f else f))

end Numeral

/-- The text that glyphs spell; `seen` holds the characters so far, the last one first. A character
outside the first plane is escaped as two halves, which never stand alone. -/
def Glyph.spell? : List Glyph → (seen : List Char) → Option String
  | [], seen => some (String.ofList seen.reverse)
  | .plain c :: rest, seen => spell? rest (c :: seen)
  | .unit high :: rest, seen =>
    if 0xDC00 ≤ high ∧ high < 0xE000 then none
    else if 0xD800 ≤ high ∧ high < 0xDC00 then
      match rest with
      | .unit low :: rest =>
        if 0xDC00 ≤ low ∧ low < 0xE000 then
          spell? rest (Char.ofNat (0x10000 + 0x400 * (high - 0xD800) + (low - 0xDC00)) :: seen)
        else none
      | _ => none
    else spell? rest (Char.ofNat high :: seen)

namespace Form

mutual

def json? (depth : Nat) : Form → Option Json
  | .null => some .null
  | .boolean b => some (.boolean b)
  | .numeral n => n.json?
  | .text glyphs => (Glyph.spell? glyphs []).map .text
  | .array items =>
    match depth with
    | 0 => none
    | depth + 1 => (items? depth items).map .array
  | .object entries =>
    match depth with
    | 0 => none
    | depth + 1 => (entries? depth entries).map .object
termination_by structural form => form

def items? (depth : Nat) : List Form → Option (List Json)
  | [] => some []
  | form :: rest =>
    match json? depth form with
    | none => none
    | some item => (items? depth rest).map (item :: ·)
termination_by structural items => items

def entries? (depth : Nat) : List (List Glyph × Form) → Option (List (String × Json))
  | [] => some []
  | (glyphs, form) :: rest =>
    match Glyph.spell? glyphs [], json? depth form with
    | some name, some item => (entries? depth rest).map ((name, item) :: ·)
    | _, _ => none
termination_by structural entries => entries

end

def text? : Form → Option String
  | .text glyphs => Glyph.spell? glyphs []
  | _ => none

def named? (entries : List (List Glyph × Form)) : Option (List (String × Form)) :=
  entries.mapM fun (glyphs, form) => (Glyph.spell? glyphs []).map (·, form)

/-- The parts of a document that has the given fields: an object in which none of them occurs twice,
or an array that lists the first of them in order. Other entries of an object are passed over. -/
def parts? (fields : List String) : Form → Option (List (Option Form))
  | .object entries => do
    let entries ← named? entries
    guard (fields.all (fun field => entries.countP (fun entry => entry.1 == field) ≤ 1))
    return fields.map (fun field => entries.lookup field)
  | .array items =>
    if fields.length < items.length then none
    else some ((List.range fields.length).map (fun i => items[i]?))
  | _ => none

def itemsOrNone? : Option Form → Option (List Form)
  | none => some []
  | some (.array items) => some items
  | some _ => none

end Form

def read? (text : String) : Option Json := do
  (← Form.ofText? text).json? nestingLimit

end Stagecraft.Json
