/-!
Written documents: what the grammar alone tells about a text. Numerals and texts are kept as they
stand there, and nothing bounds the nesting. So a part of a document that nobody asks for has to be
well-formed and no more: its numerals may be too great, its characters incomplete.
-/

namespace Stagecraft.Json

structure Numeral where
  negative : Bool
  whole : List Char
  fraction : List Char
  exponent : Option (Bool × List Char)
deriving DecidableEq, Inhabited

inductive Glyph where
  | plain (c : Char)
  /-- A code unit of 16 bits, escaped by its four hexadecimal digits. -/
  | unit (code : Nat)
deriving DecidableEq, Inhabited

inductive Form where
  | null
  | boolean (b : Bool)
  | numeral (n : Numeral)
  | text (glyphs : List Glyph)
  | array (items : List Form)
  | object (entries : List (List Glyph × Form))
deriving Inhabited

def isBlank (c : Char) : Bool := c == ' ' || c == '\n' || c == '\t' || c == '\r'

namespace Numeral

def digits? (text : List Char) : Option (List Char × List Char) :=
  match text.takeWhile Char.isDigit with
  | [] => none
  | digits => some (digits, text.dropWhile Char.isDigit)

def fraction? : List Char → Option (List Char × List Char)
  | '.' :: rest => digits? rest
  | rest => some ([], rest)

def signedDigits? : List Char → Option ((Bool × List Char) × List Char)
  | '-' :: rest => (digits? rest).map (fun (digits, rest) => ((true, digits), rest))
  | '+' :: rest => (digits? rest).map (fun (digits, rest) => ((false, digits), rest))
  | rest => (digits? rest).map (fun (digits, rest) => ((false, digits), rest))

def exponent? : List Char → Option (Option (Bool × List Char) × List Char)
  | 'e' :: rest => (signedDigits? rest).map (fun (exponent, rest) => (some exponent, rest))
  | 'E' :: rest => (signedDigits? rest).map (fun (exponent, rest) => (some exponent, rest))
  | rest => some (none, rest)

/-- A numeral whose sign was passed already. No zero leads other digits. -/
def unsigned? (negative : Bool) (text : List Char) : Option (Numeral × List Char) := do
  let (whole, rest) ← digits? text
  guard (whole.length == 1 || whole.head? != some '0')
  let (fraction, rest) ← fraction? rest
  let (exponent, rest) ← exponent? rest
  return (⟨negative, whole, fraction, exponent⟩, rest)

end Numeral

namespace Glyph

def code? (a b c d : Char) : Option Nat :=
  [a, b, c, d].foldlM (fun n c =>
    if c.isDigit then some (16 * n + (c.toNat - '0'.toNat))
    else if 'a' ≤ c ∧ c ≤ 'f' then some (16 * n + (c.toNat - 'a'.toNat + 10))
    else if 'A' ≤ c ∧ c ≤ 'F' then some (16 * n + (c.toNat - 'A'.toNat + 10))
    else none) 0

def letter? : Char → Option Char
  | '"' => some '"'
  | '\\' => some '\\'
  | '/' => some '/'
  | 'b' => some '\x08'
  | 'f' => some '\x0c'
  | 'n' => some '\n'
  | 'r' => some '\r'
  | 't' => some '\t'
  | _ => none

/-- The glyphs up to the closing quote; `seen` holds those so far, the last one first. Controls only
occur escaped. -/
def close? : List Char → (seen : List Glyph) → Option (List Glyph × List Char)
  | [], _ => none
  | '"' :: rest, seen => some (seen.reverse, rest)
  | '\\' :: 'u' :: a :: b :: c :: d :: rest, seen =>
    match code? a b c d with
    | none => none
    | some code => close? rest (.unit code :: seen)
  | '\\' :: c :: rest, seen =>
    match letter? c with
    | none => none
    | some letter => close? rest (.plain letter :: seen)
  | c :: rest, seen => if c.toNat < 0x20 ∨ c = '\\' then none else close? rest (.plain c :: seen)

end Glyph

namespace Form

mutual

def scan : (fuel : Nat) → List Char → Option (Form × List Char)
  | 0, _ => none
  | fuel + 1, chars =>
    match chars with
    | 'n' :: 'u' :: 'l' :: 'l' :: rest => some (.null, rest)
    | 't' :: 'r' :: 'u' :: 'e' :: rest => some (.boolean true, rest)
    | 'f' :: 'a' :: 'l' :: 's' :: 'e' :: rest => some (.boolean false, rest)
    | '"' :: rest => (Glyph.close? rest []).map (fun (glyphs, rest) => (.text glyphs, rest))
    | '-' :: rest => (Numeral.unsigned? true rest).map (fun (n, rest) => (.numeral n, rest))
    | '[' :: rest =>
      match rest.dropWhile isBlank with
      | ']' :: rest => some (.array [], rest)
      | rest => (scanItems fuel rest).map (fun (items, rest) => (.array items, rest))
    | '\x7b' :: rest =>
      match rest.dropWhile isBlank with
      | '\x7d' :: rest => some (.object [], rest)
      | rest => (scanEntries fuel rest).map (fun (entries, rest) => (.object entries, rest))
    | rest => (Numeral.unsigned? false rest).map (fun (n, rest) => (.numeral n, rest))

def scanItems : (fuel : Nat) → List Char → Option (List Form × List Char)
  | 0, _ => none
  | fuel + 1, chars =>
    match scan fuel chars with
    | none => none
    | some (item, rest) =>
      match rest.dropWhile isBlank with
      | ']' :: rest => some ([item], rest)
      | ',' :: rest =>
        (scanItems fuel (rest.dropWhile isBlank)).map (fun (items, rest) => (item :: items, rest))
      | _ => none

def scanEntries : (fuel : Nat) → List Char → Option (List (List Glyph × Form) × List Char)
  | 0, _ => none
  | fuel + 1, chars =>
    match chars with
    | '"' :: rest =>
      match Glyph.close? rest [] with
      | none => none
      | some (name, rest) =>
        match rest.dropWhile isBlank with
        | ':' :: rest =>
          match scan fuel (rest.dropWhile isBlank) with
          | none => none
          | some (item, rest) =>
            match rest.dropWhile isBlank with
            | '\x7d' :: rest => some ([(name, item)], rest)
            | ',' :: rest =>
              (scanEntries fuel (rest.dropWhile isBlank)).map
                (fun (entries, rest) => ((name, item) :: entries, rest))
            | _ => none
        | _ => none
    | _ => none

end

/-- The form that a text consists of. Every step down or on takes a character, so twice the length
of the text is fuel enough. -/
def ofText? (text : String) : Option Form :=
  let chars := text.toList.dropWhile isBlank
  match scan (2 * chars.length + 2) chars with
  | some (form, rest) => if (rest.dropWhile isBlank).isEmpty then some form else none
  | none => none

end Form

end Stagecraft.Json
