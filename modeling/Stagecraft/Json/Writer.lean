import Stagecraft.Json
import Stagecraft.Decimal.Layout

/-!
Writing documents: compact, or over several lines with two blanks per level, one item a line and
nothing between the brackets of what is empty.
-/

namespace Stagecraft.Json

def hexDigit (n : Nat) : Char := (Nat.toDigits 16 n).headD '0'

/-- One character inside a document's quotes. Only what a reader needs escaped is escaped. -/
def escapedChar (c : Char) : String :=
  if c = '"' then "\\\""
  else if c = '\\' then "\\\\"
  else if c = '\x08' then "\\b"
  else if c = '\x0c' then "\\f"
  else if c = '\n' then "\\n"
  else if c = '\r' then "\\r"
  else if c = '\t' then "\\t"
  else if c.toNat < 0x20 then
    "\\u00" ++ String.ofList [hexDigit (c.toNat / 16), hexDigit (c.toNat % 16)]
  else String.singleton c

def quote (text : String) : String :=
  "\"" ++ String.join (text.toList.map escapedChar) ++ "\""

mutual

def compact : Json → String
  | .null => "null"
  | .boolean b => if b then "true" else "false"
  | .integer i => toString i
  | .number n => Decimal.Layout.document.write n
  | .text s => quote s
  | .array items => "[" ++ compactItems items ++ "]"
  | .object entries => "\x7b" ++ compactEntries entries ++ "\x7d"
termination_by structural json => json

def compactItems : List Json → String
  | [] => ""
  | [item] => compact item
  | item :: rest => compact item ++ "," ++ compactItems rest
termination_by structural items => items

def compactEntries : List (String × Json) → String
  | [] => ""
  | [(name, item)] => quote name ++ ":" ++ compact item
  | (name, item) :: rest => quote name ++ ":" ++ compact item ++ "," ++ compactEntries rest
termination_by structural entries => entries

end

def newline (level : Nat) : String := "\n" ++ String.ofList (List.replicate (2 * level) ' ')

mutual

def pretty (level : Nat) : Json → String
  | .array [] => "[]"
  | .array (item :: rest) =>
    "[" ++ newline (level + 1) ++ prettyItems (level + 1) (item :: rest) ++ newline level ++ "]"
  | .object [] => "\x7b\x7d"
  | .object (entry :: rest) =>
    "\x7b" ++ newline (level + 1) ++ prettyEntries (level + 1) (entry :: rest) ++ newline level
      ++ "\x7d"
  | .null => "null"
  | .boolean b => if b then "true" else "false"
  | .integer i => toString i
  | .number n => Decimal.Layout.document.write n
  | .text s => quote s
termination_by structural json => json

def prettyItems (level : Nat) : List Json → String
  | [] => ""
  | [item] => pretty level item
  | item :: rest => pretty level item ++ "," ++ newline level ++ prettyItems level rest
termination_by structural items => items

def prettyEntries (level : Nat) : List (String × Json) → String
  | [] => ""
  | [(name, item)] => quote name ++ ": " ++ pretty level item
  | (name, item) :: rest =>
    quote name ++ ": " ++ pretty level item ++ "," ++ newline level ++ prettyEntries level rest
termination_by structural entries => entries

end

end Stagecraft.Json
