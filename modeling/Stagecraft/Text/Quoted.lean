import Stagecraft.Text.CharClass

/-!
Characters and texts between quotes, for messages. Controls with a letter of their own get it; the
quote that encloses, the backslash, and every character that could not be seen on its own are
escaped too.
-/

namespace Stagecraft.Text

def codeEscape (c : Char) : String :=
  "\\u\x7b" ++ String.ofList (Nat.toDigits 16 c.toNat) ++ "\x7d"

def escaped (quote : Char) (c : Char) : String :=
  if c = '\x00' then "\\0"
  else if c = '\t' then "\\t"
  else if c = '\r' then "\\r"
  else if c = '\n' then "\\n"
  else if c = '\\' then "\\\\"
  else if c = quote then "\\" ++ String.singleton quote
  else if isExtending c || !isPrintable c then codeEscape c
  else String.singleton c

def quotedChar (c : Char) : String := "'" ++ escaped '\'' c ++ "'"

def quoted (text : String) : String :=
  "\"" ++ String.join (text.toList.map (escaped '"')) ++ "\""

def quotedList (texts : List String) : String :=
  "[" ++ ", ".intercalate (texts.map quoted) ++ "]"

end Stagecraft.Text
