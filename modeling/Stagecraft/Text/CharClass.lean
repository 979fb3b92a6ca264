import Stagecraft.Text.Alphabetic
import Stagecraft.Text.Numeric
import Stagecraft.Text.Extending
import Stagecraft.Text.Unprintable

/-!
Classes of characters. ASCII is decided by core's own tests, all else by the tables.
-/

namespace Stagecraft.Text

def inRuns (table : Array (Nat × Nat)) (code : Nat) : Bool :=
  table.any (fun run => run.1 ≤ code && code ≤ run.2)

def isAscii (c : Char) : Bool := c.toNat < 0x80

def isAlphabetic (c : Char) : Bool :=
  if isAscii c then c.isAlpha else inRuns alphabetic c.toNat

def isNumeric (c : Char) : Bool :=
  if isAscii c then c.isDigit else inRuns numeric c.toNat

def isAlphanumeric (c : Char) : Bool := isAlphabetic c || isNumeric c

/-- A character that joins the one before it. -/
def isExtending (c : Char) : Bool := !isAscii c && inRuns extending c.toNat

def isPrintable (c : Char) : Bool :=
  if isAscii c then 0x20 ≤ c.toNat && c.toNat < 0x7f else !inRuns unprintable c.toNat

theorem isAlphanumeric_of_isAlphabetic {c : Char} (letter : isAlphabetic c = true) :
    isAlphanumeric c = true := by
  simp [isAlphanumeric, letter]

end Stagecraft.Text
