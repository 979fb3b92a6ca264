import Stagecraft.Decimal.Shortest

/-!
How a double is written: which exponents are spelled out by position, whether a whole number keeps
a fraction digit, and how ties between two shortest decimals fall. Scripts and messages use
`Layout.plain`, documents use `Layout.document`.
-/

namespace Stagecraft.Decimal

structure Layout where
  /-- The decimal exponents that are written by position; without bounds all of them. -/
  positional : Option (Int × Int)
  /-- A whole number ends in `.0`. -/
  fraction : Bool
  tie : Tie
deriving Repr

namespace Layout

/-- Never an exponent, no fraction on whole numbers. -/
def plain : Layout := ⟨none, false, .up⟩

/-- Exponents from -5 to 15 by position with at least one fraction digit, others as `1e+16`. -/
def document : Layout := ⟨some (-5, 15), true, .even⟩

def positionalText (layout : Layout) (digits : String) (whole : Int) : String :=
  let length : Int := digits.length
  if length ≤ whole then
    let zeros := String.ofList (List.replicate (whole - length).toNat '0')
    digits ++ zeros ++ (if layout.fraction then ".0" else "")
  else if whole ≤ 0 then
    "0." ++ String.ofList (List.replicate (-whole).toNat '0') ++ digits
  else
    let chars := digits.toList
    String.ofList (chars.take whole.toNat) ++ "." ++ String.ofList (chars.drop whole.toNat)

def scientificText (digits : String) (exponent : Int) : String :=
  let chars := digits.toList
  let mantissa := match chars with
    | [] => ""
    | [single] => String.singleton single
    | first :: others => String.singleton first ++ "." ++ String.ofList others
  mantissa ++ "e" ++ (if exponent < 0 then "-" else "+") ++ toString exponent.natAbs

def magnitude (layout : Layout) (significand : Nat) (exponent : Int) : String :=
  let decimal := shortest layout.tie significand exponent
  let digits := String.ofList (Nat.toDigits 10 decimal.digits)
  let leading := decimal.exponent + (digits.length : Int) - 1
  let byPosition := match layout.positional with
    | none => true
    | some (least, greatest) => least ≤ leading && leading ≤ greatest
  if byPosition then layout.positionalText digits (leading + 1) else scientificText digits leading

def write (layout : Layout) (x : Float) : String :=
  match Binary64.ofFloat x with
  | .notANumber => "NaN"
  | .infinite negative => if negative then "-inf" else "inf"
  | .finite negative significand exponent =>
    let sign := if negative then "-" else ""
    if significand = 0 then sign ++ (if layout.fraction then "0.0" else "0")
    else sign ++ layout.magnitude significand exponent

end Layout

end Stagecraft.Decimal
