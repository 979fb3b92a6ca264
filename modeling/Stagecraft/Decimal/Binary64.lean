/-!
What a double is: not a number, an infinity, or a sign with an integer significand scaled by a
power of two. Everything that prints or inspects numbers goes through this reading of the bits.
-/

namespace Stagecraft.Decimal

inductive Binary64 where
  | notANumber
  | infinite (negative : Bool)
  /-- The value `± significand · 2 ^ exponent`; the sign of a zero counts. -/
  | finite (negative : Bool) (significand : Nat) (exponent : Int)
deriving DecidableEq, Repr

namespace Binary64

def leadingBit : Nat := Nat.pow 2 52

def leastExponent : Int := -1074

def ofFloat (x : Float) : Binary64 :=
  let bits := x.toBits.toNat
  let fraction := bits % leadingBit
  let field := bits / leadingBit % 2048
  let negative := bits / Nat.pow 2 63 == 1
  if field == 2047 then
    if fraction == 0 then .infinite negative else .notANumber
  else if field == 0 then .finite negative fraction leastExponent
  else .finite negative (fraction + leadingBit) ((field : Int) - 1075)

/-- The doubles below a power of two lie twice as dense as those above it, except where the
subnormal numbers begin. -/
def gapBelowIsHalf (significand : Nat) (exponent : Int) : Bool :=
  significand == leadingBit && leastExponent < exponent

end Binary64

end Stagecraft.Decimal
