import Stagecraft.Decimal.Binary64

/-!
The shortest decimal that reads back as a given positive double. The reals that round to a double
form an interval around it, which contains its ends exactly when the significand is even. Grids of
powers of ten are tried from the coarsest to the finest; on each only the two neighbours of the
value can be the nearest point, and the first grid with a neighbour inside the interval wins.
-/

namespace Stagecraft.Decimal

inductive Tie where
  | up
  | even
deriving DecidableEq, Repr

structure Point where
  digits : Nat
  exponent : Int
deriving DecidableEq, Repr

def digitCount (n : Nat) : Nat :=
  if n = 0 then 0 else (Nat.toDigits 10 n).length

namespace Point

def trim : (fuel : Nat) → Point → Point
  | 0, d => d
  | fuel + 1, d =>
    if d.digits ≠ 0 ∧ d.digits % 10 = 0 then trim fuel ⟨d.digits / 10, d.exponent + 1⟩ else d

end Point

/-- The reals `low / unit … high / unit` around `value / unit` that round to one double. -/
structure Rounding where
  low : Nat
  value : Nat
  high : Nat
  unit : Nat
  closed : Bool
deriving Repr

namespace Rounding

def of (significand : Nat) (exponent : Int) : Rounding :=
  let scale := exponent - 2
  let factor := if 0 ≤ scale then Nat.pow 2 scale.toNat else 1
  let unit := if 0 ≤ scale then 1 else Nat.pow 2 (-scale).toNat
  let below := if Binary64.gapBelowIsHalf significand exponent then 1 else 2
  { low := (4 * significand - below) * factor
    value := 4 * significand * factor
    high := (4 * significand + 2) * factor
    unit := unit
    closed := significand % 2 == 0 }

def leading (r : Rounding) : Int :=
  if r.unit ≤ r.value then (digitCount (r.value / r.unit) : Int) - 1
  else -(digitCount ((r.unit - 1) / r.value) : Int)

def contains (r : Rounding) (point : Nat) : Bool :=
  if r.closed then r.low ≤ point && point ≤ r.high else r.low < point && point < r.high

def onGrid (r : Rounding) (exponent : Int) : Rounding :=
  if 0 ≤ exponent then { r with unit := r.unit * Nat.pow 10 exponent.toNat }
  else
    let step := Nat.pow 10 (-exponent).toNat
    { r with low := r.low * step, value := r.value * step, high := r.high * step }

def nearest? (tie : Tie) (r : Rounding) : Option Nat :=
  let below := r.value / r.unit
  let rest := r.value % r.unit
  let lower := r.contains (below * r.unit)
  let upper := r.contains ((below + 1) * r.unit)
  let preferUpper : Bool := match tie with
    | .up => r.unit ≤ 2 * rest
    | .even => r.unit < 2 * rest || (r.unit == 2 * rest && below % 2 == 1)
  match lower, upper with
  | false, false => none
  | true, false => some below
  | false, true => some (below + 1)
  | true, true => some (if preferUpper then below + 1 else below)

def search (tie : Tie) (r : Rounding) : (grids : Nat) → (exponent : Int) → Point
  | 0, exponent => ⟨(r.onGrid exponent).value / (r.onGrid exponent).unit, exponent⟩
  | grids + 1, exponent =>
    match (r.onGrid exponent).nearest? tie with
    | some digits => ⟨digits, exponent⟩
    | none => search tie r grids (exponent - 1)

end Rounding

/-- The shortest decimal that rounds to `significand · 2 ^ exponent`, nearest to it among those of
that length. Seventeen digits always suffice. -/
def shortest (tie : Tie) (significand : Nat) (exponent : Int) : Point :=
  let rounding := Rounding.of significand exponent
  (rounding.search tie 17 rounding.leading).trim 400

end Stagecraft.Decimal
