import Mathlib.Algebra.Group.Nat.Defs
import Stagecraft.Json

/-!
Doubles: which of them are finite. A whole number of 64 bits is rounded to a finite double, and so is its
negative. A double is an integer mantissa scaled by a power of two, and overflows where its scale is too great
for the bits of its exponent.
-/

namespace Stagecraft.Doubles

open Float.Model

/-! ### Packing -/

def fullExponent : Nat := 2047

def greatestScale : Int := 971

def Packable : UnpackedFloat → Prop
  | .zero _ => True
  | .finite _ _ scale _ => scale ≤ greatestScale
  | .infinity _ | .notANumber => False

theorem Packable.isFinite {number : UnpackedFloat} (packable : Packable number) : number.isFinite = true := by
  cases number with
  | zero sign => rfl
  | finite sign mantissa scale positive => rfl
  | infinity sign => exact packable.elim
  | notANumber => exact packable.elim

theorem Packable.neg {number : UnpackedFloat} (packable : Packable number) : Packable number.neg := by
  cases number with
  | zero sign => trivial
  | finite sign mantissa scale positive => exact packable
  | infinity sign => exact packable.elim
  | notANumber => exact packable.elim

theorem packable_unpack {bits : BitVec Format.binary64.numBits}
    (below : (UnpackedFloat.unpackExponent bits).toNat < fullExponent) :
    Packable (UnpackedFloat.unpack Format.binary64 bits) := by
  have full : UnpackedFloat.unpackExponent bits ≠ -BitVec.ofNat _ 1 := by
    intro same
    rw [same] at below
    exact absurd below (by decide)
  unfold UnpackedFloat.unpack
  dsimp only
  rw [if_neg full]
  by_cases least : UnpackedFloat.unpackExponent bits = BitVec.ofNat _ 0
  · rw [if_pos least]
    by_cases none : UnpackedFloat.unpackMantissa bits = BitVec.ofNat _ 0
    · rw [dif_pos none]
      trivial
    · rw [dif_neg none, least]
      change (0 : Int) - (1023 + 52) + 1 ≤ 971
      decide
  · rw [if_neg least]
    change ((UnpackedFloat.unpackExponent bits).toNat : Int) - (1023 + 52) ≤ 971
    unfold fullExponent at below
    omega

theorem isFinite_unpack (bits : BitVec Format.binary64.numBits) :
    (UnpackedFloat.unpack Format.binary64 bits).isFinite = true ↔
      (UnpackedFloat.unpackExponent bits).toNat < fullExponent := by
  refine ⟨fun finite => ?_, fun below => (packable_unpack below).isFinite⟩
  have bound : (UnpackedFloat.unpackExponent bits).toNat < fullExponent + 1 :=
    (UnpackedFloat.unpackExponent bits).isLt
  have apart : (UnpackedFloat.unpackExponent bits).toNat ≠ fullExponent := by
    intro same
    have full : UnpackedFloat.unpackExponent bits = -BitVec.ofNat _ 1 := BitVec.eq_of_toNat_eq same
    unfold UnpackedFloat.unpack at finite
    dsimp only at finite
    rw [if_pos full] at finite
    by_cases infinite : UnpackedFloat.unpackMantissa bits = BitVec.ofNat _ 0
    · rw [if_pos infinite] at finite
      cases finite
    · rw [if_neg infinite] at finite
      cases finite
  omega

theorem Packable.isFinite_pack {number : UnpackedFloat} (packable : Packable number) :
    (Float.Model.pack number).isFinite = true := by
  change (UnpackedFloat.unpack Format.binary64 (UnpackedFloat.pack Format.binary64 number)).isFinite = true
  rw [isFinite_unpack]
  cases number with
  | infinity sign => exact packable.elim
  | notANumber => exact packable.elim
  | zero sign =>
    unfold UnpackedFloat.pack UnpackedFloat.packedZero
    rw [UnpackedFloat.unpackExponent_packComponents]
    decide
  | finite sign mantissa scale positive =>
    have within : scale ≤ 971 := packable
    unfold UnpackedFloat.pack
    dsimp only
    generalize placed : (scale + Format.binary64.exponentBias +
      Format.binary64.mantissaBitsWithoutImplicit).toNat = biased
    have small : biased < 2047 := by
      rw [← placed]
      change (scale + 1023 + 52).toNat < 2047
      omega
    rw [if_neg (show ¬2 ^ Format.binary64.exponentBits ≤ biased + 1 from
      Nat.not_le_of_lt (Nat.succ_lt_succ small))]
    split
    · rw [UnpackedFloat.unpackExponent_packComponents, BitVec.toNat_ofNat,
        Nat.mod_eq_of_lt (Nat.lt_succ_of_lt small)]
      exact small
    · rw [UnpackedFloat.unpackExponent_packComponents]
      decide

/-! ### Rounding -/

theorem mantissa_shiftRight_le (extended : UnpackedFloat.ExtendedMantissa) (amount : Nat) :
    (extended >>> amount).mantissa ≤ extended.mantissa := by
  change (Nat.repeat UnpackedFloat.ExtendedMantissa.shiftRightOne amount extended).mantissa ≤ _
  induction amount with
  | zero => exact Nat.le_refl _
  | succ amount ih => exact Nat.le_trans (Nat.div_le_self _ 2) ih

theorem roundedMantissa_le (extended : UnpackedFloat.ExtendedMantissa) :
    extended.roundedMantissa ≤ extended.mantissa + 1 := by
  obtain ⟨mantissa, round, sticky⟩ := extended
  have odd := Nat.mod_lt mantissa (show 0 < 2 by decide)
  cases round <;> cases sticky
  all_goals
    simp only [UnpackedFloat.ExtendedMantissa.roundedMantissa, UnpackedFloat.ExtendedMantissa.accuracy,
      UnpackedFloat.Accuracy.roundToNearestEven]
    omega

/-- A mantissa of so many digits is shifted so far that fifty-three of them are left. -/
theorem scale_shiftToTargetExponent {mantissa digits : Nat} (short : mantissa < 2 ^ digits) (scale : Int) :
    (UnpackedFloat.shiftToTargetExponent Format.binary64 mantissa scale .exact).2 ≤
      max scale (max (digits + scale - 52) (-1074)) := by
  have log : mantissa.log2 ≤ digits := by
    rcases Nat.eq_zero_or_pos mantissa with rfl | positive
    · exact Nat.zero_le _
    · exact Nat.le_of_lt ((Nat.log2_lt (Nat.ne_of_gt positive)).mpr short)
  change scale + ((max ((mantissa.log2 : Int) + 1 + scale - 53) (-1074) - scale).toNat : Int) ≤ _
  omega

theorem packable_roundWithAccuracy (sign : UnpackedFloat.Sign) {mantissa digits : Nat} {scale : Int}
    (short : mantissa + 1 < 2 ^ digits) (few : digits ≤ 400) (small : scale ≤ 0) :
    Packable (UnpackedFloat.roundWithAccuracy Format.binary64 sign mantissa scale .exact) := by
  unfold UnpackedFloat.roundWithAccuracy
  have first := scale_shiftToTargetExponent (Nat.lt_of_succ_lt short) scale
  have kept :
      (UnpackedFloat.shiftToTargetExponent Format.binary64 mantissa scale .exact).1.mantissa ≤ mantissa :=
    mantissa_shiftRight_le _ _
  generalize UnpackedFloat.shiftToTargetExponent Format.binary64 mantissa scale .exact = moved at first kept ⊢
  obtain ⟨shifted, between⟩ := moved
  dsimp only at first kept ⊢
  -- Rounding may carry into one digit more, which is shifted out again.
  have rounded := roundedMantissa_le shifted
  have shortAgain : shifted.roundedMantissa < 2 ^ digits := by omega
  have second := scale_shiftToTargetExponent shortAgain between
  by_cases none :
      (UnpackedFloat.shiftToTargetExponent Format.binary64 shifted.roundedMantissa between .exact).1.mantissa = 0
  · rw [dif_pos none]
    trivial
  · rw [dif_neg none]
    change _ ≤ (971 : Int)
    omega

theorem packable_round (sign : UnpackedFloat.Sign) {mantissa : Nat} (word : mantissa < 2 ^ 64) :
    Packable (UnpackedFloat.round Format.binary64 sign mantissa 0) := by
  unfold UnpackedFloat.round UnpackedFloat.decreaseExponent
  dsimp only
  generalize target : Format.binary64.targetExponent (totalExponent mantissa 0) = goal
  have least : -52 ≤ goal := by
    rw [← target]
    change -52 ≤ max ((mantissa.log2 : Int) + 1 + 0 - 53) (-1074)
    omega
  have short : mantissa <<< (0 - goal).toNat + 1 < 2 ^ 117 := by
    have shift : 2 ^ (0 - goal).toNat ≤ 2 ^ 52 := Nat.pow_le_pow_right (by decide) (by omega)
    rw [Nat.shiftLeft_eq]
    calc mantissa * 2 ^ (0 - goal).toNat + 1 ≤ 2 ^ 64 * 2 ^ 52 + 1 :=
          Nat.succ_le_succ (Nat.mul_le_mul (Nat.le_of_lt word) shift)
      _ < 2 ^ 117 := by decide
  exact packable_roundWithAccuracy sign short (by decide) (by omega)

/-! ### Whole numbers -/

theorem isFinite_toFloat (word : UInt64) : word.toFloat.isFinite = true := by
  have packable : Packable (UnpackedFloat.ofUInt64 Format.binary64 word) := by
    unfold UnpackedFloat.ofUInt64 UnpackedFloat.ofNat UnpackedFloat.ofInt UnpackedFloat.normalize
    split
    · next negative =>
      rw [Int.compare_eq_lt] at negative
      omega
    · trivial
    · exact packable_round _ word.toNat_lt
  exact packable.isFinite_pack

theorem isFinite_neg {number : Float} (finite : number.isFinite = true) : (-number).isFinite = true :=
  (packable_unpack ((isFinite_unpack _).mp finite)).neg.isFinite_pack

theorem isFinite_nearest (i : Int) : (Json.nearest i).isFinite = true := by
  unfold Json.nearest
  dsimp only
  split
  · exact isFinite_toFloat _
  · exact isFinite_neg (isFinite_toFloat _)

end Stagecraft.Doubles
