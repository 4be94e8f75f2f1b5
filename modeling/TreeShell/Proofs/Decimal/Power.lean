/-
  TreeShell.Proofs.Decimal.Power — doubles as rational numbers, and the powers of two.

  A finite double is a mantissa times a power of two (`rational?`). A power of two keeps
  its bits wherever it is rounded (`roundWithAccuracy_two_pow`) and packed
  (`unpack_pack_power`), so that the double of `2^n` is `2^n` up to the greatest exponent
  (`unpack_ofNat_two_pow`) and products of powers of two are exact (`unpack_mul`).
-/

import Mathlib.Algebra.Field.Rat
import Mathlib.Algebra.Order.Ring.Rat
import Mathlib.Tactic.NormNum
import TreeShell.Decimal

namespace TreeShell.Decimal

open Float.Model UnpackedFloat

/-- The number that a finite double stands for. -/
def rational? (x : Float) : Option ℚ :=
  match x.toModel.unpack with
  | .zero _ => some 0
  | .finite sign mantissa exponent _ => some (sign.apply mantissa * 2 ^ exponent)
  | _ => none

/-- `2^e`, with its mantissa in normal form. -/
def power (e : Int) : UnpackedFloat := .finite .positive (2 ^ 52) (e - 52) (by decide)

theorem finite_eq_power {sign : Sign} {m : Nat} {e x : Int} {hm : 0 < m} (hsign : sign = .positive) (hmantissa : m = 2 ^ 52)
    (he : e = x - 52) : finite sign m e hm = power x := by
  subst hsign hmantissa he
  rfl

theorem rational?_of_unpack {x : Float} {e : Int} (hx : x.toModel.unpack = power e) : rational? x = some (2 ^ e) := by
  have hvalue : ((2 ^ 52 : Nat) : ℚ) * 2 ^ (e - 52) = 2 ^ e := by
    rw [Nat.cast_pow, Nat.cast_ofNat, ← zpow_natCast, ← zpow_add₀ (by norm_num)]
    congr 1
    omega
  unfold rational?
  rw [hx]
  refine congrArg some ?_
  show (((2 ^ 52 : Nat) : Int) : ℚ) * 2 ^ (e - 52) = _
  exact_mod_cast hvalue

/-! ## Rounding -/

theorem targetExponent_eq (e : Int) : Format.binary64.targetExponent e = max (e - 53) (-1074) := rfl

/-- Only zeros are shifted out. -/
theorem shiftRight_two_pow (m n : Nat) :
    (ExtendedMantissa.mk (2 ^ (m + n)) false false) >>> n = ⟨2 ^ m, false, false⟩ := by
  show n.repeat ExtendedMantissa.shiftRightOne _ = _
  induction n generalizing m with
  | zero => rfl
  | succ n ih =>
    have hshift := ih (m + 1)
    rw [show m + 1 + n = m + (n + 1) by omega] at hshift
    rw [Nat.repeat, hshift]
    simp [ExtendedMantissa.shiftRightOne, Nat.pow_succ]

section

variable {n : Nat} {e : Int} (hn : 52 ≤ n) (he : -1022 ≤ n + e)

include hn he

theorem shiftToTargetExponent_two_pow :
    shiftToTargetExponent .binary64 (2 ^ n) e .exact = (⟨2 ^ 52, false, false⟩, n + e - 52) := by
  have hamount : (Format.binary64.targetExponent (totalExponent (2 ^ n) e) - e).toNat = n - 52 := by
    rw [targetExponent_eq, totalExponent, Nat.log2_two_pow]
    omega
  have hshift := shiftRight_two_pow 52 (n - 52)
  rw [show 52 + (n - 52) = n by omega] at hshift
  unfold shiftToTargetExponent shiftToExponent
  simp only [hamount, ExtendedMantissa.ofMantissaAndAccuracy, hshift, Prod.mk.injEq, true_and]
  omega

/-- The mantissa is shifted twice, as rounding could have carried it over; here it has not. -/
theorem roundWithAccuracy_two_pow : roundWithAccuracy .binary64 .positive (2 ^ n) e .exact = power (n + e) := by
  have hfirst := shiftToTargetExponent_two_pow hn he
  have hsecond := shiftToTargetExponent_two_pow (n := 52) (e := n + e - 52) (by omega) (by omega)
  have hexact : (ExtendedMantissa.mk (2 ^ 52) false false).roundedMantissa = 2 ^ 52 := rfl
  unfold roundWithAccuracy
  rw [hfirst]
  dsimp only
  rw [hexact, hsecond]
  dsimp only
  rw [dif_neg (by decide)]
  exact finite_eq_power rfl rfl (by omega)

end

theorem round_two_pow {n : Nat} (hn : n ≤ 52) : UnpackedFloat.round .binary64 .positive (2 ^ n) 0 = power n := by
  have hamount : (0 - Format.binary64.targetExponent (totalExponent (2 ^ n) 0)).toNat = 52 - n := by
    rw [targetExponent_eq, totalExponent, Nat.log2_two_pow]
    omega
  have hmantissa : 2 ^ n <<< (52 - n) = 2 ^ 52 := by
    rw [Nat.shiftLeft_eq, ← Nat.pow_add]
    congr 1
    omega
  unfold UnpackedFloat.round decreaseExponent
  simp only [hamount, hmantissa]
  rw [roundWithAccuracy_two_pow (by omega) (by omega)]
  exact congrArg power (by omega)

theorem normalize_two_pow {n : Nat} (hn : n ≤ 52) :
    UnpackedFloat.normalize .binary64 ((2 ^ n : Nat) : Int) 0 .positive = power n := by
  have hpos : 0 < ((2 ^ n : Nat) : Int) := Int.natCast_pos.mpr (Nat.two_pow_pos n)
  have hcompare : compare ((2 ^ n : Nat) : Int) 0 = .gt := Int.compare_eq_gt.mpr hpos
  unfold UnpackedFloat.normalize
  rw [hcompare]
  exact round_two_pow hn

theorem mul_power {a b : Int} (h : -1022 ≤ a + b) :
    UnpackedFloat.mul .binary64 (power a) (power b) = power (a + b) := by
  have hsign : Sign.positive * Sign.positive = Sign.positive := rfl
  have hmantissa : 2 ^ 52 * 2 ^ 52 = 2 ^ 104 := (Nat.pow_add 2 52 52).symm
  unfold power UnpackedFloat.mul
  dsimp only
  rw [hsign, hmantissa, roundWithAccuracy_two_pow (by omega) (by omega)]
  exact congrArg power (by omega)

/-- The digits are a product with a power of ten, here the first. -/
theorem ofScientific_two_pow (n : Nat) : UnpackedFloat.ofScientific .binary64 (2 ^ n) 0 = power n := by
  have hpos : 2 ^ n ≠ 0 := (Nat.two_pow_pos n).ne'
  have hrange : (2 : Int) ^ Format.binary64.exponentBits = 2048 := rfl
  have hmantissa : 2 ^ n <<< Format.binary64.mantissaBits * 10 ^ (0 : Int).toNat = 2 ^ (n + 53) := by
    rw [Nat.shiftLeft_eq, ← Nat.pow_add]
    exact Nat.mul_one _
  have hexponent : -(Format.binary64.mantissaBits : Int) + 0 = -53 := rfl
  have hsign : Sign.positive * Sign.positive = Sign.positive := rfl
  unfold UnpackedFloat.ofScientific
  rw [dif_neg hpos, hrange, if_neg (by omega), if_neg (by omega), if_pos (Int.le_refl 0)]
  unfold UnpackedFloat.mul
  dsimp only
  rw [hmantissa, hexponent, hsign, roundWithAccuracy_two_pow (by omega) (by omega)]
  exact congrArg power (by omega)

/-! ## Packing -/

theorem unpackSign_packComponents {spec : Format} {sign : Sign} {e : BitVec spec.exponentBits}
    {m : BitVec spec.mantissaBitsWithoutImplicit} :
    unpackSign (packComponents spec sign e m) = sign.toBitVec := by
  unfold unpackSign packComponents
  ext i hi
  have hplace : (sign.toBitVec ++ e ++ m).getLsbD (spec.mantissaBitsWithoutImplicit + spec.exponentBits + i) =
      sign.toBitVec.getLsbD i := by
    rw [BitVec.getLsbD_append, if_neg (by omega), BitVec.getLsbD_append, if_neg (by omega)]
    congr 1
    omega
  rw [BitVec.getLsbD_eq_getElem hi] at hplace
  simpa using hplace

section

variable {b : Nat} (hpos : 1 ≤ b) (hmax : b ≤ 2046)

include hpos hmax

theorem pack_power {e : Int} (hb : (b : Int) = e + 1023) :
    pack .binary64 (power e) =
      packComponents .binary64 .positive (BitVec.ofNat 11 b) (BitVec.ofNat 52 (2 ^ 52)) := by
  have hfield :
      (e - 52 + Format.binary64.exponentBias + Format.binary64.mantissaBitsWithoutImplicit).toNat = b := by
    rw [show Format.binary64.exponentBias = 1023 from rfl,
      show Format.binary64.mantissaBitsWithoutImplicit = 52 from rfl]
    omega
  unfold UnpackedFloat.pack power
  simp only [hfield]
  rw [if_neg (by omega), if_pos (by rw [Nat.log2_two_pow]; rfl)]

/-- The field of the exponent is neither that of the numbers below the normal ones nor that
    of what is no number. -/
theorem unpack_eq_power {word : BitVec Format.binary64.numBits} (hsign : unpackSign word = Sign.positive.toBitVec)
    (hexponent : unpackExponent word = BitVec.ofNat 11 b) (hmantissa : unpackMantissa word = BitVec.ofNat 52 (2 ^ 52)) :
    unpack .binary64 word = power (b - 1023) := by
  have hnat : (BitVec.ofNat 11 b).toNat = b := by
    rw [BitVec.toNat_ofNat, Nat.mod_eq_of_lt (by omega)]
  have hones : unpackExponent word ≠ -1#11 := by
    intro h
    have hb : b = 2047 := hnat.symm.trans (congrArg BitVec.toNat (hexponent.symm.trans h))
    omega
  have hzero : unpackExponent word ≠ 0#11 := by
    intro h
    have hb : b = 0 := hnat.symm.trans (congrArg BitVec.toNat (hexponent.symm.trans h))
    omega
  unfold UnpackedFloat.unpack
  rw [if_neg hones, if_neg hzero]
  refine finite_eq_power ?_ ?_ ?_
  · rw [hsign]
    rfl
  · rw [hmantissa]
    rfl
  · rw [hexponent, hnat]
    show _ - ((1023 : Int) + 52) = _
    omega

end

theorem unpack_pack_power {e : Int} (hlo : -1022 ≤ e) (hhi : e ≤ 1023) :
    unpack .binary64 (pack .binary64 (power e)) = power e := by
  obtain ⟨b, hb⟩ : ∃ b : Nat, (b : Int) = e + 1023 := ⟨(e + 1023).toNat, by omega⟩
  rw [pack_power (by omega) (by omega) hb, unpack_eq_power (by omega) (by omega) unpackSign_packComponents
    unpackExponent_packComponents unpackMantissa_packComponents]
  exact congrArg power (by omega)

/-! ## Doubles -/

theorem unpack_mul {x y : Float} {a b : Int} (hx : x.toModel.unpack = power a) (hy : y.toModel.unpack = power b)
    (hlo : -1022 ≤ a + b) (hhi : a + b ≤ 1023) : (x * y).toModel.unpack = power (a + b) := by
  have hmul : (x * y).toModel.unpack =
      unpack .binary64 (pack .binary64 (UnpackedFloat.mul .binary64 x.toModel.unpack y.toModel.unpack)) := rfl
  rw [hmul, hx, hy, mul_power hlo, unpack_pack_power hlo hhi]

theorem unpack_toFloat_two_pow {n : Nat} (hn : n ≤ 52) : (2 ^ n).toUInt64.toFloat.toModel.unpack = power n := by
  have hword : (2 ^ n).toUInt64.toNat = 2 ^ n := by
    have hlt : 2 ^ n < 2 ^ 64 := Nat.pow_lt_pow_right (by decide) (by omega)
    exact UInt64.toNat_ofNat_of_lt' hlt
  have hpack : (2 ^ n).toUInt64.toFloat.toModel.unpack = unpack .binary64
      (pack .binary64 (UnpackedFloat.normalize .binary64 ((2 ^ n).toUInt64.toNat : Int) 0 .positive)) := rfl
  rw [hpack, hword, normalize_two_pow hn, unpack_pack_power (by omega) (by omega)]

/-- `2^n` is a double up to the greatest exponent. What fits a mantissa is converted as a
    word, what is greater as a number with a decimal exponent. -/
theorem unpack_ofNat_two_pow {n : Nat} (hn : n ≤ 1023) : (Float.ofNat (2 ^ n)).toModel.unpack = power n := by
  have hone : Float.exactlyRepresentablePowersOfTen[0].toModel.unpack = power 0 := rfl
  show (Float.ofScientific (2 ^ n) false 0).toModel.unpack = _
  unfold Float.ofScientific
  by_cases h : n < 53
  · have hlt : 2 ^ n < 2 ^ 53 := Nat.pow_lt_pow_right (by decide) h
    rw [dif_pos ⟨hlt, by decide⟩]
    have hmul := unpack_mul (unpack_toFloat_two_pow (n := n) (by omega)) hone (by omega) (by omega)
    rw [Int.add_zero] at hmul
    exact hmul
  · have hlt : ¬2 ^ n < 2 ^ 53 := Nat.not_lt.mpr (Nat.pow_le_pow_right (by decide) (by omega))
    rw [dif_neg fun hc => hlt hc.1]
    have hpack : (Float.ofModel (Float.Model.ofScientific (2 ^ n) 0)).toModel.unpack =
        unpack .binary64 (pack .binary64 (UnpackedFloat.ofScientific .binary64 (2 ^ n) 0)) := rfl
    exact hpack.trans (by rw [ofScientific_two_pow, unpack_pack_power (by omega) (by omega)])

end TreeShell.Decimal
