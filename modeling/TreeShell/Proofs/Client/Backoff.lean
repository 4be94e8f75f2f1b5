/-
  TreeShell.Proofs.Client.Backoff — the waits as numbers.

  Attempts are counted from zero, and the factor of an attempt below 1024 is a power of
  two (`unpack_powerOfTwo`). So is the base, and of the powers of two the first one above
  the cap is 32 (`backoffCap_lt_iff`). So nothing is rounded, and the wait is exactly half
  a second doubled with every attempt, at most 30 seconds (`rational?_backoff`).
-/

import Mathlib.Tactic.Linarith
import TreeShell.Client.Backoff
import TreeShell.Proofs.Decimal.Power

namespace TreeShell.Client

open TreeShell.Decimal

theorem unpack_powerOfTwo {n : Nat} (hn : n < 1024) : (powerOfTwo n).toModel.unpack = power n :=
  unpack_ofNat_two_pow (by omega)

theorem unpack_backoffBase : backoffBase.toModel.unpack = power (-1) := rfl

theorem unpack_backoffCap :
    backoffCap.toModel.unpack = .finite .positive (30 * 2 ^ 48) (-48) (by decide) := rfl

theorem rational?_backoffCap : rational? backoffCap = some 30 := by
  unfold rational?
  rw [unpack_backoffCap]
  norm_num [Float.Model.UnpackedFloat.Sign.apply]

theorem backoffCap_lt_iff {x : Float} {e : Int} (hx : x.toModel.unpack = power e) : backoffCap < x ↔ 5 ≤ e := by
  have hlt : backoffCap < x ↔ (backoffCap.toModel.unpack.compare x.toModel.unpack == some .lt) = true := by
    show Float.lt _ _ ↔ _
    unfold Float.lt
    rw [decide_eq_true_iff]
    rfl
  -- with equal exponents the mantissa of the cap, that of 30, is above that of 16
  have hmantissa : compare (30 * 2 ^ 48) (2 ^ 52) ≠ Ordering.lt := by decide
  rw [hlt, hx, unpack_backoffCap]
  unfold power Float.Model.UnpackedFloat.compare
  simp only [beq_iff_eq, Option.some.injEq]
  rw [Ordering.then_eq_lt, Int.compare_eq_lt, or_iff_left fun h => hmantissa h.2]
  omega

/-- Attempt `n` is followed by `0.5 * 2^n` seconds, but never by more than 30. -/
theorem rational?_backoff {n : Nat} (hn : n < 1024) :
    ∃ delay, backoff backoffBase n = some delay ∧ rational? delay = some (min (1 / 2 * 2 ^ n) 30) := by
  have hwait : (backoffBase * powerOfTwo n).toModel.unpack = power (-1 + n) :=
    unpack_mul unpack_backoffBase (unpack_powerOfTwo hn) (by omega) (by omega)
  have hvalue : (2 : ℚ) ^ (-1 + (n : Int)) = 1 / 2 * 2 ^ n := by
    rw [zpow_add₀ (by norm_num), zpow_natCast]
    norm_num
  have hbackoff : backoff backoffBase n =
      some (if backoffCap < backoffBase * powerOfTwo n then backoffCap else backoffBase * powerOfTwo n) := by
    unfold backoff
    rw [show factor n = some (powerOfTwo n) from if_pos hn]
    rfl
  refine ⟨_, hbackoff, ?_⟩
  by_cases h : backoffCap < backoffBase * powerOfTwo n
  · have hpow : (2 : ℚ) ^ 6 ≤ 2 ^ n := by
      have hbeyond := (backoffCap_lt_iff hwait).mp h
      exact pow_le_pow_right₀ (by norm_num) (by omega)
    rw [if_pos h, rational?_backoffCap, min_eq_right (by linarith)]
  · have hpow : (2 : ℚ) ^ n ≤ 2 ^ 5 := by
      have hwithin := mt (backoffCap_lt_iff hwait).mpr h
      exact pow_le_pow_right₀ (by norm_num) (by omega)
    rw [if_neg h, rational?_of_unpack hwait, hvalue, min_eq_left (by linarith)]

end TreeShell.Client
