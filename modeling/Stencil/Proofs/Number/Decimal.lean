import Mathlib.Algebra.Order.Field.Power
import Mathlib.Algebra.Order.Field.Rat
import Mathlib.Tactic.Linarith
import Mathlib.Tactic.NormNum
import Mathlib.Tactic.Positivity
import Stencil.Number.Decimal
import Stencil.Proofs.Number.Numeral

/-!
# Quotients and powers of ten

* `scaleDown_eq`: dividing a quotient by a power of ten.
* `leadingExponent_spec`: a quotient is between the power of ten of its first significant digit and the
  next one.
* `exponent_unique`: of no other power of ten is this true.
-/

namespace Stencil.Number

variable {a b : ℕ}

/-- A power of a literal base. -/
theorem natCast_pow (b k : ℕ) [b.AtLeastTwo] : ((OfNat.ofNat b ^ k : ℕ) : ℚ) = OfNat.ofNat b ^ (k : ℤ) := by
  rw [zpow_natCast, Nat.cast_pow, Nat.cast_ofNat]

/-- The quotient of two numbers, divided by a power of ten. -/
theorem scaleDown_eq (a b : ℕ) (e : ℤ) :
    ((scaleDown a b e).1 : ℚ) / (scaleDown a b e).2 = a / b / 10 ^ e := by
  rw [scaleDown]
  split
  · obtain ⟨k, rfl⟩ : ∃ k : ℕ, e = -k := ⟨e.natAbs, by omega⟩
    rw [Int.natAbs_neg, Int.natAbs_natCast, Nat.cast_mul, natCast_pow, zpow_neg, div_inv_eq_mul,
      div_mul_eq_mul_div]
  · obtain ⟨k, rfl⟩ : ∃ k : ℕ, e = k := ⟨e.natAbs, by omega⟩
    rw [Int.natAbs_natCast, Nat.cast_mul, natCast_pow, div_div]

theorem scaleDown_pos (a : ℕ) (hb : 0 < b) (e : ℤ) : 0 < (scaleDown a b e).2 := by
  rw [scaleDown]
  split
  · exact hb
  · exact Nat.mul_pos hb (Nat.pow_pos (by decide))

/-! ## The first significant digit -/

/-- A quotient is between the power of ten of its first significant digit and the next one. -/
theorem leadingExponent_spec (ha : 0 < a) (hb : 0 < b) :
    (10 : ℚ) ^ leadingExponent a b ≤ a / b ∧ (a : ℚ) / b < 10 ^ (leadingExponent a b + 1) := by
  have hb' : (0 : ℚ) < b := by exact_mod_cast hb
  rw [leadingExponent]
  -- Below one the digits are counted in the reciprocal.
  split
  · rename_i hle
    have hq : 0 < a / b := Nat.div_pos hle hb
    have hcount := digitCount_pos (a / b)
    have hlow : 10 ^ (digitCount (a / b) - 1) * b ≤ a :=
      (Nat.mul_le_mul_right b (pow_digitCount_le hq)).trans (Nat.div_mul_le_self a b)
    have hhigh : a < 10 ^ digitCount (a / b) * b :=
      (Nat.div_lt_iff_lt_mul hb).mp (lt_pow_digitCount _)
    constructor
    · have hexp : (digitCount (a / b) : ℤ) - 1 = (digitCount (a / b) - 1 : ℕ) := by omega
      rw [le_div_iff₀ hb', hexp, ← natCast_pow]
      exact_mod_cast hlow
    · rw [div_lt_iff₀ hb', sub_add_cancel, ← natCast_pow]
      exact_mod_cast hhigh
  · rename_i hlt
    have hq : 0 < (b - 1) / a := Nat.div_pos (by omega) ha
    have hcount := digitCount_pos ((b - 1) / a)
    have hlow : 10 ^ (digitCount ((b - 1) / a) - 1) * a ≤ b - 1 :=
      (Nat.mul_le_mul_right a (pow_digitCount_le hq)).trans (Nat.div_mul_le_self (b - 1) a)
    have hhigh : b - 1 < 10 ^ digitCount ((b - 1) / a) * a :=
      (Nat.div_lt_iff_lt_mul ha).mp (lt_pow_digitCount _)
    constructor
    · rw [le_div_iff₀ hb', zpow_neg, ← natCast_pow, inv_mul_le_iff₀ (by positivity)]
      exact_mod_cast (show b ≤ 10 ^ digitCount ((b - 1) / a) * a by omega)
    · have hexp : -(digitCount ((b - 1) / a) : ℤ) + 1 = -(digitCount ((b - 1) / a) - 1 : ℕ) := by
        omega
      rw [div_lt_iff₀ hb', hexp, zpow_neg, ← natCast_pow, lt_inv_mul_iff₀ (by positivity)]
      exact_mod_cast (show 10 ^ (digitCount ((b - 1) / a) - 1) * a < b by omega)

/-- Only one power of ten is the greatest one that is not above a number. -/
theorem exponent_unique {v : ℚ} {e e' : ℤ} (hlow : (10 : ℚ) ^ e ≤ v) (hhigh : v < 10 ^ (e + 1))
    (hlow' : (10 : ℚ) ^ e' ≤ v) (hhigh' : v < 10 ^ (e' + 1)) : e = e' := by
  have hten : (1 : ℚ) < 10 := by norm_num
  have h := (zpow_lt_zpow_iff_right₀ hten).mp (lt_of_le_of_lt hlow hhigh')
  have h' := (zpow_lt_zpow_iff_right₀ hten).mp (lt_of_le_of_lt hlow' hhigh)
  omega

end Stencil.Number
