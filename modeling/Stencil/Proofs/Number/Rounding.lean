import Mathlib.Algebra.Order.Field.Rat
import Mathlib.Tactic.Linarith
import Mathlib.Tactic.NormNum
import Stencil.Number.Binary64

/-!
# The error of rounding a quotient

Rounding changes a quotient by at most one half. So a quotient that is less than one half away from an
integer is rounded to it, whatever becomes of ties. With ties to the even integer, a quotient that is rounded
to an odd one is no tie.
-/

namespace Stencil.Number

variable {a b n : ℕ}

/-- Twice a quotient, multiplied out, is at most one denominator away from twice what it is rounded to. -/
theorem roundDiv_mul_bounds (tie : Tie) (a : ℕ) (hb : 0 < b) :
    2 * (roundDiv tie a b * b) ≤ 2 * a + b ∧ 2 * a ≤ 2 * (roundDiv tie a b * b) + b := by
  have hdiv := Nat.div_add_mod a b
  have hmod := Nat.mod_lt a hb
  simp only [roundDiv]
  generalize a / b = q at *
  generalize a % b = r at *
  subst hdiv
  have hcomm : b * q = q * b := Nat.mul_comm ..
  have hsucc : (q + 1) * b = q * b + b := Nat.succ_mul ..
  have heven : (q + q % 2) * b = q * b ∨ (q + q % 2) * b = q * b + b := by
    rcases Nat.mod_two_eq_zero_or_one q with h | h <;> simp [h, hsucc]
  split
  · omega
  split
  · omega
  cases tie with
  | even => rcases heven with h | h <;> simp only [h] <;> omega
  | away =>
    simp only
    omega

/-- Rounding changes a quotient by at most one half. -/
theorem roundDiv_bounds (tie : Tie) (a : ℕ) (hb : 0 < b) :
    (roundDiv tie a b : ℚ) - 1 / 2 ≤ a / b ∧ (a : ℚ) / b ≤ roundDiv tie a b + 1 / 2 := by
  have hb' : (0 : ℚ) < b := by exact_mod_cast hb
  obtain ⟨hle, hge⟩ := roundDiv_mul_bounds tie a hb
  constructor
  · rw [le_div_iff₀ hb']
    have h : ((2 * (roundDiv tie a b * b) : ℕ) : ℚ) ≤ ((2 * a + b : ℕ) : ℚ) := by
      exact_mod_cast hle
    push_cast at h
    linarith
  · rw [div_le_iff₀ hb']
    have h : ((2 * a : ℕ) : ℚ) ≤ ((2 * (roundDiv tie a b * b) + b : ℕ) : ℚ) := by
      exact_mod_cast hge
    push_cast at h
    linarith

/-- A quotient that is less than one half away from an integer is rounded to it. -/
theorem roundDiv_eq_of_lt (tie : Tie) (hb : 0 < b) (hlow : (n : ℚ) - 1 / 2 < a / b)
    (hhigh : (a : ℚ) / b < n + 1 / 2) : roundDiv tie a b = n := by
  obtain ⟨hle, hge⟩ := roundDiv_bounds tie a hb
  have hlt : (roundDiv tie a b : ℚ) < n + 1 := by linarith
  have hgt : (n : ℚ) < roundDiv tie a b + 1 := by linarith
  have hlt : roundDiv tie a b < n + 1 := by exact_mod_cast hlt
  have hgt : n < roundDiv tie a b + 1 := by exact_mod_cast hgt
  omega

/-- A tie next to an even integer is rounded to it. -/
theorem roundDiv_even_eq (hb : 0 < b) (hn : n % 2 = 0) (hlow : (n : ℚ) - 1 / 2 ≤ a / b)
    (hhigh : (a : ℚ) / b ≤ n + 1 / 2) : roundDiv .even a b = n := by
  have hb' : (0 : ℚ) < b := by exact_mod_cast hb
  have hlow : 2 * (n * b) ≤ 2 * a + b := by
    rw [le_div_iff₀ hb'] at hlow
    have h : (2 : ℚ) * (n * b) ≤ 2 * a + b := by linarith
    exact_mod_cast h
  have hhigh : 2 * a ≤ 2 * (n * b) + b := by
    rw [div_le_iff₀ hb'] at hhigh
    have h : (2 : ℚ) * a ≤ 2 * (n * b) + b := by linarith
    exact_mod_cast h
  have hdiv := Nat.div_add_mod a b
  have hmod := Nat.mod_lt a hb
  simp only [roundDiv]
  generalize a / b = q at *
  generalize a % b = r at *
  subst hdiv
  have hle : q ≤ n := by
    by_contra hlt
    have := Nat.mul_le_mul_right b (show n + 1 ≤ q by omega)
    rw [Nat.succ_mul, Nat.mul_comm q] at this
    omega
  have hge : n ≤ q + 1 := by
    by_contra hlt
    have := Nat.mul_le_mul_right b (show q + 2 ≤ n by omega)
    rw [Nat.add_mul, Nat.mul_comm q] at this
    omega
  -- The integer part is `n`, where a tie stays, or the odd number below it, from which a tie goes up.
  rcases Nat.eq_or_lt_of_le hle with rfl | hlt
  · rw [Nat.mul_comm q] at hhigh
    rw [if_neg (show ¬ b < 2 * r by omega), hn]
    exact ite_self _
  · obtain rfl : n = q + 1 := by omega
    rw [Nat.add_mul q, Nat.mul_comm q] at hlow
    rw [if_neg (show ¬ 2 * r < b by omega), show q % 2 = 1 by omega]
    exact ite_self _

/-- A quotient that is rounded to an odd integer is no tie. -/
theorem roundDiv_bounds_of_odd (hb : 0 < b) (hodd : roundDiv .even a b % 2 = 1) :
    (roundDiv .even a b : ℚ) - 1 / 2 < a / b ∧ (a : ℚ) / b < roundDiv .even a b + 1 / 2 := by
  obtain ⟨hlow, hhigh⟩ := roundDiv_bounds .even a hb
  obtain ⟨k, hk⟩ : ∃ k, roundDiv .even a b = k + 1 := ⟨roundDiv .even a b - 1, by omega⟩
  have hcast : (roundDiv .even a b : ℚ) = k + 1 := by
    rw [hk]
    push_cast
    rfl
  constructor
  · refine lt_of_le_of_ne hlow fun htie => ?_
    have heven := roundDiv_even_eq (a := a) hb (show k % 2 = 0 by omega) (by linarith) (by linarith)
    omega
  · refine lt_of_le_of_ne hhigh fun htie => ?_
    have heven := roundDiv_even_eq (a := a) (n := k + 2) hb (by omega) (by push_cast; linarith)
      (by push_cast; linarith)
    omega

/-- Twice such a quotient, multiplied out. -/
theorem two_mul_lt_of_odd (hb : 0 < b) (hodd : roundDiv .even a b % 2 = 1) :
    2 * a < 2 * (roundDiv .even a b * b) + b := by
  have hb' : (0 : ℚ) < b := by exact_mod_cast hb
  have hlt := (roundDiv_bounds_of_odd hb hodd).2
  rw [div_lt_iff₀ hb'] at hlt
  have hlt : (2 * a : ℚ) < 2 * (roundDiv .even a b * b) + b := by linarith
  exact_mod_cast hlt

end Stencil.Number
