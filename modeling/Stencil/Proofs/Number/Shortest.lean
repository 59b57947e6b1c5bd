import Mathlib.Data.Nat.Cast.Order.Field
import Stencil.Number.Shortest
import Stencil.Proofs.Number.Exponent
import Stencil.Proofs.Number.Magnitude

/-!
# Shortest decimals

* `Decimal.exists_trimZeros`: leaving out zeros at the end keeps the value.
* `Magnitude.exists_shortest`: the shortest decimal has at most 17 digits, and it is not above the number
  by more than one half of the distance to the next number or of the weight of the 17th digit.
-/

namespace Stencil.Number

namespace Decimal

/-- Zeros at the end of the coefficient can be left out. -/
theorem trimZeros_mul {c : ℕ} (hc : c ≠ 0) (e : ℤ) (k : ℕ) :
    trimZeros ⟨c * 10 ^ k, e⟩ = trimZeros ⟨c, e + k⟩ := by
  induction k generalizing e with
  | zero => rw [Nat.pow_zero, Nat.mul_one, Nat.cast_zero, Int.add_zero]
  | succ k ih =>
    have hpos : c * 10 ^ k ≠ 0 := Nat.mul_ne_zero hc (Nat.pos_iff_ne_zero.mp (Nat.pow_pos (by decide)))
    rw [Nat.pow_succ, ← Nat.mul_assoc, trimZeros, dif_pos ⟨by simpa using hpos, Nat.mul_mod_left _ _⟩]
    rw [Nat.mul_div_cancel _ (by decide), ih]
    congr 2
    push_cast
    ring

/-- Leaving out zeros at the end moves the exponent. -/
theorem exists_trimZeros (d : Decimal) (h : d.coefficient ≠ 0) :
    ∃ k : ℕ, d.coefficient = d.trimZeros.coefficient * 10 ^ k ∧ d.trimZeros.exponent = d.exponent + k := by
  fun_induction trimZeros d with
  | case1 d hd ih =>
    obtain ⟨k, hcoefficient, hexponent⟩ := ih (by simp only; omega)
    refine ⟨k + 1, ?_, ?_⟩
    · rw [Nat.pow_succ, ← Nat.mul_assoc, ← hcoefficient]
      simp only
      omega
    · rw [hexponent]
      push_cast
      ring
  | case2 d hd => exact ⟨0, (Nat.mul_one _).symm, (Int.add_zero _).symm⟩

theorem value_trimZeros (d : Decimal) (h : d.coefficient ≠ 0) : d.trimZeros.value = d.value := by
  obtain ⟨k, hcoefficient, hexponent⟩ := exists_trimZeros d h
  rw [value, value, hcoefficient, hexponent, zpow_add₀ (by norm_num), Nat.cast_mul, natCast_pow]
  ring

/-- The value as a quotient. -/
theorem value_eq_div (d : Decimal) : d.value = d.numerator / d.denominator := by
  rw [value, numerator, denominator]
  split
  · obtain ⟨k, hk⟩ : ∃ k : ℕ, d.exponent = -k := ⟨d.exponent.natAbs, by omega⟩
    rw [hk, Int.natAbs_neg, Int.natAbs_natCast, natCast_pow, zpow_neg, div_eq_mul_inv]
  · obtain ⟨k, hk⟩ : ∃ k : ℕ, d.exponent = k := ⟨d.exponent.natAbs, by omega⟩
    rw [hk, Int.natAbs_natCast, Nat.cast_one, div_one, Nat.cast_mul, natCast_pow]

end Decimal

namespace Magnitude

open Decimal

variable {x : Magnitude} {tie : Tie}

/-- What reads back as a magnitude is not above the middle between it and the next one. -/
theorem value_le_of_readsBack {d : Decimal} (h : x.readsBack d = true) :
    d.value ≤ x.value + x.step / 2 := by
  have hle : 4 * unitsPerOne * d.numerator ≤ x.highEnd * d.denominator := by
    simp only [readsBack] at h
    split at h <;> simp only [Bool.and_eq_true, decide_eq_true_eq] at h <;> omega
  have hunit : (0 : ℚ) < unitsPerOne := by exact_mod_cast unitsPerOne_pos
  have hden : (0 : ℚ) < d.denominator := by
    have : 0 < d.denominator := by
      rw [denominator]
      split
      · exact Nat.pow_pos (by decide)
      · exact Nat.one_pos
    exact_mod_cast this
  -- In quarters of a unit the middle above is an integer, which is how the check compares.
  have hle : (4 : ℚ) * unitsPerOne * d.numerator ≤ (4 * x.units + 2 * (2 ^ x.scale : ℕ)) * d.denominator := by
    have hcast : ((4 * unitsPerOne * d.numerator : ℕ) : ℚ) ≤ (x.highEnd * d.denominator : ℕ) := by
      exact_mod_cast hle
    rw [highEnd, Nat.cast_mul, Nat.cast_mul, Nat.cast_mul, Nat.cast_add, Nat.cast_mul, Nat.cast_mul] at hcast
    exact hcast
  have hmiddle : x.value + x.step / 2 = (4 * x.units + 2 * (2 ^ x.scale : ℕ)) / (4 * unitsPerOne) := by
    rw [Magnitude.value, step]
    field_simp
    ring
  rw [value_eq_div, hmiddle, div_le_div_iff₀ hden (mul_pos (by norm_num) hunit)]
  linarith

/-- The integer part of a magnitude divided by a power of ten. -/
def floorAt (x : Magnitude) (e : ℤ) : ℕ :=
  (scaleDown x.units unitsPerOne e).1 / (scaleDown x.units unitsPerOne e).2

/-- A magnitude divided by a power of ten, as an integer. -/
def roundAt (tie : Tie) (x : Magnitude) (e : ℤ) : ℕ :=
  roundDiv tie (scaleDown x.units unitsPerOne e).1 (scaleDown x.units unitsPerOne e).2

theorem roundAt_bounds (tie : Tie) (x : Magnitude) (e : ℤ) :
    (roundAt tie x e : ℚ) - 1 / 2 ≤ x.value / 10 ^ e ∧ x.value / 10 ^ e ≤ roundAt tie x e + 1 / 2 := by
  have h := roundDiv_bounds tie (scaleDown x.units unitsPerOne e).1
    (scaleDown_pos x.units unitsPerOne_pos e)
  rwa [scaleDown_eq] at h

theorem roundAt_eq (tie : Tie) (x : Magnitude) (e : ℤ) :
    roundAt tie x e = floorAt x e ∨ roundAt tie x e = floorAt x e + 1 := by
  have hle := le_roundDiv tie (scaleDown x.units unitsPerOne e).1 (scaleDown x.units unitsPerOne e).2
  have hge := roundDiv_le tie (scaleDown x.units unitsPerOne e).1 (scaleDown x.units unitsPerOne e).2
  rw [roundAt, floorAt]
  omega

theorem floorAt_le (x : Magnitude) (e : ℤ) : (⟨floorAt x e, e⟩ : Decimal).value ≤ x.value := by
  have hpos : (0 : ℚ) < 10 ^ e := by positivity
  have hquotient := scaleDown_eq x.units unitsPerOne e
  rw [← value] at hquotient
  rw [value_mk, ← le_div_iff₀ hpos, ← hquotient]
  exact Nat.cast_div_le

/-- The integer part has `n` digits at the exponent of the `n`th digit. -/
theorem floorAt_bounds (h : x.isZero = false) {n : ℕ} (hn : 1 ≤ n) :
    10 ^ (n - 1) ≤ floorAt x (x.exponent - (n - 1 : ℕ)) ∧
      floorAt x (x.exponent - (n - 1 : ℕ)) < 10 ^ n := by
  obtain ⟨hle, hlt⟩ := exponent_spec h
  have hquotient := scaleDown_eq x.units unitsPerOne (x.exponent - (n - 1 : ℕ))
  rw [← value] at hquotient
  have hden := scaleDown_pos x.units unitsPerOne_pos (x.exponent - (n - 1 : ℕ))
  have hpos : (0 : ℚ) < 10 ^ (x.exponent - (n - 1 : ℕ)) := by positivity
  have hden' : (0 : ℚ) < (scaleDown x.units unitsPerOne (x.exponent - (n - 1 : ℕ))).2 := by
    exact_mod_cast hden
  rw [floorAt]
  constructor
  · rw [Nat.le_div_iff_mul_le hden]
    have hle : (10 : ℚ) ^ ((n - 1 : ℕ) : ℤ) ≤ x.value / 10 ^ (x.exponent - (n - 1 : ℕ)) := by
      rw [le_div_iff₀ hpos, ← zpow_add₀ (by norm_num)]
      exact (congrArg _ (by omega)).trans_le hle
    rw [← hquotient, le_div_iff₀ hden', ← natCast_pow] at hle
    exact_mod_cast hle
  · rw [Nat.div_lt_iff_lt_mul hden]
    have hlt : x.value / 10 ^ (x.exponent - (n - 1 : ℕ)) < (10 : ℚ) ^ (n : ℤ) := by
      rw [div_lt_iff₀ hpos, ← zpow_add₀ (by norm_num)]
      exact hlt.trans_eq (congrArg _ (by omega))
    rw [← hquotient, div_lt_iff₀ hden', ← natCast_pow] at hlt
    exact_mod_cast hlt

theorem nearestOf_eq (tie : Tie) (x : Magnitude) {n : ℕ} {e : ℤ} (he : x.exponent - (n - 1 : ℕ) = e) :
    x.nearestOf tie n = ⟨roundAt tie x e, e⟩ := by
  unfold exponent at he
  unfold nearestOf
  simp only [he, roundAt]

/-- A decimal of `n` digits around a magnitude. -/
theorem shortestOf?_spec (h : x.isZero = false) {n : ℕ} (hn : 1 ≤ n) {d : Decimal}
    (hd : x.shortestOf? tie n = some d) :
    ∃ c, d = ⟨c, x.exponent - (n - 1 : ℕ)⟩ ∧ 0 < c ∧ c ≤ 10 ^ n ∧
      d.value ≤ x.value + x.step / 2 := by
  obtain ⟨hlow, hhigh⟩ := floorAt_bounds h hn
  have hten : 0 < 10 ^ (n - 1) := Nat.pow_pos (by decide)
  have hstep := x.step_pos
  generalize he : x.exponent - ((n - 1 : ℕ) : ℤ) = e at *
  have hfloorAt : (scaleDown x.units unitsPerOne e).1 / (scaleDown x.units unitsPerOne e).2 =
      floorAt x e := rfl
  have hroundAt : roundDiv tie (scaleDown x.units unitsPerOne e).1 (scaleDown x.units unitsPerOne e).2 =
      roundAt tie x e := rfl
  unfold exponent at he
  unfold shortestOf? at hd
  simp only [he, hfloorAt, hroundAt] at hd
  have hfloor : (⟨floorAt x e, e⟩ : Decimal).value ≤ x.value + x.step / 2 :=
    (floorAt_le x e).trans (by linarith)
  -- A decimal that is rounded down is not above the number; one that is rounded up reads back.
  split at hd
  · rename_i hup
    obtain rfl := Option.some.inj hd
    rcases roundAt_eq tie x e with hround | hround <;> rw [hround]
    · exact ⟨_, rfl, by omega, by omega, hfloor⟩
    · exact ⟨_, rfl, by omega, by omega, value_le_of_readsBack hup⟩
  · obtain rfl := Option.some.inj hd
    exact ⟨_, rfl, by omega, by omega, hfloor⟩
  · rename_i hup
    obtain rfl := Option.some.inj hd
    exact ⟨_, rfl, by omega, by omega, value_le_of_readsBack hup⟩
  · cases hd

/-- The nearest decimal of `n` digits. -/
theorem nearestOf_spec (tie : Tie) (h : x.isZero = false) {n : ℕ} (hn : 1 ≤ n) :
    ∃ c, x.nearestOf tie n = ⟨c, x.exponent - (n - 1 : ℕ)⟩ ∧ 0 < c ∧ c ≤ 10 ^ n ∧
      (x.nearestOf tie n).value ≤ x.value + 10 ^ (x.exponent - (n - 1 : ℕ)) / 2 := by
  obtain ⟨hlow, hhigh⟩ := floorAt_bounds h hn
  have hten : 0 < 10 ^ (n - 1) := Nat.pow_pos (by decide)
  generalize he : x.exponent - ((n - 1 : ℕ) : ℤ) = e at *
  rw [nearestOf_eq tie x he]
  have hpos : (0 : ℚ) < 10 ^ e := by positivity
  have hround := (roundAt_bounds tie x e).1
  rw [le_div_iff₀ hpos] at hround
  refine ⟨_, rfl, ?_, ?_, ?_⟩
  · rcases roundAt_eq tie x e with h | h <;> omega
  · rcases roundAt_eq tie x e with h | h <;> omega
  · rw [value_mk]
    linarith

/-- The shortest decimal, before the zeros at its end are left out. -/
theorem exists_shortest (tie : Tie) (h : x.isZero = false) :
    ∃ n c : ℕ, 1 ≤ n ∧ n ≤ 17 ∧ 0 < c ∧ c ≤ 10 ^ n ∧
      x.shortest tie = trimZeros ⟨c, x.exponent - (n - 1 : ℕ)⟩ ∧
      ((⟨c, x.exponent - (n - 1 : ℕ)⟩ : Decimal).value ≤ x.value + x.step / 2 ∨
        (⟨c, x.exponent - (n - 1 : ℕ)⟩ : Decimal).value ≤ x.value + 10 ^ (x.exponent - 16) / 2) := by
  simp only [shortest, h, Bool.false_eq_true, if_false]
  cases hfound : (List.range' 1 17).findSome? (x.shortestOf? tie) with
  | some d =>
    obtain ⟨n, hn, hd⟩ := List.exists_of_findSome?_eq_some hfound
    obtain ⟨hlow, hhigh⟩ := List.mem_range'_1.mp hn
    obtain ⟨c, rfl, hc, hle, hvalue⟩ := shortestOf?_spec h hlow hd
    exact ⟨n, c, hlow, by omega, hc, hle, rfl, .inl hvalue⟩
  | none =>
    obtain ⟨c, hd, hc, hle, hvalue⟩ := nearestOf_spec tie h (show 1 ≤ 17 by decide)
    refine ⟨17, c, by decide, le_refl _, hc, hle, ?_, .inr ?_⟩
    · rw [Option.getD_none, hd]
    · rw [hd] at hvalue
      exact hvalue

/-- The shortest decimal has at most 17 digits, and it is not above the number by more than the greatest
magnitude is below the middle above it. -/
theorem shortest_spec (tie : Tie) (h : x.isZero = false) :
    0 < (x.shortest tie).coefficient ∧ (x.shortest tie).coefficient ≤ 10 ^ 17 ∧
      (x.shortest tie).value ≤ x.value + overflowGap / unitsPerOne := by
  obtain ⟨n, c, hn, hn', hc, hle, hd, hvalue⟩ := exists_shortest tie h
  obtain ⟨k, hcoefficient, -⟩ := exists_trimZeros ⟨c, x.exponent - (n - 1 : ℕ)⟩ hc.ne'
  rw [← hd] at hcoefficient
  rw [hd, value_trimZeros _ hc.ne', ← hd]
  have hunit : (0 : ℚ) < unitsPerOne := by exact_mod_cast unitsPerOne_pos
  simp only at hcoefficient
  refine ⟨Nat.pos_of_ne_zero fun h0 => ?_, ?_, ?_⟩
  · rw [h0, Nat.zero_mul] at hcoefficient
    omega
  · calc (x.shortest tie).coefficient ≤ c := by
          rw [hcoefficient]
          exact Nat.le_mul_of_pos_right _ (Nat.pow_pos (by decide))
      _ ≤ 10 ^ n := hle
      _ ≤ 10 ^ 17 := Nat.pow_le_pow_right (by decide) hn'
  -- It is above by half a step or by half a unit of the 17th digit at most, and neither is beyond the bound.
  · rcases hvalue with hvalue | hvalue
    · have hstep : (2 ^ x.scale : ℕ) ≤ (2 : ℚ) * overflowGap := by
        exact_mod_cast two_pow_scale_le x
      have hhalf : x.step / 2 ≤ overflowGap / unitsPerOne := by
        rw [step, div_div, div_le_div_iff₀ (mul_pos hunit (by norm_num)) hunit]
        have := mul_le_mul_of_nonneg_right hstep hunit.le
        linarith
      linarith
    · have hgap : 10 ^ 292 * unitsPerOne ≤ 2 * overflowGap := by decide +kernel
      have hgap : ((10 ^ 292 : ℕ) : ℚ) * unitsPerOne ≤ 2 * overflowGap := by exact_mod_cast hgap
      have hweight : (10 : ℚ) ^ (x.exponent - 16) ≤ (10 ^ 292 : ℕ) := by
        rw [natCast_pow]
        have := (exponent_bounds h).2
        exact zpow_le_zpow_right₀ (by norm_num) (by omega)
      have hhalf : (10 : ℚ) ^ (x.exponent - 16) / 2 ≤ overflowGap / unitsPerOne := by
        rw [div_le_div_iff₀ (by norm_num) hunit]
        have := mul_le_mul_of_nonneg_right hweight hunit.le
        linarith
      linarith

end Magnitude

end Stencil.Number
