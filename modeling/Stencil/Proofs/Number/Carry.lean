import Mathlib.Data.Nat.Cast.Order.Field
import Stencil.Proofs.Number.Fixed
import Stencil.Proofs.Number.Numeral

/-!
# Carries

Rounding to a number of places can give a number one digit more in front of the point. Rounding half up
does so from the middle below the next power of ten on. A tie that is moved by a step that is too long does
so if the step ends at this power.

* `Magnitude.Carries`, `Magnitude.CarriesOver`: the two ways in which a number gets another digit.
* `Magnitude.le_fixedCoefficient_iff`: there is no other way.
* `Magnitude.digitCount_fixedCoefficient`: it is one digit at most.
* `Magnitude.CarriesOver.step_eq`: the length of a step that is too long and ends at a power of ten.
* `Magnitude.CarriesOver.not_carriesOver`, `Magnitude.CarriesOver.carries_iff`: with one place less.
-/

namespace Stencil.Number

theorem digitCount_mono {m n : ℕ} (h : m ≤ n) : digitCount m ≤ digitCount n :=
  (digitCount_le_iff (digitCount_pos n)).mpr (h.trans_lt (lt_pow_digitCount n))

theorem digitCount_pow (k : ℕ) : digitCount (10 ^ k) = k + 1 := by
  refine le_antisymm ((digitCount_le_iff (Nat.succ_pos k)).mpr ?_) ?_
  · exact Nat.pow_lt_pow_right (by decide) (Nat.lt_succ_self k)
  · rcases Nat.eq_zero_or_pos k with rfl | hk
    · exact digitCount_pos _
    · exact (lt_digitCount_iff hk).mpr (le_refl _)

theorem length_numeral (n : ℕ) : (numeral 10 n).length = digitCount n := List.length_map _

namespace Magnitude

variable {x : Magnitude} {places : ℕ}

/-! ## The integer part -/

theorem floor_le_value (x : Magnitude) : (x.floor : ℚ) ≤ x.value := Nat.cast_div_le

theorem value_lt_floor_add_one (x : Magnitude) : x.value < x.floor + 1 := by
  have hunit : (0 : ℚ) < unitsPerOne := by exact_mod_cast unitsPerOne_pos
  rw [value, div_lt_iff₀ hunit]
  exact_mod_cast Nat.lt_mul_of_div_lt (Nat.lt_succ_self _) unitsPerOne_pos

/-- The power of ten above a number, which has one digit more in front of the point. -/
def nextPower (x : Magnitude) : ℕ := 10 ^ digitCount x.floor

theorem value_lt_nextPower (x : Magnitude) : x.value < x.nextPower := by
  have hle : (x.floor : ℚ) + 1 ≤ x.nextPower := by exact_mod_cast lt_pow_digitCount x.floor
  exact x.value_lt_floor_add_one.trans_le hle

/-- A tie behind the point is a number of steps below every integer. -/
theorem exists_eq_mul_step (h : IsHalfway places x.value) (n : ℕ) : ∃ k : ℕ, (n : ℚ) = k * x.step := by
  have htie := (isTie_iff x places).mpr h
  have hzero : x.isZero = false := by
    cases hz : x.isZero with
    | false => rfl
    | true => simp [isTie, hz] at htie
  obtain ⟨hplace, -⟩ := (isTie_iff_of_ne_zero hzero).mp htie
  have hscale : (x.scale : ℤ) - 1074 = -(1074 - x.scale : ℕ) := by omega
  refine ⟨n * 2 ^ (1074 - x.scale), ?_⟩
  rw [step_eq, hscale, zpow_neg, Nat.cast_mul, natCast_pow, mul_assoc, mul_inv_cancel₀ (by positivity),
    mul_one]

/-- The step of a tie ends below the next power of ten by at least one more step, or at it. -/
theorem value_add_step_le (h : IsHalfway places x.value) :
    x.value + x.step = x.nextPower ∨ x.value + x.step + x.step ≤ x.nextPower := by
  obtain ⟨k, hk⟩ := exists_eq_mul_step h x.nextPower
  have hstep := x.step_pos
  have hlt := x.value_lt_nextPower
  rw [hk, value_eq] at hlt ⊢
  have hlt : x.mantissa + 1 ≤ k := by
    have h := lt_of_mul_lt_mul_right hlt hstep.le
    exact_mod_cast h
  rcases Nat.eq_or_lt_of_le hlt with hk | hk
  · left
    rw [← hk]
    push_cast
    ring
  · right
    have hk : (x.mantissa : ℚ) + 1 + 1 ≤ k := by exact_mod_cast hk
    have hle := mul_le_mul_of_nonneg_right hk hstep.le
    linarith

theorem offTie_value_le (places : ℕ) (x : Magnitude) : (x.offTie places).value ≤ x.nextPower := by
  by_cases htie : IsHalfway places x.value
  · rw [value_offTie_of_isHalfway htie]
    have hstep := x.step_pos
    rcases value_add_step_le htie with h | h <;> linarith
  · rw [offTie_of_not_isHalfway htie]
    exact x.value_lt_nextPower.le

/-! ## Carries -/

/-- Rounded half up to so many places, a number has one digit more in front of the point. -/
def Carries (places : ℕ) (x : Magnitude) : Prop :=
  (x.nextPower : ℚ) ≤ x.value + 10 ^ (-(places : ℤ)) / 2

/-- The step of a tie is longer than the distance of the multiples, and ends at the next power of ten. -/
def CarriesOver (places : ℕ) (x : Magnitude) : Prop :=
  x.Oversteps places ∧ x.value + x.step = x.nextPower

theorem Carries.pred (h : x.Carries (places + 1)) : x.Carries places := by
  have hle : (10 : ℚ) ^ (-((places + 1 : ℕ) : ℤ)) ≤ 10 ^ (-(places : ℤ)) :=
    zpow_le_zpow_right₀ (by norm_num) (by omega)
  rw [Carries] at h ⊢
  linarith

theorem carries_iff : x.Carries places ↔
    (x.nextPower * 10 ^ places : ℕ) - 1 / 2 ≤ x.value * 10 ^ (places : ℤ) := by
  have hpow : (0 : ℚ) < 10 ^ (places : ℤ) := by positivity
  rw [Carries, ← mul_le_mul_iff_left₀ hpow, add_mul, div_mul_eq_mul_div, zpow_neg,
    inv_mul_cancel₀ hpow.ne', Nat.cast_mul, natCast_pow, sub_le_iff_le_add]

/-- The coefficient of a moved tie is at most one half away from it. -/
theorem fixedCoefficient_bounds (places : ℕ) (x : Magnitude) :
    (x.fixedCoefficient places : ℚ) - 1 / 2 ≤ x.value * 10 ^ (places : ℤ) ∧
      x.value * 10 ^ (places : ℤ) ≤ x.fixedCoefficient places + 1 / 2 := by
  have h := roundDiv_bounds .even (x.units * 10 ^ places) unitsPerOne_pos
  rwa [value_mul_eq] at h

theorem le_fixedCoefficient (places : ℕ) (x : Magnitude) :
    x.floor * 10 ^ places ≤ (x.offTie places).fixedCoefficient places := by
  have hpow : (0 : ℚ) < 10 ^ (places : ℤ) := by positivity
  have hround := ((x.offTie places).fixedCoefficient_bounds places).2
  have hfloor := mul_le_mul_of_nonneg_right
    ((floor_le_value x).trans (value_le_offTie x places)) hpow.le
  have hlt : ((x.floor * 10 ^ places : ℕ) : ℚ) < (x.offTie places).fixedCoefficient places + 1 := by
    rw [Nat.cast_mul, natCast_pow]
    linarith
  exact Nat.lt_succ_iff.mp (by exact_mod_cast hlt)

theorem fixedCoefficient_le (places : ℕ) (x : Magnitude) :
    (x.offTie places).fixedCoefficient places ≤ x.nextPower * 10 ^ places := by
  have hpow : (0 : ℚ) < 10 ^ (places : ℤ) := by positivity
  have hround := ((x.offTie places).fixedCoefficient_bounds places).1
  have hle := mul_le_mul_of_nonneg_right (x.offTie_value_le places) hpow.le
  have hlt : ((x.offTie places).fixedCoefficient places : ℚ) < (x.nextPower * 10 ^ places : ℕ) + 1 := by
    rw [Nat.cast_mul, natCast_pow]
    linarith
  exact Nat.lt_succ_iff.mp (by exact_mod_cast hlt)

/-- A tie that oversteps is not rounded half up to the next power of ten. -/
theorem Oversteps.not_carries (h : x.Oversteps places) : ¬ x.Carries places := by
  intro hcarries
  have hpow : (0 : ℚ) < 10 ^ (places : ℤ) := by positivity
  obtain ⟨htie, hlong⟩ := h
  rw [carries_iff, Nat.cast_mul, natCast_pow] at hcarries
  rcases value_add_step_le htie with h | h
  · rw [← h, add_mul] at hcarries
    linarith
  · have hle := mul_le_mul_of_nonneg_right h hpow.le
    rw [add_mul, add_mul] at hle
    linarith

/-- A number gets another digit in front of the point by rounding half up or by a step that is too
long. -/
theorem le_fixedCoefficient_iff : x.nextPower * 10 ^ places ≤ (x.offTie places).fixedCoefficient places ↔
    x.Carries places ∨ x.CarriesOver places := by
  have hpow : (0 : ℚ) < 10 ^ (places : ℤ) := by positivity
  -- A tie that oversteps is rounded from the next float, and any other number half up.
  by_cases hover : x.Oversteps places
  · have hround := (x.offTie places).fixedCoefficient_bounds places
    rw [value_offTie_of_isHalfway hover.1] at hround
    rw [or_iff_right hover.not_carries, CarriesOver, and_iff_right hover]
    constructor
    · intro hle
      have hle : ((x.nextPower * 10 ^ places : ℕ) : ℚ) ≤ (x.offTie places).fixedCoefficient places := by
        exact_mod_cast hle
      rw [Nat.cast_mul, natCast_pow] at hle
      refine (value_add_step_le hover.1).resolve_right fun h => ?_
      have hmul := mul_le_mul_of_nonneg_right h hpow.le
      have hlong := hover.2
      rw [add_mul] at hmul
      linarith
    · intro h
      rw [h] at hround
      have hlt : ((x.nextPower * 10 ^ places : ℕ) : ℚ) < (x.offTie places).fixedCoefficient places + 1 := by
        rw [Nat.cast_mul, natCast_pow]
        linarith
      exact Nat.lt_succ_iff.mp (by exact_mod_cast hlt)
  · obtain ⟨n, ⟨hlow, hhigh⟩, hlow', hhigh'⟩ := exists_halfUp hover
    rw [← value_mul_eq] at hlow' hhigh'
    have hnot : ¬ x.CarriesOver places := fun h => hover h.1
    rw [fixedCoefficient, roundDiv_eq_of_lt .even unitsPerOne_pos hlow' hhigh', or_iff_left hnot,
      carries_iff]
    constructor
    · intro hle
      have hle : ((x.nextPower * 10 ^ places : ℕ) : ℚ) ≤ n := by exact_mod_cast hle
      linarith
    · intro hle
      have hlt : ((x.nextPower * 10 ^ places : ℕ) : ℚ) < n + 1 := by linarith
      exact Nat.lt_succ_iff.mp (by exact_mod_cast hlt)

open Classical in
/-- The number of digits in front of the point. -/
theorem digitCount_fixedCoefficient (places : ℕ) (x : Magnitude) :
    digitCount ((x.offTie places).fixedCoefficient places / 10 ^ places) =
      digitCount x.floor + if x.Carries places ∨ x.CarriesOver places then 1 else 0 := by
  have hpow : 0 < 10 ^ places := Nat.pow_pos (by decide)
  have hle := x.fixedCoefficient_le places
  split
  · rename_i hcarries
    rw [le_antisymm hle (le_fixedCoefficient_iff.mpr hcarries), Nat.mul_div_cancel _ hpow, nextPower,
      digitCount_pow]
  · rename_i hcarries
    rw [← le_fixedCoefficient_iff, Nat.not_le] at hcarries
    rw [Nat.add_zero]
    refine le_antisymm ((digitCount_le_iff (digitCount_pos _)).mpr ?_) (digitCount_mono ?_)
    · exact (Nat.div_lt_iff_lt_mul hpow).mpr hcarries
    · exact (Nat.le_div_iff_mul_le hpow).mpr (x.le_fixedCoefficient places)

/-- A step that ends at an integer is an odd multiple of half the distance, as the tie is. -/
theorem CarriesOver.step_eq (h : x.CarriesOver places) : x.step = 2 ^ (-(places + 1 : ℤ)) := by
  obtain ⟨⟨htie, -⟩, hsum⟩ := h
  obtain ⟨r, hodd, hr⟩ := isHalfway_iff.mp htie
  have hpower : (x.value + x.step) * 10 ^ (places : ℤ) * 2 = (x.nextPower * 10 ^ places * 2 : ℕ) := by
    rw [hsum, Nat.cast_mul, Nat.cast_mul, natCast_pow]
    norm_num
  have hpos : 0 < x.step * 10 ^ (places : ℤ) * 2 :=
    mul_pos (mul_pos x.step_pos (by positivity)) (by norm_num)
  have hlt : r < x.nextPower * 10 ^ places * 2 := by
    have hlt : (r : ℚ) < (x.nextPower * 10 ^ places * 2 : ℕ) := by linarith
    exact_mod_cast hlt
  have hstep : ((1 : ℕ) : ℚ) * 2 ^ ((x.scale : ℤ) - 1074 + (places + 1)) * 5 ^ (places : ℤ) =
      (x.nextPower * 10 ^ places * 2 - r : ℕ) := by
    rw [Nat.cast_sub hlt.le, ← hpower, ← hr, Magnitude.step_eq, ten_zpow_eq, zpow_add₀ (by norm_num),
      zpow_add_one₀ (by norm_num)]
    push_cast
    ring
  have he := ((exists_odd_eq_iff (by decide) _ _).mp ⟨_, by omega, hstep⟩).1
  rw [Magnitude.step_eq]
  congr 1
  omega

/-- With one place less a number gets no other digit by the step that is too long. -/
theorem CarriesOver.not_carriesOver (h : x.CarriesOver (places + 1)) : ¬ x.CarriesOver places := by
  intro h'
  have hstep := h.step_eq.symm.trans h'.step_eq
  have he := zpow_right_injective₀ (by norm_num) (by norm_num) hstep
  push_cast at he
  omega

/-- Nor does it get one by rounding half up, unless to an integer. -/
theorem CarriesOver.carries_iff (h : x.CarriesOver (places + 1)) : x.Carries places ↔ places = 0 := by
  have hpow : (0 : ℚ) < 10 ^ (places : ℤ) := by positivity
  have hstep : x.step * 2 * 10 ^ (places : ℤ) * 10 = (5 ^ (places + 1) : ℕ) := by
    rw [h.step_eq, natCast_pow, ten_zpow_eq, zpow_neg, Nat.cast_succ, zpow_add_one₀ (by norm_num),
      zpow_add_one₀ (by norm_num), zpow_add_one₀ (by norm_num)]
    field_simp
    norm_num
  have hle : x.Carries places ↔ 5 ^ (places + 1) ≤ 10 := by
    rw [Carries, ← h.2, add_le_add_iff_left, zpow_neg, le_div_iff₀ (by norm_num),
      ← one_div, le_div_iff₀ hpow, ← @Nat.cast_le ℚ, ← hstep]
    push_cast
    constructor <;> intro h <;> linarith
  rw [hle]
  cases places with
  | zero => exact iff_of_true (by decide) rfl
  | succ p =>
    have := Nat.pow_pos (n := p) (show 0 < 5 by decide)
    rw [Nat.pow_succ, Nat.pow_succ]
    omega

end Magnitude

end Stencil.Number
