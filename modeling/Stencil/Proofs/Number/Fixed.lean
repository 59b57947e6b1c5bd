import Stencil.Proofs.Number.Rounding
import Stencil.Proofs.Number.Tie

/-!
# Rounding after a step

A tie that has moved by one step is rounded up, as it should be, if the step is shorter than the distance
of the multiples. If it is longer, the result is at least one multiple too large. A magnitude that is no
tie is rounded as it is.

* `Magnitude.exists_halfUp`: what does not overstep is rounded half up.
* `Magnitude.isNearest_fixed_iff`: the nearest decimal with so many places.
* `Magnitude.roundSignificant_nearest`: no decimal with so many digits is nearer.
* `Magnitude.isNearest_roundSignificant_iff`: the nearest decimal with so many digits.
-/

namespace Stencil.Number

open Decimal

namespace Magnitude

variable {x : Magnitude} {place : ℤ} {places : ℕ}

/-! ## The step -/

/-- Some integer is at most one half away from a magnitude at a place. -/
theorem exists_round (x : Magnitude) (place : ℤ) :
    ∃ n : ℕ, (n : ℚ) - 1 / 2 ≤ x.value * 10 ^ place ∧ x.value * 10 ^ place ≤ n + 1 / 2 := by
  have hquotient := scaleDown_eq x.units unitsPerOne (-place)
  rw [zpow_neg, div_inv_eq_mul] at hquotient
  have h := roundDiv_bounds .even (scaleDown x.units unitsPerOne (-place)).1
    (scaleDown_pos x.units unitsPerOne_pos (-place))
  rw [hquotient] at h
  exact ⟨_, h⟩

/-- The step of a tie is never the distance of the multiples. -/
theorem step_ne_of_isHalfway (h : IsHalfway place x.value) : x.step * 10 ^ place ≠ 1 := by
  intro hstep
  obtain ⟨k, hk⟩ := h
  rw [value_eq, mul_assoc, hstep, mul_one] at hk
  have hk : 2 * x.mantissa = 2 * k + 1 := by
    have h : (2 : ℚ) * x.mantissa = 2 * k + 1 := by linarith
    exact_mod_cast h
  omega

/-- What does not overstep is rounded half up, and after the step it is no tie. -/
theorem exists_halfUp (h : ¬ x.Oversteps place) :
    ∃ n : ℕ, ((n : ℚ) - 1 / 2 ≤ x.value * 10 ^ place ∧ x.value * 10 ^ place < n + 1 / 2) ∧
      (n : ℚ) - 1 / 2 < (x.offTie place).value * 10 ^ place ∧
      (x.offTie place).value * 10 ^ place < n + 1 / 2 := by
  by_cases htie : IsHalfway place x.value
  · have hpos : 0 < x.step * 10 ^ place := mul_pos x.step_pos (by positivity)
    have hlt : x.step * 10 ^ place < 1 :=
      lt_of_le_of_ne (not_lt.mp fun hlt => h ⟨htie, hlt⟩) (step_ne_of_isHalfway htie)
    rw [value_offTie_of_isHalfway htie, add_mul]
    obtain ⟨k, hk⟩ := htie
    refine ⟨k + 1, ?_⟩
    rw [hk]
    push_cast
    refine ⟨⟨?_, ?_⟩, ?_, ?_⟩ <;> linarith
  · rw [offTie_of_not_isHalfway htie]
    obtain ⟨n, hlow, hhigh⟩ := x.exists_round place
    have hhigh : x.value * 10 ^ place < n + 1 / 2 := lt_of_le_of_ne hhigh fun h => htie ⟨n, h⟩
    refine ⟨n, ⟨hlow, hhigh⟩, lt_of_le_of_ne hlow fun heq => ?_, hhigh⟩
    -- Only zero is less than one half away from the integer zero.
    cases n with
    | zero =>
      have hnonneg : 0 ≤ x.value * 10 ^ place := mul_nonneg x.value_nonneg (by positivity)
      rw [← heq, Nat.cast_zero] at hnonneg
      linarith
    | succ k =>
      refine htie ⟨k, ?_⟩
      rw [← heq]
      push_cast
      ring

/-- A tie that oversteps passes the next multiple by more than one half. -/
theorem Oversteps.exists_lt (h : x.Oversteps place) :
    ∃ k : ℕ, x.value * 10 ^ place = k + 1 / 2 ∧
      (k : ℚ) + 3 / 2 < (x.offTie place).value * 10 ^ place := by
  obtain ⟨htie, hstep⟩ := h
  rw [value_offTie_of_isHalfway htie, add_mul]
  obtain ⟨k, hk⟩ := htie
  refine ⟨k, hk, ?_⟩
  rw [hk]
  linarith

/-! ## A number of places -/

/-- The coefficient that a magnitude is rounded to with `places` digits after the point. -/
def fixedCoefficient (places : ℕ) (x : Magnitude) : ℕ :=
  roundDiv .even (x.units * 10 ^ places) unitsPerOne

theorem fixed_eq (places : ℕ) (x : Magnitude) :
    x.fixed places = pointText places (x.fixedCoefficient places) := rfl

theorem value_mul_eq (places : ℕ) (x : Magnitude) :
    ((x.units * 10 ^ places : ℕ) : ℚ) / unitsPerOne = x.value * 10 ^ (places : ℤ) := by
  rw [value, Nat.cast_mul, natCast_pow, div_mul_eq_mul_div]

/-- With `places` digits after the point a moved tie becomes the nearest decimal unless it oversteps. -/
theorem isNearest_fixed_iff (places : ℕ) (x : Magnitude) :
    IsNearest (HasPlaces places) x.value ⟨(x.offTie places).fixedCoefficient places, -places⟩ ↔
      ¬ x.Oversteps places := by
  have hscale : ∀ v : ℚ, v / 10 ^ (-(places : ℤ)) = v * 10 ^ (places : ℤ) := fun v => by
    rw [zpow_neg, div_inv_eq_mul]
  constructor
  · intro hnearest hover
    obtain ⟨k, hk, hlt⟩ := hover.exists_lt
    have hup : IsNearest (HasPlaces places) x.value ⟨k + 1, -places⟩ :=
      isNearest_hasPlaces (by rw [hscale, hk]; push_cast; linarith)
        (by rw [hscale, hk]; push_cast; linarith)
    have hpos : (10 : ℚ) ^ (-(places : ℤ)) ≠ 0 := by positivity
    -- A nearest decimal is the upper multiple, but this one is rounded from a number nearer to the next.
    have hcoefficient : (((x.offTie places).fixedCoefficient places : ℕ) : ℚ) = (k + 1 : ℕ) := by
      have hvalue := hnearest.value_eq hup
      rw [Decimal.value_mk, Decimal.value_mk] at hvalue
      exact mul_right_cancel₀ hpos hvalue
    have hround := (roundDiv_bounds .even ((x.offTie places).units * 10 ^ places) unitsPerOne_pos).2
    rw [value_mul_eq, ← fixedCoefficient, hcoefficient] at hround
    push_cast at hround
    linarith
  · intro hover
    obtain ⟨n, ⟨hlow, hhigh⟩, hlow', hhigh'⟩ := exists_halfUp hover
    rw [← value_mul_eq] at hlow' hhigh'
    rw [fixedCoefficient, roundDiv_eq_of_lt .even unitsPerOne_pos hlow' hhigh']
    exact isNearest_hasPlaces (by rwa [hscale]) (by rwa [hscale])

/-! ## A number of digits -/

/-- The power of ten of the first significant digit. -/
def exponent (x : Magnitude) : ℤ := leadingExponent x.units unitsPerOne

theorem exponent_spec (h : x.isZero = false) :
    (10 : ℚ) ^ x.exponent ≤ x.value ∧ x.value < 10 ^ (x.exponent + 1) :=
  leadingExponent_spec (units_pos h) unitsPerOne_pos

/-- The integers from `10 ^ places` to `10 ^ (places + 1)` times a power of ten are decimals with
`places + 1` digits. -/
theorem exists_hasDigits {n : ℕ} (hlow : 10 ^ places ≤ n) (hhigh : n ≤ 10 ^ (places + 1)) (e : ℤ) :
    ∃ d, HasDigits (places + 1) d ∧ d.value = n * 10 ^ e ∧
      d = if n = 10 ^ (places + 1) then ⟨10 ^ places, e + 1⟩ else ⟨n, e⟩ := by
  refine ⟨_, ?_, ?_, rfl⟩
  · split
    · exact ⟨Nat.le_refl _, Nat.pow_lt_pow_right (by decide) (Nat.lt_succ_self _)⟩
    · exact ⟨hlow, Nat.lt_of_le_of_ne hhigh ‹_›⟩
  · split
    · rename_i hn
      rw [hn, Decimal.value, natCast_pow, natCast_pow, ← zpow_add₀ (by norm_num),
        ← zpow_add₀ (by norm_num)]
      congr 1
      push_cast
      ring
    · rfl

/-- The integers that a magnitude can be rounded to at the last of `places + 1` digits. -/
theorem round_bounds (h : x.isZero = false) {n : ℕ}
    (hlow : (n : ℚ) - 1 / 2 ≤ x.value / 10 ^ (x.exponent - places))
    (hhigh : x.value / 10 ^ (x.exponent - places) ≤ n + 1 / 2) :
    10 ^ places ≤ n ∧ n ≤ 10 ^ (places + 1) := by
  obtain ⟨hle, hlt⟩ := exponent_spec h
  have hpos : (0 : ℚ) < 10 ^ (x.exponent - places) := by positivity
  have hle : ((10 ^ places : ℕ) : ℚ) ≤ x.value / 10 ^ (x.exponent - places) := by
    rw [le_div_iff₀ hpos, ← ten_zpow_eq_mul]
    exact hle
  have hlt : x.value / 10 ^ (x.exponent - places) < ((10 ^ (places + 1) : ℕ) : ℚ) := by
    rw [div_lt_iff₀ hpos, natCast_pow, ← zpow_add₀ (by norm_num)]
    refine hlt.trans_eq (congrArg _ ?_)
    push_cast
    ring
  constructor
  · have h : ((10 ^ places : ℕ) : ℚ) < n + 1 := by linarith
    have h : 10 ^ places < n + 1 := by exact_mod_cast h
    omega
  · have h : (n : ℚ) < (10 ^ (places + 1) : ℕ) + 1 := by linarith
    have h : n < 10 ^ (places + 1) + 1 := by exact_mod_cast h
    omega

/-- A magnitude is rounded to `places + 1` digits, and no decimal with so many digits is nearer. -/
theorem roundSignificant_nearest (h : x.isZero = false) (places : ℕ) :
    HasDigits (places + 1) (x.roundSignificant places) ∧
      ∀ d, HasDigits (places + 1) d →
        |(x.roundSignificant places).value - x.value| ≤ |d.value - x.value| := by
  have hround := roundDiv_bounds .even (scaleDown x.units unitsPerOne (x.exponent - places)).1
    (scaleDown_pos x.units unitsPerOne_pos (x.exponent - places))
  rw [scaleDown_eq] at hround
  obtain ⟨hlow, hhigh⟩ := round_bounds h hround.1 hround.2
  obtain ⟨d, hd, hvalue, hdef⟩ := exists_hasDigits hlow hhigh (x.exponent - places)
  have hsame : x.roundSignificant places = d := by
    simp only [roundSignificant, h, Bool.false_eq_true, if_false]
    exact hdef.symm
  rw [hsame]
  refine ⟨hd, fun d' hd' => ?_⟩
  rw [hvalue]
  exact le_abs_sub_of_hasDigits (exponent_spec h).1 hround.1 hround.2 hd'

theorem value_le_offTie (x : Magnitude) (place : ℤ) : x.value ≤ (x.offTie place).value := by
  by_cases htie : IsHalfway place x.value
  · rw [value_offTie_of_isHalfway htie]
    exact le_add_of_nonneg_right x.step_pos.le
  · rw [offTie_of_not_isHalfway htie]

theorem offTie_isZero (h : x.isZero = false) (place : ℤ) : (x.offTie place).isZero = false := by
  have hle := value_le_offTie x place
  have hnonneg := x.value_nonneg
  rw [Bool.eq_false_iff, Ne, isZero_iff_value] at h ⊢
  intro hzero
  rw [hzero] at hle
  exact h (le_antisymm hle hnonneg)

/-- Zero is no tie, and all its digits are zeros. -/
theorem roundSignificant_of_isZero (h : x.isZero = true) (places : ℕ) (place : ℤ) :
    (x.offTie place).roundSignificant places = ⟨0, -places⟩ := by
  have htie : ¬ IsHalfway place x.value := by
    rw [← isTie_iff, isTie, h]
    exact Bool.false_ne_true
  rw [offTie_of_not_isHalfway htie, roundSignificant, if_pos h]

/-- A tie oversteps only behind the point, where twice its value ends in the digit five. -/
theorem Oversteps.five_dvd (h : x.Oversteps place) {k : ℕ} (hk : x.value * 10 ^ place = k + 1 / 2) :
    5 ∣ 2 * k + 1 := by
  have hzero : x.isZero = false := by
    rw [Bool.eq_false_iff, Ne, isZero_iff_value]
    rintro hzero
    rw [hzero, zero_mul] at hk
    have : (0 : ℚ) ≤ k := Nat.cast_nonneg k
    linarith
  obtain ⟨hplace, -⟩ := (isTie_iff_of_ne_zero hzero).mp ((isTie_iff x place).mpr h.1)
  -- Without places behind the point a step is too short.
  have hpos : 0 < place := by
    by_contra hle
    have hstep := h.2
    rw [step_eq, ten_zpow_eq, ← mul_assoc, ← zpow_add₀ (by norm_num)] at hstep
    have htwo : (2 : ℚ) ^ ((x.scale : ℤ) - 1074 + place) ≤ 1 :=
      zpow_le_one_of_nonpos₀ (by norm_num) (by omega)
    have hfive : (5 : ℚ) ^ place ≤ 1 := zpow_le_one_of_nonpos₀ (by norm_num) (by omega)
    have hprod := mul_le_one₀ htwo (by positivity) hfive
    linarith
  obtain ⟨q, rfl⟩ : ∃ q : ℕ, place = (q + 1 : ℕ) := ⟨place.natAbs - 1, by omega⟩
  have htwice := value_mul_two hzero ((q + 1 : ℕ) : ℤ)
  rw [hplace, zpow_zero, mul_one, hk, ← natCast_pow] at htwice
  have htwice : 2 * k + 1 = (oddPart x.mantissa).1 * 5 ^ (q + 1) := by
    have h : (2 : ℚ) * k + 1 = (oddPart x.mantissa).1 * (5 ^ (q + 1) : ℕ) := by linarith
    exact_mod_cast h
  rw [htwice, Nat.pow_succ, ← Nat.mul_assoc]
  exact Nat.dvd_mul_left _ _

theorem div_weight_eq (x : Magnitude) (places : ℕ) (v : ℚ) :
    v / 10 ^ (x.exponent - places) = v * 10 ^ (places - x.exponent) := by
  rw [← neg_sub (places : ℤ) x.exponent, zpow_neg, div_inv_eq_mul]

/-- A tie that oversteps is moved to where the multiple after the nearest one is nearer. -/
theorem Oversteps.not_isNearest_roundSignificant (h : x.isZero = false)
    (hover : x.Oversteps (places - x.exponent)) :
    ¬ IsNearest (HasDigits (places + 1)) x.value
        ((x.offTie (places - x.exponent)).roundSignificant places) := by
  intro hnearest
  obtain ⟨-, hbest⟩ := roundSignificant_nearest (offTie_isZero h (places - x.exponent)) places
  obtain ⟨k, hk, hlt⟩ := hover.exists_lt
  -- The nearest decimal is the next multiple.
  have hlow : ((k + 1 : ℕ) : ℚ) - 1 / 2 ≤ x.value / 10 ^ (x.exponent - places) := by
    rw [div_weight_eq, hk]
    push_cast
    linarith
  have hhigh : x.value / 10 ^ (x.exponent - places) < (k + 1 : ℕ) + 1 / 2 := by
    rw [div_weight_eq, hk]
    push_cast
    linarith
  obtain ⟨hklow, hkhigh⟩ := round_bounds h hlow hhigh.le
  obtain ⟨up, hup, hvalue, -⟩ := exists_hasDigits hklow hkhigh (x.exponent - places)
  have heq := hnearest.value_eq (isNearest_hasDigits (exponent_spec h).1 hlow hhigh hup hvalue)
  -- But the one after it is nearer to the moved tie.
  have hnext : k + 2 ≤ 10 ^ (places + 1) := by
    have hfive := hover.five_dvd hk
    rw [Nat.pow_succ] at hkhigh ⊢
    omega
  obtain ⟨next, hnext, hvalue', -⟩ :=
    exists_hasDigits (n := k + 1 + 1) (by omega) hnext (x.exponent - places)
  have hcloser := hbest next hnext
  rw [heq, hvalue, hvalue'] at hcloser
  refine absurd hcloser (not_le.mpr (abs_sub_succ_lt (by positivity) ?_))
  rw [div_weight_eq]
  push_cast
  linarith

/-- Any other magnitude is moved towards the multiple that is the nearest one. -/
theorem isNearest_roundSignificant (h : x.isZero = false) (hover : ¬ x.Oversteps (places - x.exponent)) :
    IsNearest (HasDigits (places + 1)) x.value
      ((x.offTie (places - x.exponent)).roundSignificant places) := by
  obtain ⟨hd, hbest⟩ := roundSignificant_nearest (offTie_isZero h (places - x.exponent)) places
  have hle := (exponent_spec h).1
  have hle' := hle.trans (value_le_offTie x (places - x.exponent))
  obtain ⟨n, ⟨hlow, hhigh⟩, hlow', hhigh'⟩ := exists_halfUp hover
  rw [← div_weight_eq] at hlow hhigh hlow' hhigh'
  obtain ⟨hnlow, hnhigh⟩ := round_bounds h hlow hhigh.le
  obtain ⟨d, hdigits, hvalue, -⟩ := exists_hasDigits hnlow hnhigh (x.exponent - places)
  refine isNearest_hasDigits hle hlow hhigh hd (value_eq_of_le_abs_sub hle' hlow' hhigh' hd ?_)
  rw [← hvalue]
  exact hbest d hdigits

/-- With `places + 1` digits a moved tie becomes the nearest decimal unless it oversteps. -/
theorem isNearest_roundSignificant_iff (h : x.isZero = false) (places : ℕ) :
    IsNearest (HasDigits (places + 1)) x.value
        ((x.offTie (places - x.exponent)).roundSignificant places) ↔
      ¬ x.Oversteps (places - x.exponent) :=
  ⟨fun hnearest hover => hover.not_isNearest_roundSignificant h hnearest, isNearest_roundSignificant h⟩

end Magnitude

end Stencil.Number
