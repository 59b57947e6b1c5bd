import Stencil.Proofs.Number.Fixed
import Stencil.Proofs.Number.Layout

/-!
# The exponent that 25 digits show

Rounding to 25 digits could carry into the next power of ten. It never does: below a power of ten there
is a gap without magnitudes, and it is wide enough.

* `Magnitude.units_le_of_le`: the magnitudes below a number are not above its first 53 bits.
* `gap_below_powers`: the gap, for every power of ten that counts.
* `Magnitude.shownExponent_eq`: the exponent of the 25 digits is the exponent of the first digit.
* `Magnitude.lt_sub_of_lt`: the gap below every power of ten, against the last of the 25 digits.
* `Magnitude.shownExponent_exact`: the main result.
-/

namespace Stencil.Number

open Decimal

/-- A magnitude below a number is not above the first bits of this number, if there are 53 of them. -/
theorem Magnitude.units_le_of_le {x : Magnitude} {n s : ℕ} (h : x.units ≤ n)
    (hbits : s = 0 ∨ 2 ^ 52 ≤ n / 2 ^ s) : x.units ≤ n / 2 ^ s * 2 ^ s := by
  rcases Nat.lt_or_ge x.scale s with hlt | hge
  · have hbits := hbits.resolve_left (by omega)
    calc x.units ≤ 2 ^ 53 * 2 ^ x.scale := Nat.mul_le_mul_right _ x.mantissa_lt.le
      _ = 2 ^ 52 * 2 ^ (x.scale + 1) := by
          rw [Nat.pow_succ 2 x.scale, Nat.pow_succ 2 52, Nat.mul_assoc, Nat.mul_comm 2]
      _ ≤ 2 ^ 52 * 2 ^ s := Nat.mul_le_mul_left _ (Nat.pow_le_pow_right (by decide) hlt)
      _ ≤ n / 2 ^ s * 2 ^ s := Nat.mul_le_mul_right _ hbits
  · obtain ⟨k, hk⟩ := Nat.exists_eq_add_of_le' hge
    have hunits : x.units = x.mantissa * 2 ^ k * 2 ^ s := by
      rw [units, hk, Nat.pow_add, Nat.mul_assoc]
    rw [hunits] at h ⊢
    exact Nat.mul_le_mul_right _ ((Nat.le_div_iff_mul_le (Nat.two_pow_pos s)).mpr h)

/-! ## The gaps below the powers of ten -/

/-- A power of ten, in units, as a quotient. -/
def powerUnits (e : ℤ) : ℕ × ℕ := scaleDown unitsPerOne 1 (-e)

/-- The greatest number of units below a power of ten. -/
def unitsBelow (e : ℤ) : ℕ := ((powerUnits e).1 - 1) / (powerUnits e).2

/-- The scale of the magnitudes below a power of ten. The fraction is the binary logarithm of ten, as
precise as is needed. -/
def scaleBelow (e : ℤ) : ℕ := ((217706 * e - 1) / 65536 + 1022).toNat

/-- Below every power of ten that counts there are no magnitudes in a part of it that 20 digits show. -/
theorem gap_below_powers : ∀ k : ℕ, k < 633 →
    (scaleBelow (k - 323) = 0 ∨ 2 ^ 52 ≤ unitsBelow (k - 323) / 2 ^ scaleBelow (k - 323)) ∧
      10 ^ 20 * (unitsBelow (k - 323) / 2 ^ scaleBelow (k - 323) * 2 ^ scaleBelow (k - 323) *
        (powerUnits (k - 323)).2) ≤ (10 ^ 20 - 1) * (powerUnits (k - 323)).1 := by
  decide +kernel

namespace Magnitude

variable {x : Magnitude}

theorem powerUnits_eq (e : ℤ) : ((powerUnits e).1 : ℚ) / (powerUnits e).2 = unitsPerOne * 10 ^ e := by
  rw [powerUnits, scaleDown_eq, zpow_neg, div_inv_eq_mul, Nat.cast_one, div_one]

theorem powerUnits_pos (e : ℤ) : 0 < (powerUnits e).2 := scaleDown_pos _ Nat.one_pos _

theorem units_lt (x : Magnitude) : x.units < 2 ^ 53 * 2 ^ 2045 := by
  have hpow : ∀ k, x.scale ≤ k → x.units < 2 ^ 53 * 2 ^ k := fun k hk =>
    Nat.mul_lt_mul_of_lt_of_le x.mantissa_lt (Nat.pow_le_pow_right (by decide) hk) (Nat.two_pow_pos k)
  exact hpow 2045 x.scale_le

/-- The exponents of the magnitudes. -/
theorem exponent_bounds (h : x.isZero = false) : -324 ≤ x.exponent ∧ x.exponent ≤ 308 := by
  obtain ⟨hle, hlt⟩ := exponent_spec h
  have hten : (1 : ℚ) < 10 := by norm_num
  have hunit : (0 : ℚ) < unitsPerOne := by exact_mod_cast unitsPerOne_pos
  -- One unit is the least magnitude but zero, and the greatest scale bounds all of them.
  constructor
  · have hsmall : unitsPerOne ≤ 10 ^ 324 := by decide +kernel
    have hmin : (10 : ℚ) ^ (-324 : ℤ) ≤ x.value := by
      have hunits : (1 : ℚ) ≤ x.units := by exact_mod_cast units_pos h
      have hsmall : (unitsPerOne : ℚ) ≤ 10 ^ ((324 : ℕ) : ℤ) := by
        rw [← natCast_pow]
        exact_mod_cast hsmall
      calc (10 : ℚ) ^ (-324 : ℤ) = 1 / 10 ^ ((324 : ℕ) : ℤ) := by rw [one_div, ← zpow_neg]; rfl
        _ ≤ 1 / unitsPerOne := one_div_le_one_div_of_le hunit hsmall
        _ ≤ x.value := div_le_div_of_nonneg_right hunits hunit.le
    have := (zpow_lt_zpow_iff_right₀ hten).mp (lt_of_le_of_lt hmin hlt)
    omega
  · have hlarge : 2 ^ 53 * 2 ^ 2045 ≤ 10 ^ 309 * unitsPerOne := by decide +kernel
    have hmax : x.value < (10 : ℚ) ^ ((309 : ℕ) : ℤ) := by
      have hunits := lt_of_lt_of_le x.units_lt hlarge
      rw [value, div_lt_iff₀ hunit, ← natCast_pow]
      exact_mod_cast hunits
    have := (zpow_lt_zpow_iff_right₀ hten).mp (lt_of_le_of_lt hle hmax)
    omega

/-- A magnitude below a power of ten is below it by more than its 20th digit. -/
theorem value_le_of_lt {e : ℤ} (hlow : -323 ≤ e) (hhigh : e ≤ 309) (h : x.value < 10 ^ e) :
    10 ^ 20 * x.value ≤ (10 ^ 20 - 1) * 10 ^ e := by
  obtain ⟨k, hk⟩ : ∃ k : ℕ, e = k - 323 := ⟨(e + 323).toNat, by omega⟩
  obtain ⟨hbits, hgap⟩ := gap_below_powers k (by omega)
  rw [← hk] at hbits hgap
  have hle : ∀ n, n * (powerUnits e).2 < (powerUnits e).1 → n ≤ unitsBelow e := fun n hn =>
    (Nat.le_div_iff_mul_le (powerUnits_pos e)).mpr (by omega)
  have hpower := powerUnits_eq e
  have hpos := powerUnits_pos e
  generalize (powerUnits e).1 = a at *
  generalize (powerUnits e).2 = b at *
  have hb : (0 : ℚ) < b := by exact_mod_cast hpos
  have hunit : (0 : ℚ) < unitsPerOne := by exact_mod_cast unitsPerOne_pos
  rw [div_eq_iff hb.ne'] at hpower
  -- The units of the magnitude, against those of the power of ten.
  have hlt : x.units * b < a := by
    rw [value, div_lt_iff₀ hunit] at h
    have h : (x.units : ℚ) * b < a := by
      rw [hpower]
      exact mul_lt_mul_of_pos_right (by linarith) hb
    exact_mod_cast h
  have hbelow := units_le_of_le (hle _ hlt) hbits
  have hle : 10 ^ 20 * (x.units * b) ≤ (10 ^ 20 - 1) * a :=
    (Nat.mul_le_mul_left _ (Nat.mul_le_mul_right b hbelow)).trans hgap
  have hle : (10 : ℚ) ^ 20 * (x.units * b) ≤ (10 ^ 20 - 1) * a := by
    have hcast : ((10 ^ 20 * (x.units * b) : ℕ) : ℚ) ≤ (((10 ^ 20 - 1) * a : ℕ) : ℚ) := by
      exact_mod_cast hle
    norm_num at hcast ⊢
    exact hcast
  rw [hpower] at hle
  have hle : (10 : ℚ) ^ 20 * x.units ≤ (10 ^ 20 - 1) * (unitsPerOne * 10 ^ e) :=
    le_of_mul_le_mul_right (by linarith) hb
  rw [value, mul_div_assoc', div_le_iff₀ hunit]
  linarith

/-- The exponent of the 25 digits is the exponent of the first digit. -/
theorem shownExponent_eq (h : x.isZero = false) : x.shownExponent = x.exponent := by
  obtain ⟨hlow, hhigh⟩ := exponent_bounds h
  have hgap := value_le_of_lt (e := x.exponent + 1) (by omega) (by omega) (exponent_spec h).2
  have hround := (roundDiv_bounds .even (scaleDown x.units unitsPerOne (x.exponent - 24)).1
    (scaleDown_pos x.units unitsPerOne_pos (x.exponent - 24))).1
  have hpos : (0 : ℚ) < 10 ^ (x.exponent - 24) := by positivity
  have hten : (10 : ℚ) ^ (x.exponent + 1) = 10 ^ 25 * 10 ^ (x.exponent - 24) := by
    rw [show x.exponent + 1 = ((25 : ℕ) : ℤ) + (x.exponent - 24) by omega, zpow_add₀ (by norm_num),
      zpow_natCast]
  rw [scaleDown_eq, ← value, le_div_iff₀ hpos] at hround
  have hne : roundDiv .even (scaleDown x.units unitsPerOne (x.exponent - 24)).1
      (scaleDown x.units unitsPerOne (x.exponent - 24)).2 ≠ 10 ^ (24 + 1) := by
    intro heq
    rw [heq] at hround
    rw [hten] at hgap
    norm_num at hround
    linarith
  simp only [shownExponent, roundSignificant, h, Bool.false_eq_true, if_false]
  rw [if_neg]
  · exact sub_add_cancel _ _
  · exact hne

/-- The text with 25 digits shows this exponent. -/
theorem isScientific_exponential (h : x.isZero = false) (places : ℕ) :
    IsScientific places (x.roundSignificant places) (x.exponential places) :=
  have hdigits := (roundSignificant_nearest h places).1
  isScientific_append (.inr hdigits.1) hdigits.2

/-- The gap below every power of ten, also those that are greater or less than all magnitudes. -/
theorem lt_sub_of_lt {e : ℤ} (h : x.value < 10 ^ e) : 5 * 10 ^ (-25 : ℤ) * 10 ^ e < 10 ^ e - x.value := by
  have hpos : (0 : ℚ) < 10 ^ e := by positivity
  cases hzero : x.isZero with
  | true =>
    rw [isZero_iff_value.mp hzero, sub_zero]
    norm_num
    linarith
  | false =>
    obtain ⟨hlow, hhigh⟩ := exponent_bounds hzero
    obtain ⟨hle, hlt⟩ := exponent_spec hzero
    have hten : (1 : ℚ) < 10 := by norm_num
    have hexponent := (zpow_lt_zpow_iff_right₀ hten).mp (lt_of_le_of_lt hle h)
    rcases Int.lt_or_le 309 e with he | he
    · -- The next lower power of ten is not reached either.
      have hnext : (10 : ℚ) ^ (x.exponent + 1) ≤ 10 ^ (e - 1) :=
        zpow_le_zpow_right₀ hten.le (by omega)
      rw [zpow_sub_one₀ (by norm_num)] at hnext
      norm_num at hnext ⊢
      linarith
    · have hgap := value_le_of_lt (by omega) he h
      norm_num at hgap ⊢
      linarith

/-- **The decimal exponent.** The exponent that the text with 25 digits shows is the one of the first digit of
a number that is not zero: the power of ten with it is not above the absolute value of the number, and the
next one is. The text is that of a nearest decimal with 25 digits, but rounding never carries into the next
power of ten. No number is so close below a power of ten. -/
theorem shownExponent_exact (negative : Bool) (h : x.signedValue negative ≠ 0) :
    let v := x.signedValue negative
    (∀ e : ℤ, ((10 : ℚ) ^ e ≤ |v| ∧ |v| < 10 ^ (e + 1)) ↔ e = x.shownExponent) ∧
    (∃ d, HasDigits 25 d ∧ (∀ d', HasDigits 25 d' → |d.value - (|v|)| ≤ |d'.value - (|v|)|) ∧
      IsScientific 24 d (x.exponential 24) ∧ d.exponent + 24 = x.shownExponent) ∧
    ∀ e : ℤ, |v| < 10 ^ e → 5 * 10 ^ (-25 : ℤ) * 10 ^ e < 10 ^ e - |v| := by
  intro v
  have habs : |v| = x.value := abs_signedValue negative x
  have hzero : x.isZero = false := by
    rw [Bool.eq_false_iff, Ne, isZero_iff_value, ← habs]
    exact abs_ne_zero.mpr h
  rw [habs]
  have hnearest := roundSignificant_nearest hzero 24
  refine ⟨fun e => ?_, ⟨x.roundSignificant 24, hnearest.1, hnearest.2,
    isScientific_exponential hzero 24, ?_⟩, fun e => lt_sub_of_lt⟩
  · rw [shownExponent_eq hzero]
    obtain ⟨hle, hlt⟩ := exponent_spec hzero
    constructor
    · rintro ⟨hlow, hhigh⟩
      exact exponent_unique hlow hhigh hle hlt
    · intro he
      rw [he]
      exact ⟨hle, hlt⟩
  · rw [shownExponent]

/-- The number that is closest below a power of ten. -/
theorem shownExponent_exact_closest :
    let x : Magnitude := ⟨5374300886053671, 1530, by decide, by decide, .inr (by decide)⟩
    x.signedValue true ≠ 0 ∧ 10 ^ (153 : ℤ) - |x.signedValue true| < 3 / 10 ^ 19 * 10 ^ (153 : ℤ) ∧
      |x.signedValue true| < 10 ^ (153 : ℤ) ∧ x.shownExponent = 152 := by
  intro x
  have hvalue : x.signedValue true = -(5374300886053671 * 2 ^ 456) := by
    rw [signedValue, value_eq, step_eq]
    norm_num [x]
  have hne : x.signedValue true ≠ 0 := by
    rw [hvalue]
    norm_num
  obtain ⟨hexact, -, -⟩ := shownExponent_exact true hne
  have habs : |x.signedValue true| = 5374300886053671 * (2 ^ 228) ^ 2 := by
    rw [hvalue, abs_neg, abs_of_nonneg (by positivity), ← pow_mul]
  have hlt : |x.signedValue true| < 10 ^ (153 : ℤ) := by
    rw [habs]
    norm_num
  refine ⟨hne, ?_, hlt, ((hexact 152).mp ⟨?_, hlt⟩).symm⟩
  · rw [habs]
    norm_num
  · rw [habs]
    norm_num

end Magnitude

end Stencil.Number
