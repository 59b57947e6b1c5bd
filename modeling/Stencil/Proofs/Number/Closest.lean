import Stencil.Proofs.Number.Magnitude
import Stencil.Proofs.Number.Tie

/-!
# The nearest number

Rounding to a magnitude is exact: no magnitude is nearer to the quotient, and of two equally near ones the
one with the even mantissa is taken.

* `Magnitude.IsClosest`, `Binary64.IsClosest`: the nearest magnitude and the nearest number.
* `Magnitude.isClosest_of_nearest?`: a quotient is rounded to the nearest magnitude.
* `Binary64.isClosest_ofInt`: an integer of 64 bits is rounded to the nearest number.
-/

namespace Stencil.Number

variable {a b : ℕ} {v : ℚ}

namespace Magnitude

/-- No magnitude is nearer to the number, and the mantissa is even if another one is as near. -/
structure IsClosest (v : ℚ) (x : Magnitude) : Prop where
  nearest : ∀ y : Magnitude, |x.value - v| ≤ |y.value - v|
  even : ∀ y : Magnitude, |y.value - v| = |x.value - v| → y ≠ x → x.mantissa % 2 = 0

variable {x : Magnitude}

theorem mantissa_of_ofUnits? (h : ofUnits? a b = some x) :
    x.mantissa = roundDiv .even a (b * 2 ^ scaleOf a b) ∨ x.mantissa = 2 ^ 52 := by
  simp only [ofUnits?] at h
  split at h
  · split at h
    · rw [← Option.some.inj h]
      exact .inl rfl
    · split at h
      · rw [← Option.some.inj h]
        exact .inr rfl
      · cases h
  · cases h

/-- A magnitude is a multiple of the step at which a quotient is rounded, or below all those that the quotient
is between. -/
theorem exists_multiple_or_lt (hb : 0 < b) (a : ℕ) (y : Magnitude) :
    (∃ k : ℕ, y.units = k * 2 ^ scaleOf a b) ∨
      (y.units < 2 ^ 52 * 2 ^ scaleOf a b ∧ 2 ^ 52 * 2 ^ scaleOf a b * b ≤ a) := by
  by_cases hscale : scaleOf a b ≤ y.scale
  · left
    refine ⟨y.mantissa * 2 ^ (y.scale - scaleOf a b), ?_⟩
    rw [units, Nat.mul_assoc, ← Nat.pow_add, Nat.sub_add_cancel hscale]
  · right
    obtain ⟨k, hk⟩ : ∃ k, scaleOf a b = k + 1 := ⟨scaleOf a b - 1, by omega⟩
    have hle := le_div_of_scaleOf (a := a) (b := b) (by omega)
    have hmantissa := y.mantissa_lt
    have hpow : 2 ^ y.scale ≤ 2 ^ k := Nat.pow_le_pow_right (by decide) (by omega)
    rw [Nat.div_div_eq_div_mul, Nat.le_div_iff_mul_le (Nat.mul_pos hb (Nat.two_pow_pos _))] at hle
    refine ⟨?_, ?_⟩
    · have hpos := Nat.two_pow_pos k
      calc y.units ≤ y.mantissa * 2 ^ k := Nat.mul_le_mul_left _ hpow
        _ < 2 ^ 53 * 2 ^ k := Nat.mul_lt_mul_of_pos_right hmantissa hpos
        _ = 2 ^ 52 * 2 ^ scaleOf a b := by rw [hk, Nat.pow_succ 2 k]; omega
    · rwa [Nat.mul_assoc, Nat.mul_comm (2 ^ scaleOf a b)]

/-- The nearest multiple of the step, and how near it is. -/
theorem rounded_bounds (hb : 0 < b) (a : ℕ) :
    ((roundDiv .even a (b * 2 ^ scaleOf a b) : ℕ) : ℚ) - 1 / 2 ≤ (a : ℚ) / b / (2 ^ scaleOf a b : ℕ) ∧
      (a : ℚ) / b / (2 ^ scaleOf a b : ℕ) ≤ (roundDiv .even a (b * 2 ^ scaleOf a b) : ℕ) + 1 / 2 := by
  have hbounds := roundDiv_bounds .even a (Nat.mul_pos hb (Nat.two_pow_pos (scaleOf a b)))
  rwa [Nat.cast_mul, ← div_div] at hbounds

/-- A magnitude below the multiples is farther away than the nearest one of them. -/
theorem abs_sub_lt_of_units_lt (hb : 0 < b) (h : ofUnits? a b = some x) {y : Magnitude}
    (hlt : y.units < 2 ^ 52 * 2 ^ scaleOf a b) (hle : 2 ^ 52 * 2 ^ scaleOf a b * b ≤ a) :
    |(x.units : ℚ) - a / b| < |(y.units : ℚ) - a / b| := by
  have hb' : (0 : ℚ) < b := by exact_mod_cast hb
  have hunits := units_of_ofUnits? h
  obtain ⟨hlow, hhigh⟩ := rounded_bounds hb a
  generalize roundDiv .even a (b * 2 ^ scaleOf a b) = m at *
  have hpow := Nat.two_pow_pos (scaleOf a b)
  generalize 2 ^ scaleOf a b = g at *
  have hg : (0 : ℚ) < g := by exact_mod_cast hpow
  have hfirst : ((2 ^ 52 : ℕ) : ℚ) * g ≤ a / b := by
    rw [le_div_iff₀ hb']
    exact_mod_cast hle
  have hlt : (y.units : ℚ) < (2 ^ 52 : ℕ) * g := by exact_mod_cast hlt
  calc |(x.units : ℚ) - a / b| = |(m : ℚ) * g - a / b| := by rw [hunits, Nat.cast_mul]
    _ ≤ |((2 ^ 52 : ℕ) : ℚ) * g - a / b| := le_abs_sub_of_multiple hg hlow hhigh _
    _ = a / b - (2 ^ 52 : ℕ) * g := by rw [abs_sub_comm, abs_of_nonneg (sub_nonneg.mpr hfirst)]
    _ < a / b - y.units := sub_lt_sub_left hlt _
    _ ≤ |(y.units : ℚ) - a / b| := by
      rw [abs_sub_comm]
      exact le_abs_self _

/-- No magnitude is nearer to a quotient than the rounded one. -/
theorem abs_sub_le_of_ofUnits? (hb : 0 < b) (h : ofUnits? a b = some x) (y : Magnitude) :
    |(x.units : ℚ) - a / b| ≤ |(y.units : ℚ) - a / b| := by
  have hg : (0 : ℚ) < (2 ^ scaleOf a b : ℕ) := by positivity
  rcases exists_multiple_or_lt hb a y with ⟨k, hk⟩ | ⟨hlt, hle⟩
  · obtain ⟨hlow, hhigh⟩ := rounded_bounds hb a
    rw [units_of_ofUnits? h, hk, Nat.cast_mul, Nat.cast_mul]
    exact le_abs_sub_of_multiple hg hlow hhigh k
  · exact (abs_sub_lt_of_units_lt hb h hlt hle).le

/-- With an odd mantissa the rounded magnitude is nearer than any other one. -/
theorem abs_sub_lt_of_odd (hb : 0 < b) (h : ofUnits? a b = some x) (hodd : x.mantissa % 2 ≠ 0) {y : Magnitude}
    (hne : y ≠ x) : |(x.units : ℚ) - a / b| < |(y.units : ℚ) - a / b| := by
  have hg : (0 : ℚ) < (2 ^ scaleOf a b : ℕ) := by positivity
  have hunits := units_of_ofUnits? h
  rcases mantissa_of_ofUnits? h with hmantissa | hmantissa
  · rw [hmantissa] at hodd
    obtain ⟨hlow, hhigh⟩ := roundDiv_bounds_of_odd (a := a)
      (Nat.mul_pos hb (Nat.two_pow_pos (scaleOf a b))) (by omega)
    rw [Nat.cast_mul, ← div_div] at hlow hhigh
    rcases exists_multiple_or_lt hb a y with ⟨k, hk⟩ | ⟨hlt, hle⟩
    · have hk' : k ≠ roundDiv .even a (b * 2 ^ scaleOf a b) := by
        intro hk'
        apply hne
        apply units_injective
        rw [hk, hunits, hk']
      rw [hunits, hk, Nat.cast_mul, Nat.cast_mul]
      exact abs_sub_lt_of_multiple hg hlow hhigh hk'
    · exact abs_sub_lt_of_units_lt hb h hlt hle
  · -- The mantissa of a power of two is even.
    rw [hmantissa] at hodd
    exact absurd rfl hodd

/-- A quotient of units is rounded to the nearest magnitude. -/
theorem isClosest_of_ofUnits? (hb : 0 < b) (hv : unitsPerOne * v = (a : ℚ) / b) (h : ofUnits? a b = some x) :
    x.IsClosest v := by
  have hunit : (0 : ℚ) < unitsPerOne := by exact_mod_cast unitsPerOne_pos
  have hdist : ∀ y : Magnitude, |(y.units : ℚ) - a / b| = unitsPerOne * |y.value - v| := by
    intro y
    rw [← unitsPerOne_mul_value, ← hv, ← mul_sub, abs_mul, abs_of_pos hunit]
  constructor
  · intro y
    refine le_of_mul_le_mul_left ?_ hunit
    rw [← hdist, ← hdist]
    exact abs_sub_le_of_ofUnits? hb h y
  · intro y heq hne
    by_contra hodd
    have hfar := abs_sub_lt_of_odd hb h hodd hne
    rw [hdist, hdist, heq] at hfar
    exact lt_irrefl _ hfar

/-- A quotient is rounded to the nearest magnitude. -/
theorem isClosest_of_nearest? (hb : 0 < b) (h : nearest? a b = some x) : x.IsClosest ((a : ℚ) / b) := by
  refine isClosest_of_ofUnits? hb ?_ h
  rw [Nat.cast_mul, mul_div_assoc', mul_comm]

/-- A natural number of 64 bits is never too large. -/
theorem exists_nearest?_of_le {n : ℕ} (h : n ≤ 2 ^ 64) : ∃ x, nearest? n 1 = some x := by
  have hmax : 2 ^ 64 * unitsPerOne < overflowUnits * 1 := by decide +kernel
  exact exists_ofUnits? Nat.one_pos (lt_of_le_of_lt (Nat.mul_le_mul_right unitsPerOne h) hmax)

end Magnitude

namespace Binary64

/-- The number is finite and has the sign of `v`, and its magnitude is the nearest one. -/
def IsClosest (v : ℚ) (y : Binary64) : Prop :=
  ∃ x : Magnitude, y = .finite (decide (v < 0)) x ∧ x.IsClosest |v|

/-- An integer of 64 bits is rounded to the nearest number. -/
theorem isClosest_ofInt {i : ℤ} (h : i.natAbs ≤ 2 ^ 63) : (ofInt i).IsClosest i := by
  obtain ⟨x, hx⟩ := Magnitude.exists_nearest?_of_le (h.trans (by decide))
  refine ⟨x, ?_, ?_⟩
  · rw [ofInt, ofRatio_of_nearest? hx]
    simp only [Int.cast_lt_zero]
  · have hclosest := Magnitude.isClosest_of_nearest? Nat.one_pos hx
    rwa [Nat.cast_one, div_one, Nat.cast_natAbs, Int.cast_abs] at hclosest

end Binary64

end Stencil.Number
