import Mathlib.Tactic.FieldSimp
import Mathlib.Tactic.Positivity
import Stencil.Proofs.Number.Exact
import Stencil.Proofs.Number.Rounding

/-!
# The error of rounding to a magnitude

* `Magnitude.units_of_ofUnits?`: the value of the nearest magnitude.
* `Magnitude.ofUnits?_le`: it is above a quotient by at most one part in `2 ^ 53`, unless the quotient is
  very small.
* `Magnitude.overflowUnits`: the middle between the greatest magnitude and the next number of 53 bits.
* `Magnitude.exists_ofUnits?`: a quotient below it has a nearest magnitude.
-/

namespace Stencil.Number.Magnitude

variable {a b : ℕ} {x : Magnitude}

/-- The mantissa is at most one above what fits. -/
theorem roundDiv_le_two_pow (a b : ℕ) :
    roundDiv .even a (b * 2 ^ scaleOf a b) ≤ 2 ^ 53 := by
  have hlt := div_lt_of_scaleOf a b
  have hle := roundDiv_le .even a (b * 2 ^ scaleOf a b)
  rw [← Nat.div_div_eq_div_mul] at hle
  omega

/-- The value of the nearest magnitude. -/
theorem units_of_ofUnits? (h : ofUnits? a b = some x) :
    x.units = roundDiv .even a (b * 2 ^ scaleOf a b) * 2 ^ scaleOf a b := by
  simp only [ofUnits?] at h
  split at h
  · split at h
    · rw [← Option.some.inj h, units]
    · rename_i hm
      have hle := roundDiv_le_two_pow a b
      have hround : roundDiv .even a (b * 2 ^ scaleOf a b) = 2 ^ 53 := by omega
      split at h
      · rw [← Option.some.inj h, hround]
        simp only [units]
        rw [Nat.pow_succ 2 (scaleOf a b)]
        omega
      · cases h
  · cases h

/-- At the scale of a quotient the distance of the magnitudes is at most one part in `2 ^ 52`. -/
theorem two_pow_scaleOf_le (hb : 0 < b) (h : 2 ^ 52 * b ≤ a) :
    2 ^ 52 * (2 ^ scaleOf a b * b) ≤ a := by
  by_cases hs : scaleOf a b = 0
  · rw [hs, Nat.pow_zero, Nat.one_mul]
    exact h
  · have hle := le_div_of_scaleOf hs
    rw [Nat.div_div_eq_div_mul, Nat.le_div_iff_mul_le (Nat.mul_pos hb (Nat.two_pow_pos _))] at hle
    rwa [Nat.mul_comm (2 ^ scaleOf a b)]

/-- The nearest magnitude is above a quotient by at most one part in `2 ^ 53`. -/
theorem ofUnits?_le (hb : 0 < b) (hbig : 2 ^ 52 * b ≤ a) (h : ofUnits? a b = some x) :
    (x.units : ℚ) ≤ a / b * (1 + 1 / 2 ^ 53) := by
  have hb' : (0 : ℚ) < b := by exact_mod_cast hb
  have hscale := two_pow_scaleOf_le hb hbig
  have hunits := units_of_ofUnits? h
  generalize scaleOf a b = s at *
  have hpow : 0 < 2 ^ s := Nat.two_pow_pos s
  have hround := (roundDiv_bounds .even a (Nat.mul_pos hb hpow)).1
  generalize roundDiv .even a (b * 2 ^ s) = m at *
  generalize 2 ^ s = g at *
  have hg : (0 : ℚ) < g := by exact_mod_cast hpow
  have hscale : (2 : ℚ) ^ 52 * (g * b) ≤ a := by
    have hcast : ((2 ^ 52 * (g * b) : ℕ) : ℚ) ≤ (a : ℕ) := by exact_mod_cast hscale
    norm_num at hcast ⊢
    exact hcast
  -- The mantissa has 53 bits, so half a step is one part in `2 ^ 53` at most.
  have hstep : (g : ℚ) ≤ a / b / 2 ^ 52 := by
    rw [le_div_iff₀ (by positivity), le_div_iff₀ hb']
    linarith
  have hquotient : (m : ℚ) * g ≤ a / b + g / 2 := by
    have hmul := mul_le_mul_of_nonneg_right hround hg.le
    rw [Nat.cast_mul] at hmul
    have heq : (a : ℚ) / (b * g) * g = a / b := by
      field_simp
    linarith
  rw [hunits, Nat.cast_mul]
  linarith

theorem scaleOf_le {k : ℕ} (h : a < 2 ^ (53 + k) * b) : scaleOf a b ≤ k := by
  have hlt : a / b < 2 ^ (53 + k) := by
    rcases Nat.eq_zero_or_pos b with rfl | hb
    · rw [Nat.div_zero]
      exact Nat.two_pow_pos _
    · exact (Nat.div_lt_iff_lt_mul hb).mpr h
  rw [scaleOf]
  rcases Nat.eq_zero_or_pos (a / b) with h0 | h0
  · rw [h0, Nat.log2_zero]
    omega
  · have := (Nat.log2_lt (by omega)).mpr hlt
    omega

theorem le_scaleOf {k : ℕ} (hb : 0 < b) (h : 2 ^ (52 + k) * b ≤ a) : k ≤ scaleOf a b := by
  have hle : 2 ^ (52 + k) ≤ a / b := (Nat.le_div_iff_mul_le hb).mpr h
  have hpos := Nat.two_pow_pos (52 + k)
  have hlog := (Nat.le_log2 (show a / b ≠ 0 by omega)).mpr hle
  rw [scaleOf]
  omega

/-- The middle between the greatest magnitude and the next number of 53 bits, in units. -/
def overflowUnits : ℕ := (2 ^ 54 - 1) * 2 ^ 2044

/-- The distance from the greatest magnitude to this middle, in units. -/
def overflowGap : ℕ := 2 ^ 2044

theorem two_pow_scale_le (x : Magnitude) : 2 ^ x.scale ≤ 2 * overflowGap := by
  have hpow : ∀ k, x.scale ≤ k + 1 → 2 ^ x.scale ≤ 2 * 2 ^ k := fun k hk => by
    rw [Nat.mul_comm, ← Nat.pow_succ]
    exact Nat.pow_le_pow_right (by decide) hk
  rw [overflowGap]
  exact hpow 2044 x.scale_le

/-- Below this middle there is a nearest magnitude. -/
theorem exists_ofUnits? (hb : 0 < b) (h : a < overflowUnits * b) :
    ∃ x, ofUnits? a b = some x := by
  obtain ⟨k, hk, h⟩ : ∃ k, k = 2044 ∧ a < (2 ^ 54 - 1) * 2 ^ k * b := ⟨2044, rfl, h⟩
  have hscale : scaleOf a b ≤ k + 1 := by
    refine scaleOf_le (h.trans_le ?_)
    refine Nat.mul_le_mul_right b ?_
    rw [show 53 + (k + 1) = 54 + k by omega, Nat.pow_add]
    exact Nat.mul_le_mul_right _ (by decide)
  have hle := roundDiv_le_two_pow a b
  have hround := (roundDiv_mul_bounds .even a (Nat.mul_pos hb (Nat.two_pow_pos (scaleOf a b)))).1
  simp only [ofUnits?]
  split
  · split
    · exact ⟨_, rfl⟩
    · rename_i hm
      split
      · exact ⟨_, rfl⟩
      · -- The greatest scale, and a mantissa with too many bits.
        exfalso
        have hs : scaleOf a b = k + 1 := by omega
        have hm : roundDiv .even a (b * 2 ^ scaleOf a b) = 2 ^ 53 := by omega
        rw [hm, hs] at hround
        have hcomm : (2 ^ 54 - 1) * 2 ^ k * b = (2 ^ 54 - 1) * (b * 2 ^ k) := by
          rw [Nat.mul_assoc, Nat.mul_comm (2 ^ k)]
        have hdouble : b * 2 ^ (k + 1) = 2 * (b * 2 ^ k) := by
          rw [Nat.pow_succ, ← Nat.mul_assoc, Nat.mul_comm]
        rw [hcomm] at h
        rw [hdouble] at hround
        omega
  · omega

end Stencil.Number.Magnitude
