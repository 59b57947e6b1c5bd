import Stencil.Proofs.Number.Reading

/-!
# Numbers that are too large

A literal denotes the nearest number to its exact value. This is finite below the middle between the greatest
magnitude and the next number of 53 bits.

* `Magnitude.IsClosest.unique`: only one magnitude is the nearest one.
* `Magnitude.limit`: this middle.
* `Magnitude.nearest?_eq_some_iff`: a quotient below it is rounded to the nearest magnitude, and no other one is.
* `Binary64.IsRounded`, `DecimalLiteral.nearest_isFinite_iff`: the finite number that a literal denotes.
-/

namespace Stencil.Number

variable {a b : ℕ} {v : ℚ} {negative : Bool} {y : Binary64} {l : DecimalLiteral}

namespace Magnitude

variable {x z : Magnitude}

/-! ## One nearest magnitude -/

/-- A greater magnitude is at least one step above. -/
theorem units_add_le_of_lt (h : x.units < z.units) : x.units + 2 ^ x.scale ≤ z.units := by
  by_contra hlt
  have hpos := Nat.two_pow_pos x.scale
  have hdiv : (x.units + (2 ^ x.scale - 1)) / 2 ^ x.scale = x.mantissa := by
    rw [units, Nat.add_comm, Nat.add_mul_div_right _ _ hpos, Nat.div_eq_of_lt (by omega), Nat.zero_add]
  -- The first 53 bits of what is less than a step above are those of the magnitude.
  have hle := units_le_of_le (x := z) (n := x.units + (2 ^ x.scale - 1)) (s := x.scale) (by omega)
    (by rw [hdiv]; exact x.normal)
  rw [hdiv] at hle
  exact absurd h (not_lt.mpr hle)

theorem value_lt_iff : x.value < z.value ↔ x.units < z.units := by
  have hunit : (0 : ℚ) < unitsPerOne := by exact_mod_cast unitsPerOne_pos
  unfold value
  rw [div_lt_div_iff_of_pos_right hunit, Nat.cast_lt]

theorem value_add_step_le_of_lt (h : x.value < z.value) : x.value + x.step ≤ z.value := by
  have hunit : (0 : ℚ) < unitsPerOne := by exact_mod_cast unitsPerOne_pos
  have hle := units_add_le_of_lt (value_lt_iff.mp h)
  unfold value step
  rw [← add_div, div_le_div_iff_of_pos_right hunit]
  exact_mod_cast hle

theorem value_injective (h : x.value = z.value) : x = z := by
  apply units_injective
  have hunits : (x.units : ℚ) = z.units := by rw [← unitsPerOne_mul_value, h, unitsPerOne_mul_value]
  exact_mod_cast hunits

/-- Between two magnitudes with even mantissas there is another one. -/
theorem exists_between (h : x.value < z.value) (hx : x.mantissa % 2 = 0) (hz : z.mantissa % 2 = 0) :
    ∃ y : Magnitude, x.value < y.value ∧ y.value < z.value := by
  have hlt := x.mantissa_lt
  have hstep := x.step_pos
  obtain ⟨y, hy, hodd⟩ : ∃ y, x.next? = some y ∧ y.mantissa = x.mantissa + 1 := ⟨_, dif_pos (by omega), rfl⟩
  have hvalue := value_next? hy
  refine ⟨y, by linarith, lt_of_le_of_ne (hvalue ▸ value_add_step_le_of_lt h) fun heq => ?_⟩
  rw [value_injective heq] at hodd
  omega

/-- Only one magnitude is the nearest one. -/
theorem IsClosest.unique (hx : x.IsClosest v) (hz : z.IsClosest v) : x = z := by
  by_contra hne
  wlog hlt : x.value < z.value generalizing x z
  · exact this hz hx (Ne.symm hne) (lt_of_le_of_ne (not_lt.mp hlt) fun h => hne (value_injective h).symm)
  have hdist : |z.value - v| = |x.value - v| := le_antisymm (hz.nearest x) (hx.nearest z)
  -- Then the number is in the middle, and what is between the two magnitudes is nearer.
  obtain ⟨y, hlow, hhigh⟩ := exists_between hlt (hx.even z hdist (Ne.symm hne)) (hz.even x hdist.symm hne)
  have hmiddle : v - x.value = z.value - v := by
    rcases abs_eq_abs.mp hdist with h | h <;> linarith
  have hnear : |y.value - v| < v - x.value := abs_lt.mpr (by constructor <;> linarith)
  have hfar := hx.nearest y
  rw [abs_sub_comm, abs_of_nonneg (by linarith)] at hfar
  linarith

/-! ## The greatest finite number -/

/-- The middle between the greatest magnitude and the next number of 53 bits. -/
def limit : ℚ := 2 ^ 1024 - 2 ^ 970

theorem unitsPerOne_mul_limit : unitsPerOne * limit = overflowUnits := by
  have hpow : ∀ k m n e : ℕ, n = 54 + m → e = k + m →
      ((2 ^ k : ℕ) : ℚ) * (2 ^ n - 2 ^ m) = ((2 ^ 54 - 1) * 2 ^ e : ℕ) := by
    rintro k m n e rfl rfl
    push_cast
    ring
  unfold unitsPerOne limit overflowUnits
  exact hpow 1074 970 1024 2044 rfl rfl

theorem lt_limit_iff (hb : 0 < b) : (a : ℚ) / b < limit ↔ a * unitsPerOne < overflowUnits * b := by
  have hunit : (0 : ℚ) < unitsPerOne := by exact_mod_cast unitsPerOne_pos
  have hb' : (0 : ℚ) < b := by exact_mod_cast hb
  rw [div_lt_iff₀ hb', ← mul_lt_mul_iff_of_pos_left hunit, ← mul_assoc, unitsPerOne_mul_limit, mul_comm]
  exact_mod_cast Iff.rfl

/-- From this middle on there is no nearest magnitude. -/
theorem ofUnits?_eq_none (hb : 0 < b) (h : overflowUnits * b ≤ a) : ofUnits? a b = none := by
  obtain ⟨k, hk, h⟩ : ∃ k, k = 2044 ∧ (2 ^ 54 - 1) * 2 ^ k * b ≤ a := ⟨2044, rfl, h⟩
  have hscale : k + 1 ≤ scaleOf a b := by
    refine le_scaleOf hb (le_trans (Nat.mul_le_mul_right b ?_) h)
    rw [show 52 + (k + 1) = 53 + k by omega, Nat.pow_add]
    exact Nat.mul_le_mul_right _ (by decide)
  unfold ofUnits?
  by_cases hs : scaleOf a b = k + 1
  · -- The greatest scale. The greatest mantissa is odd, so the quotient would have to be nearer to it.
    have hpos := Nat.mul_pos hb (Nat.two_pow_pos (scaleOf a b))
    have hround := (roundDiv_mul_bounds .even a hpos).2
    have hodd := two_mul_lt_of_odd (a := a) hpos
    have hcomm : (2 ^ 54 - 1) * 2 ^ k * b = (2 ^ 54 - 1) * (b * 2 ^ k) := by
      rw [Nat.mul_assoc, Nat.mul_comm (2 ^ k)]
    have hdouble : b * 2 ^ scaleOf a b = 2 * (b * 2 ^ k) := by
      rw [hs, Nat.pow_succ, ← Nat.mul_assoc, Nat.mul_comm]
    have hmantissa : ¬ roundDiv .even a (b * 2 ^ scaleOf a b) < 2 ^ 53 := by
      rw [hcomm] at h
      rw [hdouble] at hround hodd ⊢
      generalize roundDiv .even a (2 * (b * 2 ^ k)) = m at *
      generalize b * 2 ^ k = g at *
      intro hlt
      by_cases hmax : m = 2 ^ 53 - 1
      · subst hmax
        have := hodd (by decide)
        omega
      · have hmul : m * (2 * g) ≤ (2 ^ 53 - 2) * (2 * g) := Nat.mul_le_mul_right _ (by omega)
        omega
    simp only
    rw [dif_pos (by omega), dif_neg hmantissa, dif_neg (by omega)]
  · simp only
    rw [dif_neg (by omega)]

/-- A quotient is rounded to the nearest magnitude if it is not too large. -/
theorem nearest?_eq_some_iff (hb : 0 < b) : nearest? a b = some x ↔ (a : ℚ) / b < limit ∧ x.IsClosest (a / b) := by
  rw [lt_limit_iff hb]
  constructor
  · intro h
    refine ⟨?_, isClosest_of_nearest? hb h⟩
    by_contra hlarge
    rw [nearest?, ofUnits?_eq_none hb (not_lt.mp hlarge)] at h
    cases h
  · rintro ⟨hlt, hx⟩
    obtain ⟨z, hz⟩ := exists_ofUnits? hb hlt
    rw [hx.unique (isClosest_of_nearest? hb hz)]
    exact hz

theorem one_lt_limit : 1 < limit := by
  have hlt := (lt_limit_iff (a := 1) Nat.one_pos).mpr (by decide +kernel)
  rwa [Nat.cast_one, div_one] at hlt

/-- Zero is the nearest magnitude to a number below half of the least one. -/
theorem isClosest_zero (hv : 0 ≤ v) (h : 2 * unitsPerOne * v < 1) : zero.IsClosest v := by
  have hunit : (0 : ℚ) < unitsPerOne := by exact_mod_cast unitsPerOne_pos
  have hzero : zero.value = 0 := isZero_iff_value.mp rfl
  refine ⟨fun y => ?_, fun _ _ _ => rfl⟩
  cases hy : y.isZero with
  | true => rw [hzero, isZero_iff_value.mp hy]
  | false =>
    have hunits : (1 : ℚ) ≤ unitsPerOne * y.value := by
      rw [unitsPerOne_mul_value]
      exact_mod_cast units_pos hy
    have hle : 2 * v ≤ y.value := le_of_mul_le_mul_left (by linarith) hunit
    rw [hzero, zero_sub, abs_neg, abs_of_nonneg hv, abs_of_nonneg (by linarith)]
    linarith

end Magnitude

/-! ## Literals -/

/-- The number has this sign, and its magnitude is the nearest one to `v`, which is not too large. -/
def Binary64.IsRounded (negative : Bool) (v : ℚ) (y : Binary64) : Prop :=
  v < Magnitude.limit ∧ ∃ x : Magnitude, y = .finite negative x ∧ x.IsClosest v

theorem Binary64.isRounded_iff {x : Magnitude} (hv : v < Magnitude.limit) (hx : x.IsClosest v) :
    y.IsRounded negative v ↔ y = .finite negative x := by
  constructor
  · rintro ⟨-, z, rfl, hz⟩
    rw [hx.unique hz]
  · rintro rfl
    exact ⟨hv, x, rfl, hx⟩

/-- A quotient is rounded to the nearest number if this is finite. -/
theorem Binary64.ofRatio_isFinite_iff (hb : 0 < b) :
    ofRatio negative a b = y ∧ y.isFinite = true ↔ y.IsRounded negative (a / b) := by
  cases hx : Magnitude.nearest? a b with
  | some x =>
    obtain ⟨hv, hclosest⟩ := (Magnitude.nearest?_eq_some_iff hb).mp hx
    rw [isRounded_iff hv hclosest, ofRatio_of_nearest? hx]
    constructor
    · exact fun h => h.1.symm
    · rintro rfl
      exact ⟨rfl, rfl⟩
  | none =>
    constructor
    · rintro ⟨rfl, hfinite⟩
      rw [ofRatio, hx] at hfinite
      cases hfinite
    · rintro ⟨hv, x, -, hclosest⟩
      rw [(Magnitude.nearest?_eq_some_iff hb).mpr ⟨hv, hclosest⟩] at hx
      cases hx

namespace DecimalLiteral

/-- The value without the sign. -/
theorem abs_value (l : DecimalLiteral) : |l.value| = (⟨l.digits, l.exponent⟩ : Decimal).value := by
  have hnonneg : (0 : ℚ) ≤ (⟨l.digits, l.exponent⟩ : Decimal).value := by
    rw [Decimal.value]
    positivity
  unfold value
  split
  · rw [abs_neg, abs_of_nonneg hnonneg]
  · exact abs_of_nonneg hnonneg

/-- Beyond 400 places in front of the point a literal is too large. -/
theorem limit_le (hne : l.digits ≠ 0) (h : 400 < l.exponent + digitCount l.digits) :
    Magnitude.limit ≤ |l.value| := by
  have hlarge : ¬ ((10 ^ 400 : ℕ) : ℚ) / (1 : ℕ) < Magnitude.limit :=
    (Magnitude.lt_limit_iff Nat.one_pos).not.mpr (by decide +kernel)
  rw [Nat.cast_one, div_one, natCast_pow, not_lt] at hlarge
  have hbounds := (decimal_bounds (d := ⟨l.digits, l.exponent⟩) hne).1
  calc Magnitude.limit ≤ 10 ^ ((400 : ℕ) : ℤ) := hlarge
    _ ≤ 10 ^ (l.exponent + digitCount l.digits - 1) := zpow_le_zpow_right₀ (by norm_num) (by omega)
    _ ≤ |l.value| := by rwa [abs_value]

/-- Beyond 400 places behind the point it is as good as zero. -/
theorem isClosest_zero (hne : l.digits ≠ 0) (h : l.exponent + digitCount l.digits < -400) :
    |l.value| < Magnitude.limit ∧ Magnitude.zero.IsClosest |l.value| := by
  have hunit : (0 : ℚ) ≤ 2 * unitsPerOne := mul_nonneg zero_le_two (Nat.cast_nonneg _)
  have hlt : 2 * unitsPerOne < 10 ^ 400 := by decide +kernel
  have hpow := Nat.cast_lt (α := ℚ).mpr hlt
  rw [natCast_pow, Nat.cast_mul, Nat.cast_ofNat] at hpow
  have hbounds := (decimal_bounds (d := ⟨l.digits, l.exponent⟩) hne).2
  rw [← abs_value] at hbounds
  have hsmall : ∀ e : ℤ, -400 ≤ e → |l.value| ≤ 10 ^ e := fun e he =>
    hbounds.le.trans (zpow_le_zpow_right₀ (by norm_num) (h.le.trans he))
  refine ⟨(hsmall 0 (by decide)).trans_lt Magnitude.one_lt_limit, Magnitude.isClosest_zero (abs_nonneg _) ?_⟩
  calc 2 * unitsPerOne * |l.value| ≤ 2 * unitsPerOne * 10 ^ (-((400 : ℕ) : ℤ)) :=
        mul_le_mul_of_nonneg_left (hsmall _ le_rfl) hunit
    _ < 10 ^ ((400 : ℕ) : ℤ) * 10 ^ (-((400 : ℕ) : ℤ)) := mul_lt_mul_of_pos_right hpow (by positivity)
    _ = 1 := by rw [← zpow_add₀ (by norm_num), add_neg_cancel, zpow_zero]

/-- A literal denotes the nearest number to its value if this is finite. -/
theorem nearest_isFinite_iff : l.nearest = y ∧ y.isFinite = true ↔ y.IsRounded l.negative |l.value| := by
  have hrounded : ∀ {z : Binary64} {x : Magnitude}, z = .finite l.negative x → |l.value| < Magnitude.limit →
      x.IsClosest |l.value| → (z = y ∧ y.isFinite = true ↔ y.IsRounded l.negative |l.value|) := by
    rintro z x rfl hv hx
    rw [Binary64.isRounded_iff hv hx]
    constructor
    · exact fun h => h.1.symm
    · rintro rfl
      exact ⟨rfl, rfl⟩
  unfold nearest
  simp only
  -- The cases in which reading answers without a quotient come first.
  by_cases hzero : l.digits = 0
  · have hvalue : |l.value| = 0 := by rw [abs_value, Decimal.value, hzero, Nat.cast_zero, zero_mul]
    rw [if_pos hzero]
    rw [hvalue] at hrounded ⊢
    refine hrounded rfl (one_pos.trans Magnitude.one_lt_limit) (Magnitude.isClosest_zero le_rfl ?_)
    rw [mul_zero]
    exact one_pos
  rw [if_neg hzero]
  by_cases hlarge : 400 < l.exponent + digitCount l.digits
  · rw [if_pos hlarge]
    constructor
    · rintro ⟨rfl, hfinite⟩
      cases hfinite
    · exact fun h => absurd h.1 (not_lt.mpr (limit_le hzero hlarge))
  rw [if_neg hlarge]
  by_cases hsmall : l.exponent + digitCount l.digits < -400
  · rw [if_pos hsmall]
    obtain ⟨hv, hclosest⟩ := isClosest_zero hzero hsmall
    exact hrounded rfl hv hclosest
  rw [if_neg hsmall, abs_value, Decimal.value_eq_div]
  unfold Decimal.numerator Decimal.denominator
  split
  · exact Binary64.ofRatio_isFinite_iff (Nat.pow_pos (by decide))
  · exact Binary64.ofRatio_isFinite_iff Nat.one_pos

end DecimalLiteral

end Stencil.Number
