import Stencil.Proofs.Number.Shortest

/-!
# What reads back as a magnitude

Between the middles below and above a magnitude it is the nearest one. Seventeen digits are enough for a
decimal in this interval.

* `Magnitude.Encloses`: the interval. The test for decimals in it is exact (`Magnitude.readsBack_iff`).
* `Magnitude.nearest?_of_encloses`: what is in the interval is rounded to the magnitude.
* `Magnitude.readsBack_shortest`: the shortest decimal reads back.
* `Magnitude.digitCount_shortest_le`: no decimal with fewer digits does.
* `Magnitude.isShortest_shortest`: both, of every magnitude.
-/

namespace Stencil.Number.Magnitude

open Decimal

variable {x : Magnitude} {v w : ℚ} {a b n : ℕ} {d : Decimal} {tie : Tie}

/-- The number is between the middles, which count if the mantissa is even. -/
def Encloses (x : Magnitude) (v : ℚ) : Prop :=
  if x.mantissa % 2 = 0 then
    (x.lowEnd : ℚ) ≤ 4 * unitsPerOne * v ∧ 4 * unitsPerOne * v ≤ x.highEnd
  else (x.lowEnd : ℚ) < 4 * unitsPerOne * v ∧ 4 * unitsPerOne * v < x.highEnd

theorem denominator_pos (d : Decimal) : 0 < d.denominator := by
  rw [denominator]
  split
  · exact Nat.pow_pos (by decide)
  · exact Nat.one_pos

/-- The test for decimals in the interval is exact. -/
theorem readsBack_iff : x.readsBack d = true ↔ x.Encloses d.value := by
  have hden : (0 : ℚ) < d.denominator := by exact_mod_cast denominator_pos d
  have hvalue : 4 * unitsPerOne * d.value = (4 * unitsPerOne * d.numerator : ℕ) / d.denominator := by
    rw [value_eq_div, Nat.cast_mul, Nat.cast_mul, mul_div_assoc]
    rfl
  rw [readsBack, Encloses, hvalue]
  split
  · rw [le_div_iff₀ hden, div_le_iff₀ hden, Bool.and_eq_true, decide_eq_true_iff, decide_eq_true_iff]
    norm_cast
  · rw [lt_div_iff₀ hden, div_lt_iff₀ hden, Bool.and_eq_true, decide_eq_true_iff, decide_eq_true_iff]
    norm_cast

/-- The interval has no gaps. -/
theorem Encloses.between (h : x.Encloses v) {v' : ℚ} (h' : x.Encloses v') (hlow : v ≤ w)
    (hhigh : w ≤ v') : x.Encloses w := by
  have hunit : (0 : ℚ) ≤ 4 * unitsPerOne := by positivity
  have hlow := mul_le_mul_of_nonneg_left hlow hunit
  have hhigh := mul_le_mul_of_nonneg_left hhigh hunit
  rw [Encloses] at h h' ⊢
  split at h
  · rw [if_pos ‹_›] at h' ⊢
    exact ⟨h.1.trans hlow, hhigh.trans h'.2⟩
  · rw [if_neg ‹_›] at h' ⊢
    exact ⟨h.1.trans_le hlow, hhigh.trans_lt h'.2⟩

/-! ## The ends -/

theorem highEnd_eq (x : Magnitude) : (x.highEnd : ℚ) = 4 * x.units + 2 * (2 ^ x.scale : ℕ) := by
  rw [highEnd]
  push_cast
  rfl

theorem two_pow_scale_le_units (h : x.isZero = false) : 2 ^ x.scale ≤ x.units :=
  Nat.le_mul_of_pos_left _ (Nat.pos_of_ne_zero (mantissa_ne_zero h))

/-- The lower end is half a step below, or a quarter of a step for a power of two. -/
theorem lowEnd_eq (h : x.isZero = false) : (x.lowEnd : ℚ) =
    4 * x.units - (if x.mantissa = 2 ^ 52 ∧ x.scale ≠ 0 then 1 else 2) * (2 ^ x.scale : ℕ) := by
  have hle := two_pow_scale_le_units h
  rw [lowEnd]
  split
  · rw [Nat.cast_sub (by omega), Nat.cast_mul, one_mul]
    rfl
  · rw [Nat.cast_sub (by omega), Nat.cast_mul, Nat.cast_mul]
    rfl

theorem le_lowEnd (x : Magnitude) : (4 * x.units : ℚ) - 2 * (2 ^ x.scale : ℕ) ≤ x.lowEnd := by
  have hle : 4 * x.units ≤ x.lowEnd + 2 * 2 ^ x.scale := by
    rw [lowEnd]
    split <;> omega
  have hle : ((4 * x.units : ℕ) : ℚ) ≤ (x.lowEnd + 2 * 2 ^ x.scale : ℕ) := by exact_mod_cast hle
  rw [Nat.cast_mul, Nat.cast_add, Nat.cast_mul] at hle
  have h4 : ((4 : ℕ) : ℚ) = 4 := rfl
  have h2 : ((2 : ℕ) : ℚ) = 2 := rfl
  rw [h4, h2] at hle
  linarith

/-- What is in the interval is at most half a step away. -/
theorem Encloses.bounds (h : x.Encloses v) :
    (x.units : ℚ) - (2 ^ x.scale : ℕ) / 2 ≤ unitsPerOne * v ∧
      unitsPerOne * v ≤ x.units + (2 ^ x.scale : ℕ) / 2 := by
  have hlow := x.le_lowEnd
  have hhigh := x.highEnd_eq
  have hle : (x.lowEnd : ℚ) ≤ 4 * unitsPerOne * v ∧ 4 * unitsPerOne * v ≤ x.highEnd := by
    rw [Encloses] at h
    split at h
    · exact h
    · exact ⟨h.1.le, h.2.le⟩
  constructor <;> linarith

/-- It is less than half a step away if the mantissa is odd. -/
theorem Encloses.bounds_of_odd (h : x.Encloses v) (hodd : x.mantissa % 2 ≠ 0) :
    (x.units : ℚ) - (2 ^ x.scale : ℕ) / 2 < unitsPerOne * v ∧
      unitsPerOne * v < x.units + (2 ^ x.scale : ℕ) / 2 := by
  have hlow := x.le_lowEnd
  have hhigh := x.highEnd_eq
  rw [Encloses, if_neg hodd] at h
  constructor <;> linarith

/-- Below a power of two the magnitudes are nearer to each other. -/
theorem Encloses.quarter_le (h : x.Encloses v) (hmantissa : x.mantissa = 2 ^ 52) (hscale : x.scale ≠ 0) :
    (x.units : ℚ) - (2 ^ x.scale : ℕ) / 4 ≤ unitsPerOne * v := by
  have hzero : x.isZero = false := by
    rw [isZero, hmantissa]
    rfl
  have hlow := lowEnd_eq hzero
  rw [if_pos ⟨hmantissa, hscale⟩] at hlow
  rw [Encloses, if_pos (by rw [hmantissa]; rfl)] at h
  linarith

theorem encloses_of_lt (hlow : (x.lowEnd : ℚ) < 4 * unitsPerOne * v)
    (hhigh : 4 * unitsPerOne * v < x.highEnd) : x.Encloses v := by
  rw [Encloses]
  split
  · exact ⟨hlow.le, hhigh.le⟩
  · exact ⟨hlow, hhigh⟩

theorem unitsPerOne_mul_step (x : Magnitude) : unitsPerOne * x.step = (2 ^ x.scale : ℕ) := by
  have hunit : (unitsPerOne : ℚ) ≠ 0 := by exact_mod_cast unitsPerOne_pos.ne'
  rw [step, mul_div_cancel₀ _ hunit]

/-- What is above a magnitude by less than half a step is in the interval. -/
theorem encloses_above (h : x.isZero = false) (hlow : x.value ≤ v) (hhigh : v < x.value + x.step / 2) :
    x.Encloses v := by
  have hunit : (0 : ℚ) < unitsPerOne := by exact_mod_cast unitsPerOne_pos
  have hpow : (0 : ℚ) < (2 ^ x.scale : ℕ) := by positivity
  have hlow := mul_le_mul_of_nonneg_left hlow hunit.le
  have hhigh := mul_lt_mul_of_pos_left hhigh hunit
  rw [mul_add, mul_div_assoc', unitsPerOne_mul_step] at hhigh
  rw [unitsPerOne_mul_value] at hlow hhigh
  have hend : (x.lowEnd : ℚ) < 4 * x.units := by
    rw [lowEnd_eq h]
    split <;> linarith
  have hend' := x.highEnd_eq
  exact encloses_of_lt (by linarith) (by linarith)

/-- What is below it by less than half a step is in the interval, unless it is a power of two. -/
theorem encloses_below (h : x.isZero = false) (hmantissa : x.mantissa ≠ 2 ^ 52)
    (hlow : x.value - x.step / 2 < v) (hhigh : v ≤ x.value) : x.Encloses v := by
  have hunit : (0 : ℚ) < unitsPerOne := by exact_mod_cast unitsPerOne_pos
  have hpow : (0 : ℚ) < (2 ^ x.scale : ℕ) := by positivity
  have hlow := mul_lt_mul_of_pos_left hlow hunit
  have hhigh := mul_le_mul_of_nonneg_left hhigh hunit.le
  rw [mul_sub, mul_div_assoc', unitsPerOne_mul_step] at hlow
  rw [unitsPerOne_mul_value] at hlow hhigh
  have hend := lowEnd_eq h
  rw [if_neg fun h => hmantissa h.1] at hend
  have hend' := x.highEnd_eq
  exact encloses_of_lt (by linarith) (by linarith)

theorem encloses_value (h : x.isZero = false) : x.Encloses x.value :=
  encloses_above h (le_refl _) (by linarith [x.step_pos])

/-! ## Rounding to the nearest magnitude -/

/-- A quotient of a smaller scale needs less than 53 bits. -/
theorem div_lt_of_scaleOf_lt (hb : 0 < b) {s : ℕ} (h : scaleOf a b < s) :
    (a : ℚ) / b < (2 ^ 52 : ℕ) * (2 ^ s : ℕ) := by
  have hb' : (0 : ℚ) < b := by exact_mod_cast hb
  have hlt : a < 2 ^ (52 + s) * b := Nat.not_le.mp fun hle => absurd (le_scaleOf hb hle) (by omega)
  have hlt : (a : ℚ) < (2 ^ (52 + s) * b : ℕ) := Nat.cast_lt.mpr hlt
  rwa [div_lt_iff₀ hb', ← Nat.cast_mul, ← Nat.pow_add, ← Nat.cast_mul]

section

variable (hb : 0 < b) (hv : unitsPerOne * v = (a : ℚ) / b)

include hb hv

theorem Encloses.scaleOf_le (h : x.Encloses v) : scaleOf a b ≤ x.scale := by
  have hb' : (0 : ℚ) < b := by exact_mod_cast hb
  have hpow : (0 : ℚ) < (2 ^ x.scale : ℕ) := by positivity
  have hmantissa : (x.mantissa : ℚ) + 1 ≤ (2 ^ 53 : ℕ) := by exact_mod_cast x.mantissa_lt
  have hmul := mul_le_mul_of_nonneg_right hmantissa hpow.le
  have hle := h.bounds.2
  rw [hv, units, Nat.cast_mul] at hle
  have hlt : (a : ℚ) < (2 ^ (53 + x.scale) * b : ℕ) := by
    rw [Nat.cast_mul, ← div_lt_iff₀ hb', Nat.pow_add, Nat.cast_mul]
    generalize ((2 ^ 53 : ℕ) : ℚ) = bits at *
    linarith
  exact Magnitude.scaleOf_le (Nat.cast_lt.mp hlt)

/-- At the scale of the magnitude the quotient is rounded to its mantissa. -/
theorem Encloses.roundDiv_eq (h : x.Encloses v) : roundDiv .even a (b * 2 ^ x.scale) = x.mantissa := by
  have hpow : (0 : ℚ) < (2 ^ x.scale : ℕ) := by positivity
  have hpos := Nat.mul_pos hb (Nat.two_pow_pos x.scale)
  have hquotient : (a : ℚ) / (b * 2 ^ x.scale : ℕ) = a / b / (2 ^ x.scale : ℕ) := by
    rw [Nat.cast_mul, div_div]
  rcases Nat.mod_two_eq_zero_or_one x.mantissa with heven | hodd
  · obtain ⟨hlow, hhigh⟩ := h.bounds
    rw [hv, units, Nat.cast_mul] at hlow hhigh
    refine roundDiv_even_eq hpos heven ?_ ?_
    · rw [hquotient, le_div_iff₀ hpow]
      linarith
    · rw [hquotient, div_le_iff₀ hpow]
      linarith
  · obtain ⟨hlow, hhigh⟩ := h.bounds_of_odd (by omega)
    rw [hv, units, Nat.cast_mul] at hlow hhigh
    refine roundDiv_eq_of_lt .even hpos ?_ ?_
    · rw [hquotient, lt_div_iff₀ hpow]
      linarith
    · rw [hquotient, div_lt_iff₀ hpow]
      linarith

/-- Only a power of two is the nearest magnitude to a quotient of a smaller scale. -/
theorem Encloses.mantissa_eq (h : x.Encloses v) (hlt : scaleOf a b < x.scale) : x.mantissa = 2 ^ 52 := by
  have hpow : (0 : ℚ) < (2 ^ x.scale : ℕ) := by positivity
  have hnormal := x.normal.resolve_left (by omega)
  have hbelow := div_lt_of_scaleOf_lt hb hlt
  have hle := h.bounds.1
  rw [hv, units, Nat.cast_mul] at hle
  have hlt : (x.mantissa : ℚ) - 1 / 2 < (2 ^ 52 : ℕ) :=
    lt_of_mul_lt_mul_right (by linarith) hpow.le
  have hlt : (x.mantissa : ℚ) < (2 ^ 52 : ℕ) + 1 := by
    generalize ((2 ^ 52 : ℕ) : ℚ) = bits at *
    linarith
  have hlt : x.mantissa < 2 ^ 52 + 1 := by exact_mod_cast hlt
  omega

/-- A quotient of units in the interval is rounded to the magnitude. -/
theorem ofUnits?_of_encloses (h : x.Encloses v) : ofUnits? a b = some x := by
  rcases Nat.eq_or_lt_of_le (h.scaleOf_le hb hv) with hscale | hlt
  · simp only [ofUnits?, hscale, h.roundDiv_eq hb hv, x.scale_le, x.mantissa_lt, dif_pos]
  -- The quotient is below the power of two that the magnitude is, and is rounded up to it.
  have hmantissa := h.mantissa_eq hb hv hlt
  obtain ⟨s, hs⟩ : ∃ s, x.scale = s + 1 := ⟨x.scale - 1, by omega⟩
  have hb' : (0 : ℚ) < b := by exact_mod_cast hb
  have hpow : (0 : ℚ) < (2 ^ s : ℕ) := by positivity
  have hdouble : ((2 ^ x.scale : ℕ) : ℚ) = 2 * (2 ^ s : ℕ) := by
    rw [hs, Nat.pow_succ, Nat.cast_mul, mul_comm]
    rfl
  have hbits : ((2 ^ 53 : ℕ) : ℚ) = 2 * (2 ^ 52 : ℕ) := by norm_num
  have hone : (1 : ℚ) ≤ (2 ^ 52 : ℕ) := by norm_num
  have hlow := h.quarter_le hmantissa (by omega)
  have hhigh := div_lt_of_scaleOf_lt hb hlt
  rw [hv, units, hmantissa, Nat.cast_mul, hdouble] at hlow
  rw [hdouble] at hhigh
  have hscale : scaleOf a b = s := by
    have hle : ((2 ^ (52 + s) * b : ℕ) : ℚ) ≤ a := by
      have hmul := mul_le_mul_of_nonneg_right hone hpow.le
      rw [Nat.cast_mul, ← le_div_iff₀ hb', Nat.pow_add, Nat.cast_mul]
      linarith
    have hle := le_scaleOf hb (Nat.cast_le.mp hle)
    omega
  have hround : roundDiv .even a (b * 2 ^ s) = 2 ^ 53 := by
    have hquotient : (a : ℚ) / (b * 2 ^ s : ℕ) = a / b / (2 ^ s : ℕ) := by
      rw [Nat.cast_mul, div_div]
    refine roundDiv_even_eq (Nat.mul_pos hb (Nat.two_pow_pos s)) (by decide) ?_ ?_
    · rw [hquotient, le_div_iff₀ hpow, hbits]
      generalize ((2 ^ 52 : ℕ) : ℚ) = bits at *
      linarith
    · rw [hquotient, div_le_iff₀ hpow, hbits]
      generalize ((2 ^ 52 : ℕ) : ℚ) = bits at *
      linarith
  have hscale_le := x.scale_le
  simp only [ofUnits?, hscale, hround]
  rw [dif_pos (by omega), dif_neg (by decide), dif_pos (by omega)]
  refine congrArg some (units_injective ?_)
  rw [units, units, hmantissa, hs]

end

/-- A quotient in the interval is rounded to the magnitude. -/
theorem nearest?_of_encloses (hb : 0 < b) (h : x.Encloses (a / b)) : nearest? a b = some x := by
  refine ofUnits?_of_encloses hb ?_ h
  rw [Nat.cast_mul, mul_div_assoc', mul_comm]

/-! ## Seventeen digits -/

theorem lt_floorAt_add_one (x : Magnitude) (e : ℤ) : x.value < (⟨floorAt x e + 1, e⟩ : Decimal).value := by
  have hpos : (0 : ℚ) < 10 ^ e := by positivity
  have hden := scaleDown_pos x.units unitsPerOne_pos e
  have hden' : (0 : ℚ) < (scaleDown x.units unitsPerOne e).2 := by exact_mod_cast hden
  have hquotient := scaleDown_eq x.units unitsPerOne e
  rw [← value] at hquotient
  rw [value_mk, ← div_lt_iff₀ hpos, ← hquotient, div_lt_iff₀ hden']
  exact_mod_cast Nat.lt_mul_of_div_lt (Nat.lt_succ_self (floorAt x e)) hden

/-- A decimal of `n` digits is found if one of the two around the magnitude reads back. -/
theorem shortestOf?_eq_none_iff (tie : Tie) (n : ℕ) {e : ℤ} (he : x.exponent - (n - 1 : ℕ) = e) :
    x.shortestOf? tie n = none ↔
      x.readsBack ⟨floorAt x e, e⟩ = false ∧ x.readsBack ⟨floorAt x e + 1, e⟩ = false := by
  have hfloorAt : (scaleDown x.units unitsPerOne e).1 / (scaleDown x.units unitsPerOne e).2 =
      floorAt x e := rfl
  unfold exponent at he
  unfold shortestOf?
  simp only [he, hfloorAt]
  cases x.readsBack ⟨floorAt x e, e⟩ <;> cases x.readsBack ⟨floorAt x e + 1, e⟩ <;> simp

theorem readsBack_of_shortestOf? (h : x.shortestOf? tie n = some d) : x.readsBack d = true := by
  generalize he : x.exponent - ((n - 1 : ℕ) : ℤ) = e
  have hfloorAt : (scaleDown x.units unitsPerOne e).1 / (scaleDown x.units unitsPerOne e).2 =
      floorAt x e := rfl
  have hroundAt : roundDiv tie (scaleDown x.units unitsPerOne e).1 (scaleDown x.units unitsPerOne e).2 =
      roundAt tie x e := rfl
  unfold exponent at he
  unfold shortestOf? at h
  simp only [he, hfloorAt, hroundAt] at h
  split at h
  · rename_i hlow hhigh
    obtain rfl := Option.some.inj h
    rcases roundAt_eq tie x e with hround | hround <;> rw [hround]
    · exact hlow
    · exact hhigh
  · rename_i hlow _
    obtain rfl := Option.some.inj h
    exact hlow
  · rename_i _ hhigh
    obtain rfl := Option.some.inj h
    exact hhigh
  · cases h

/-- The 17th digit of a magnitude weighs less than a step, and less than half a step for a power of two. -/
theorem weight_lt_step (h : x.isZero = false) :
    (10 : ℚ) ^ (x.exponent - 16) < x.step ∧
      (x.mantissa = 2 ^ 52 → (10 : ℚ) ^ (x.exponent - 16) < x.step / 2) := by
  have hstep := x.step_pos
  have hweight : (10 : ℚ) ^ (16 : ℤ) * 10 ^ (x.exponent - 16) ≤ x.mantissa * x.step := by
    rw [← zpow_add₀ (by norm_num), add_sub_cancel, ← value_eq]
    exact (exponent_spec h).1
  constructor
  · have hmantissa : (x.mantissa : ℚ) ≤ 2 ^ 53 := by exact_mod_cast x.mantissa_lt.le
    have := mul_le_mul_of_nonneg_right hmantissa hstep.le
    norm_num at *
    linarith
  · intro hmantissa
    rw [hmantissa] at hweight
    norm_num at hweight
    linarith

/-- Seventeen digits are enough. -/
theorem exists_shortestOf? (tie : Tie) (h : x.isZero = false) : ∃ d, x.shortestOf? tie 17 = some d := by
  obtain ⟨hweight, hweight'⟩ := weight_lt_step h
  obtain ⟨e, he⟩ : ∃ e, x.exponent - ((17 - 1 : ℕ) : ℤ) = e := ⟨_, rfl⟩
  rw [show x.exponent - 16 = e by omega] at hweight hweight'
  rw [← Option.ne_none_iff_exists']
  intro hnone
  obtain ⟨hlow, hhigh⟩ := (shortestOf?_eq_none_iff tie 17 he).mp hnone
  rw [← Bool.not_eq_true, readsBack_iff] at hlow hhigh
  have hle := floorAt_le x e
  have hlt := lt_floorAt_add_one x e
  have hnext : (⟨floorAt x e + 1, e⟩ : Decimal).value = (⟨floorAt x e, e⟩ : Decimal).value + 10 ^ e := by
    rw [value_mk, value_mk, Nat.cast_succ, add_one_mul]
  have habove : x.value + x.step / 2 ≤ (⟨floorAt x e + 1, e⟩ : Decimal).value :=
    not_lt.mp fun hnear => hhigh (encloses_above h hlt.le hnear)
  by_cases hmantissa : x.mantissa = 2 ^ 52
  · have := hweight' hmantissa
    linarith
  · have hbelow : (⟨floorAt x e, e⟩ : Decimal).value ≤ x.value - x.step / 2 :=
      not_lt.mp fun hnear => hlow (encloses_below h hmantissa hnear hle)
    linarith

/-! ## The shortest decimal -/

theorem Encloses.pos (hv : x.Encloses v) (h : x.isZero = false) : 0 < v := by
  have hle := two_pow_scale_le_units h
  have hle : ((2 ^ x.scale : ℕ) : ℚ) ≤ x.units := by exact_mod_cast hle
  have hpow : (0 : ℚ) < (2 ^ x.scale : ℕ) := by positivity
  have hunit : (0 : ℚ) < unitsPerOne := by exact_mod_cast unitsPerOne_pos
  have hpos : (0 : ℚ) < unitsPerOne * v := by linarith [hv.bounds.1]
  exact (pos_iff_pos_of_mul_pos hpos).mp hunit

/-- The shortest decimal is the first one that is found, without the zeros at its end. -/
theorem exists_first (tie : Tie) (h : x.isZero = false) : ∃ n d, 1 ≤ n ∧
    x.shortestOf? tie n = some d ∧ (∀ m, 1 ≤ m → m < n → x.shortestOf? tie m = none) ∧
      x.shortest tie = d.trimZeros := by
  obtain ⟨last, hlast⟩ := exists_shortestOf? tie h
  simp only [shortest, h, Bool.false_eq_true, if_false]
  cases hfound : (List.range' 1 17).findSome? (x.shortestOf? tie) with
  | none =>
    have := List.findSome?_eq_none_iff.mp hfound 17 (by decide)
    rw [hlast] at this
    cases this
  | some d =>
    obtain ⟨before, n, after, hrange, hd, hbefore⟩ := List.findSome?_eq_some_iff.mp hfound
    have hmem : n ∈ List.range' 1 17 := by
      rw [hrange]
      exact List.mem_append_right _ List.mem_cons_self
    -- The counts of digits are tried in ascending order, so every smaller one has been tried before.
    have hsorted : (before ++ n :: after).Pairwise (· < ·) := hrange ▸ List.pairwise_lt_range'
    have hafter := (List.pairwise_cons.mp (List.pairwise_append.mp hsorted).2.1).1
    refine ⟨n, d, (List.mem_range'_1.mp hmem).1, hd, fun m hm hlt => ?_, rfl⟩
    have hmem' : m ∈ before ++ n :: after := by
      rw [← hrange, List.mem_range'_1]
      have := (List.mem_range'_1.mp hmem).2
      omega
    rcases List.mem_append.mp hmem' with hm | hm
    · exact hbefore m hm
    · rcases List.mem_cons.mp hm with rfl | hm
      · omega
      · have := hafter m hm
        omega

/-- The shortest decimal reads back. -/
theorem readsBack_shortest (tie : Tie) (h : x.isZero = false) : x.readsBack (x.shortest tie) = true := by
  obtain ⟨n, d, hn, hd, -, hshortest⟩ := exists_first tie h
  have hback := readsBack_iff.mp (readsBack_of_shortestOf? hd)
  have hne : d.coefficient ≠ 0 := by
    intro hzero
    have hpos := hback.pos h
    rw [Decimal.value, hzero, Nat.cast_zero, zero_mul] at hpos
    exact lt_irrefl _ hpos
  rw [hshortest, readsBack_iff, value_trimZeros d hne]
  exact hback

/-- If a decimal with at most `n` digits reads back, one of `n` digits is found. -/
theorem shortestOf?_ne_none (tie : Tie) (h : x.isZero = false) (hn : 1 ≤ n) (hd : x.readsBack d = true)
    (hdigits : d.coefficient < 10 ^ n) : x.shortestOf? tie n ≠ none := by
  obtain ⟨places, rfl⟩ : ∃ places, n = places + 1 := ⟨n - 1, by omega⟩
  intro hnone
  obtain ⟨hlow, hhigh⟩ := (shortestOf?_eq_none_iff tie (places + 1) rfl).mp hnone
  have hfloor := (floorAt_bounds h hn).1
  have hvalue := encloses_value h
  rw [Nat.add_sub_cancel] at hlow hhigh hfloor
  rw [← Bool.not_eq_true, readsBack_iff] at hlow hhigh
  rw [readsBack_iff] at hd
  have hpos : (0 : ℚ) < 10 ^ (x.exponent - places) := by positivity
  have hle := floorAt_le x (x.exponent - places)
  have hlt := lt_floorAt_add_one x (x.exponent - places)
  have hpower : (10 : ℚ) ^ x.exponent ≤ (⟨floorAt x (x.exponent - places), x.exponent - places⟩ : Decimal).value := by
    rw [ten_zpow_eq_mul, value_mk]
    exact mul_le_mul_of_nonneg_right (by exact_mod_cast hfloor) hpos.le
  rw [value_mk] at hlow hhigh hle hlt hpower
  rcases le_or_gt d.value x.value with hside | hside
  · -- Then the decimal below the magnitude is between this one and the magnitude.
    refine hlow (hd.between hvalue ?_ hle)
    rcases multiple_or_lt hdigits x.exponent with ⟨k, hk⟩ | hsmall
    · rw [hk] at hside ⊢
      have hlt := lt_of_mul_lt_mul_right (hside.trans_lt hlt) hpos.le
      have hlt : k < floorAt x (x.exponent - places) + 1 := by exact_mod_cast hlt
      exact mul_le_mul_of_nonneg_right (by exact_mod_cast Nat.le_of_lt_succ hlt) hpos.le
    · exact hsmall.le.trans hpower
  · refine hhigh (hvalue.between hd hlt.le ?_)
    rcases multiple_or_lt hdigits x.exponent with ⟨k, hk⟩ | hsmall
    · rw [hk] at hside ⊢
      have hlt := lt_of_mul_lt_mul_right (hle.trans_lt hside) hpos.le
      have hlt : floorAt x (x.exponent - places) < k := by exact_mod_cast hlt
      exact mul_le_mul_of_nonneg_right (by exact_mod_cast hlt) hpos.le
    · exact absurd (hside.trans hsmall) (not_lt.mpr (hpower.trans hle))

/-- No decimal with fewer digits than the shortest one reads back. -/
theorem digitCount_shortest_le (tie : Tie) (h : x.isZero = false) (hd : x.readsBack d = true) :
    digitCount (x.shortest tie).coefficient ≤ digitCount d.coefficient := by
  obtain ⟨n, first, hn, hfirst, hbefore, hshortest⟩ := exists_first tie h
  have hle : n ≤ digitCount d.coefficient := by
    by_contra hlt
    exact shortestOf?_ne_none tie h (digitCount_pos _) hd (lt_pow_digitCount _)
      (hbefore _ (digitCount_pos _) (by omega))
  obtain ⟨c, rfl, hc, hmax, -⟩ := shortestOf?_spec h hn hfirst
  refine le_trans ?_ hle
  rw [hshortest]
  rcases Nat.eq_or_lt_of_le hmax with rfl | hlt
  · -- A power of ten is left with one digit.
    have htrim := trimZeros_mul Nat.one_ne_zero (x.exponent - (n - 1 : ℕ)) n
    rw [Nat.one_mul] at htrim
    have hdone : ¬ (1 ≠ 0 ∧ 1 % 10 = 0) := by decide
    rw [htrim, trimZeros, dif_neg hdone]
    exact (digitCount_of_lt (show 1 < 10 by decide)).trans_le hn
  · obtain ⟨k, hk, -⟩ := exists_trimZeros ⟨c, x.exponent - (n - 1 : ℕ)⟩ hc.ne'
    have hk : c = (trimZeros ⟨c, x.exponent - (n - 1 : ℕ)⟩).coefficient * 10 ^ k := hk
    refine (digitCount_le_iff hn).mpr (lt_of_le_of_lt ?_ hlt)
    conv_rhs => rw [hk]
    exact Nat.le_mul_of_pos_right _ (Nat.pow_pos (by decide))

/-- The decimal is in the interval, and no decimal with fewer digits is. -/
structure IsShortest (x : Magnitude) (d : Decimal) : Prop where
  encloses : x.Encloses d.value
  least : ∀ d' : Decimal, x.Encloses d'.value → digitCount d.coefficient ≤ digitCount d'.coefficient

/-- The shortest decimal is one. -/
theorem isShortest_shortest (tie : Tie) (x : Magnitude) : x.IsShortest (x.shortest tie) := by
  cases h : x.isZero with
  | false =>
    exact ⟨readsBack_iff.mp (readsBack_shortest tie h),
      fun d' hd' => digitCount_shortest_le tie h (readsBack_iff.mpr hd')⟩
  | true =>
    have hmantissa : x.mantissa = 0 := by simpa [isZero] using h
    have hunits : x.units = 0 := isZero_iff_units.mp h
    have hzero : x.shortest tie = ⟨0, 0⟩ := if_pos h
    have hlow : x.lowEnd = 0 := by rw [lowEnd, hunits, Nat.mul_zero, Nat.zero_sub]
    have hvalue : (⟨0, 0⟩ : Decimal).value = 0 := by rw [value_mk, Nat.cast_zero, zero_mul]
    rw [hzero]
    refine ⟨?_, fun d' _ => (digitCount_of_lt (by decide)).trans_le (digitCount_pos d'.coefficient)⟩
    rw [Encloses, hmantissa, if_pos rfl, hvalue, mul_zero, hlow]
    exact ⟨le_of_eq Nat.cast_zero, Nat.cast_nonneg _⟩

end Stencil.Number.Magnitude
