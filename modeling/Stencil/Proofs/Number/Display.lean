import Stencil.Proofs.Number.Reading

/-!
# Displayed numbers, read back

The default text of a number is a numeral with a sign and perhaps a point, and it denotes this number. Zero
loses its sign.

* `ShowsNumber`: a text is such a numeral, and denotes a number.
* `showsNumber_intNumeral`, `showsNumber_displayText`: the default texts of integers and numbers.
* `Magnitude.Encloses.isIntegral`: what reads back as a number with a fraction is no integer.
* `displayText_spec`: the default text of a number has a point exactly if the number has a fraction.
-/

namespace Stencil.Number

open Magnitude

variable {cs : List Char} {places n : ℕ} {y : Binary64} {x : Magnitude}

/-- The text is a numeral with a sign and perhaps a point, and denotes a number that is equal to this one. -/
def ShowsNumber (y : Binary64) (cs : List Char) : Prop :=
  ∃ negative numeral places n, cs = signed negative numeral ∧ IsFixed places n numeral ∧
    (DecimalLiteral.nearest ⟨negative, n, -(places : ℤ)⟩).equals y = true

theorem isFinite_of_equals {z : Binary64} (h : z.equals y = true) (hy : y.isFinite = true) :
    z.isFinite = true := by
  cases z with
  | nan => cases h
  | finite => rfl
  | infinite =>
    cases y with
    | finite => cases h
    | _ => cases hy

/-- The text denotes the number that it shows. -/
theorem ShowsNumber.number? (h : ShowsNumber y cs) (hy : y.isFinite = true) :
    ∃ z, Number.number? (String.ofList cs) = some z ∧ z.equals y = true := by
  obtain ⟨negative, numeral, places, n, rfl, hfixed, hequals⟩ := h
  exact ⟨_, number?_of_isFixed negative hfixed (isFinite_of_equals hequals hy), hequals⟩

/-! ## Integers -/

/-- The literal of an integer of 64 bits denotes it. -/
theorem nearest_integer {i : ℤ} (h : i.natAbs ≤ 2 ^ 63) :
    DecimalLiteral.nearest ⟨decide (i < 0), i.natAbs, 0⟩ = Binary64.ofInt i := by
  by_cases hzero : i.natAbs = 0
  · obtain rfl : i = 0 := Int.natAbs_eq_zero.mp hzero
    have hunits : Magnitude.zero.units = (0 : ℤ).natAbs * unitsPerOne := by
      rw [Int.natAbs_zero, Nat.zero_mul]
      rfl
    rw [Int.natAbs_zero, DecimalLiteral.nearest_zero, Binary64.ofInt_of_units hunits]
  · have hcount : digitCount i.natAbs ≤ 19 :=
      (digitCount_le_iff (by decide)).mpr (lt_of_le_of_lt h (by decide))
    simp only [DecimalLiteral.nearest]
    rw [if_neg hzero, if_neg (by omega), if_neg (by omega), if_neg (by omega), Binary64.ofInt, Int.natAbs_zero,
      Nat.pow_zero, Nat.mul_one]

/-- An integer is shown as its numeral. -/
theorem showsNumber_intNumeral (i : Int64) : ShowsNumber (.ofInt i.toInt) (intNumeral i.toInt) := by
  have hnumeral : intNumeral i.toInt = signed (decide (i.toInt < 0)) (numeral 10 i.toInt.natAbs) := by
    rw [intNumeral, signed]
    simp only [decide_eq_true_eq]
  refine ⟨_, _, 0, _, hnumeral, isFixed_pointText 0 i.toInt.natAbs, ?_⟩
  have hnearest := nearest_integer (natAbs_toInt_le i)
  rw [Nat.cast_zero, Int.neg_zero, hnearest]
  exact Binary64.equals_self_of_isFinite (isFinite_ofInt i)

/-! ## Decimals -/

/-- A decimal without an exponent is a numeral of its value, with a point if the last digit is behind one. -/
theorem isFixed_positional (d : Decimal) : ∃ places n, IsFixed places n d.positional ∧
    (⟨n, -(places : ℤ)⟩ : Decimal).value = d.value ∧ (places = 0 ↔ 0 ≤ d.exponent) := by
  rw [Decimal.positional]
  split
  · refine ⟨_, _, isFixed_pointText d.exponent.natAbs d.coefficient, ?_, by omega⟩
    rw [Decimal.value_mk, Decimal.value, show -(d.exponent.natAbs : ℤ) = d.exponent by omega]
  · refine ⟨0, _, isFixed_pointText 0 (d.coefficient * 10 ^ d.exponent.natAbs), ?_, by omega⟩
    obtain ⟨k, hk⟩ : ∃ k : ℕ, d.exponent = k := ⟨d.exponent.natAbs, by omega⟩
    rw [Decimal.value_mk, Decimal.value, hk, Int.natAbs_natCast, Nat.cast_mul, natCast_pow]
    simp

theorem Magnitude.isIntegral_of_units {m : ℕ} (h : x.units = m * unitsPerOne) : x.isIntegral = true := by
  simp [isIntegral, h]

theorem Magnitude.value_of_isIntegral (h : x.isIntegral = true) : x.value = x.floor := by
  have hunit : (unitsPerOne : ℚ) ≠ 0 := by exact_mod_cast unitsPerOne_pos.ne'
  rw [Magnitude.value, units_of_isIntegral h, Nat.cast_mul, mul_div_cancel_right₀ _ hunit]

/-- A number without a fraction is an integer. -/
theorem Magnitude.isIntegral_iff (negative : Bool) (x : Magnitude) :
    x.isIntegral = true ↔ ∃ i : ℤ, x.signedValue negative = i := by
  have hunit : (unitsPerOne : ℚ) ≠ 0 := by exact_mod_cast unitsPerOne_pos.ne'
  constructor
  · intro h
    cases negative with
    | false => exact ⟨x.floor, by simp [signedValue, value_of_isIntegral h]⟩
    | true => exact ⟨-x.floor, by simp [signedValue, value_of_isIntegral h]⟩
  · rintro ⟨i, hi⟩
    have hvalue : x.value = i.natAbs := by
      rw [Nat.cast_natAbs, Int.cast_abs, ← hi]
      cases negative <;> simp [signedValue, abs_of_nonneg x.value_nonneg]
    rw [Magnitude.value, div_eq_iff hunit] at hvalue
    exact isIntegral_of_units (by exact_mod_cast hvalue)

/-- A magnitude that a natural number reads back as has no fraction. -/
theorem Magnitude.Encloses.isIntegral (h : x.Encloses n) : x.isIntegral = true := by
  by_cases hscale : 1074 ≤ x.scale
  · -- The step is a whole number.
    obtain ⟨k, hk⟩ := Nat.exists_eq_add_of_le' hscale
    have hpow : ∀ j, x.scale = k + j → 2 ^ x.scale = 2 ^ k * 2 ^ j := fun j hj => by rw [hj, Nat.pow_add]
    apply isIntegral_of_units (m := x.mantissa * 2 ^ k)
    rw [units, unitsPerOne, hpow 1074 hk, Nat.mul_assoc]
  · -- The natural number is a multiple of the step, and at most half a step away.
    obtain ⟨k, hk⟩ := Nat.exists_eq_add_of_le' (show x.scale ≤ 1074 by omega)
    have hunit : unitsPerOne = 2 ^ k * 2 ^ x.scale := by rw [unitsPerOne, hk, Nat.pow_add]
    obtain ⟨hlow, hhigh⟩ := h.bounds
    have hpos : (0 : ℚ) < (2 ^ x.scale : ℕ) := by positivity
    rw [units, hunit, Nat.cast_mul, Nat.cast_mul] at hlow hhigh
    have hle : (x.mantissa : ℚ) < (2 ^ k * n : ℕ) + 1 := by
      refine lt_of_mul_lt_mul_right ?_ hpos.le
      push_cast at *
      linarith
    have hge : ((2 ^ k * n : ℕ) : ℚ) < x.mantissa + 1 := by
      refine lt_of_mul_lt_mul_right ?_ hpos.le
      push_cast at *
      linarith
    have hle : x.mantissa < 2 ^ k * n + 1 := by exact_mod_cast hle
    have hge : 2 ^ k * n < x.mantissa + 1 := by exact_mod_cast hge
    have hmantissa : x.mantissa = 2 ^ k * n := by omega
    apply isIntegral_of_units (m := n)
    rw [units, hmantissa, hunit, Nat.mul_comm n, Nat.mul_right_comm]

/-- The shortest decimal of a magnitude with a fraction has digits behind the point. -/
theorem exponent_shortest_neg (tie : Tie) (h : x.isIntegral = false) : (x.shortest tie).exponent < 0 := by
  by_contra hexponent
  have hencloses := (isShortest_shortest tie x).encloses
  rw [Decimal.value_eq_div, Decimal.denominator, if_neg hexponent, Nat.cast_one, div_one] at hencloses
  rw [hencloses.isIntegral] at h
  cases h

/-- The default text of a finite number is a numeral, with a point if the number has a fraction. The literal of
it denotes the number; zero loses its sign. -/
theorem displayText_spec (negative : Bool) (x : Magnitude) : ∃ cs places n,
    (Binary64.finite negative x).displayText = signed (negative && !x.isZero) cs ∧ IsFixed places n cs ∧
      (places = 0 ↔ x.isIntegral = true) ∧
      DecimalLiteral.nearest ⟨negative && !x.isZero, n, -(places : ℤ)⟩ = .finite (negative && !x.isZero) x := by
  -- Zero, integers in full, and otherwise the shortest decimal: the branches of the text itself.
  cases hzero : x.isZero with
  | true =>
    have hunits := isZero_iff_units.mp hzero
    have hx : x = .zero := units_injective (hunits.trans rfl)
    have hnumeral : pointText 0 0 = ['0'] := by
      rw [pointText, if_pos rfl, numeral, digits_of_lt (by decide)]
      rfl
    have hintegral : x.isIntegral = true := isIntegral_of_units (hunits.trans (Nat.zero_mul _).symm)
    rw [Bool.not_true, Bool.and_false]
    exact ⟨['0'], 0, 0, if_pos hzero, hnumeral ▸ isFixed_pointText 0 0, iff_of_true rfl hintegral,
      hx ▸ DecimalLiteral.nearest_zero false 0⟩
  | false =>
    have htext : (Binary64.finite negative x).displayText = if x.isIntegral then signed negative (numeral 10 x.floor)
        else signed negative (plainStyle.render x) := if_neg (by simp [hzero])
    rw [Bool.not_false, Bool.and_true, htext]
    cases hintegral : x.isIntegral with
    | true =>
      have hvalue : (⟨x.floor, -((0 : ℕ) : ℤ)⟩ : Decimal).value = x.value := by
        simp [Decimal.value_mk, value_of_isIntegral hintegral]
      exact ⟨_, 0, _, if_pos rfl, isFixed_pointText 0 x.floor, iff_of_true rfl rfl,
        DecimalLiteral.nearest_of_encloses negative hzero (hvalue ▸ encloses_value hzero)⟩
    | false =>
      obtain ⟨places, n, hfixed, hvalue, hplaces⟩ := isFixed_positional (x.shortest .away)
      have hrender : plainStyle.render x = (x.shortest .away).positional := List.append_nil _
      have hexponent := exponent_shortest_neg .away hintegral
      exact ⟨_, places, n, if_neg Bool.false_ne_true, hrender ▸ hfixed, by simp [hplaces, hexponent],
        DecimalLiteral.nearest_of_encloses negative hzero (hvalue ▸ (isShortest_shortest .away x).encloses)⟩

theorem equals_and_not_isZero (negative : Bool) (x : Magnitude) :
    (Binary64.finite (negative && !x.isZero) x).equals (.finite negative x) = true := by
  cases h : x.isZero <;> simp [Binary64.equals, h]

/-- A finite number is shown by its default text. -/
theorem showsNumber_displayText (negative : Bool) (x : Magnitude) :
    ShowsNumber (.finite negative x) (Binary64.finite negative x).displayText := by
  obtain ⟨cs, places, n, htext, hfixed, -, hnearest⟩ := displayText_spec negative x
  exact ⟨_, cs, places, n, htext, hfixed, hnearest ▸ equals_and_not_isZero negative x⟩

end Stencil.Number
