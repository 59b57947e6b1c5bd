import Stencil.Proofs.Directive.Real
import Stencil.Proofs.Percent.Rounding

/-!
# Numbers fitted into a width in templates

What `%8f` and `%8e` put in place of a number: a decimal with as many places as the width leaves room for,
and as much of the mantissa as it does.

* `format_fixed_width`, `format_exponential_width`: the main results.
-/

namespace Stencil

open Number Number.Magnitude Number.Decimal

namespace Percent

open Directive

variable {digits : List Char} {width : Nat} {arg : Value} {negative : Bool} {x : Magnitude}

theorem written_of_numeral (left : Bool) {letter : Char} (h : ofNumeral? 10 digits = some width)
    (hletter : letter.isAlpha = true) : Field.Written ⟨left, digits, none, letter⟩ :=
  ⟨(digits_of_ofNumeral? h).2, nofun, hletter⟩

theorem run_format_fixed_width (left : Bool) (h : ofNumeral? 10 digits = some width)
    (hmax : width ≤ maxFieldSize) (harg : arg.number? = some (.finite negative x)) (store : Store) :
    (format builtin (fieldTemplate ⟨left, digits, none, 'f'⟩) [arg]).run store =
      ((orTooNarrow width (Binary64.finite (negative && !x.isZero) x).plainText
        (Real.fitFixed? (negative && !x.isZero) x width)).map fun cs => ⟨true, String.ofList cs⟩, store) := by
  have hf : Field.Written ⟨left, digits, none, 'f'⟩ := written_of_numeral left h rfl
  have hwidth : optionalSize (real ⟨left, digits, none, 'f'⟩) 2 = .ok (some width) :=
    optionalSize_width h hmax
  have hrun := run_format_fixedText hf rfl arg store
  simp only [fixedText, numberOf_eq harg, hwidth, optionalSize_no_precision] at hrun
  exact hrun

/-- **Fixed-point notation in a width.** In place of `%f` with a width up to 100 and a finite number stands
a numeral of the number, if the width is greater than the length of the integer part with its sign;
otherwise the width is too small. The numeral has as many places as there is room for, or one less. Its
length is the width, or one less in just these cases: there is room for no digit, and rounding does not
carry into a new one in front of the point; there is room for one digit, and rounding does carry; or the
number is halfway between two numerals and its step, which is longer than their distance, carries. -/
theorem format_fixed_width (left : Bool) (h : ofNumeral? 10 digits = some width) (hmax : width ≤ 100)
    (harg : arg.number? = some (.finite negative x)) (store : Store) :
    let sign := decide (x.signedValue negative < 0)
    let whole := (signed sign (numeral 10 x.floor)).length
    (width < whole + 1 →
      (format builtin (fieldTemplate ⟨left, digits, none, 'f'⟩) [arg]).run store =
        (.error (.range (.narrowField width (String.ofList (Binary64.finite sign x).plainText))), store)) ∧
    ∀ places, width = whole + 1 + places → ∃ p n cs, (p = places ∨ p + 1 = places) ∧
      (format builtin (fieldTemplate ⟨left, digits, none, 'f'⟩) [arg]).run store =
        (.ok ⟨true, String.ofList (signed sign cs)⟩, store) ∧
      IsFixed p n cs ∧ (IsNearest (HasPlaces p) x.value ⟨n, -p⟩ ↔ ¬ x.Oversteps p) ∧
      (¬ Real.FallsShort places x → (signed sign cs).length = width) ∧
      (Real.FallsShort places x → (signed sign cs).length + 1 = width) := by
  intro sign whole
  rw [run_format_fixed_width left h hmax harg, ← decide_signedValue_neg]
  constructor
  · intro hsmall
    rw [Real.fitFixed?_eq_none_iff.mpr hsmall]
    rfl
  · rintro places rfl
    obtain ⟨p, hfits⟩ := Real.exists_fits sign x places
    refine ⟨p, _, _, hfits.places_eq, ?_, isFixed_pointText p _, isNearest_fixed_iff p x, hfits.length_eq,
      hfits.length_short⟩
    have hfit : Real.fitFixed? sign x (whole + 1 + places) = some (Real.fixedText sign x p) := hfits.fit_eq
    rw [hfit]
    rfl

/-- Almost ten is rounded up to ten, with one place less than there was room for. -/
theorem format_fixed_width_carry :
    let x : Magnitude := ⟨5119 * 2 ^ 40, 1025, by decide, by decide, .inr (by decide)⟩
    let arg := Value.real (.finite true x)
    let template := fieldTemplate ⟨false, ['5'], none, 'f'⟩
    x.value = 5119 / 512 ∧ ofNumeral? 10 ['5'] = some 5 ∧ 5 ≤ 100 ∧
      arg.number? = some (.finite true x) ∧ ¬ Real.FallsShort 2 x ∧
      ∃ p n cs, (format builtin template [arg]).run Store.empty =
          (.ok ⟨true, String.ofList (signed (decide (x.signedValue true < 0)) cs)⟩, Store.empty) ∧
        IsFixed p n cs ∧ IsNearest (HasPlaces p) x.value ⟨n, -p⟩ ∧
        (signed (decide (x.signedValue true < 0)) cs).length = 5 := by
  intro x arg template
  have hvalue : x.value = 5119 / 512 := by
    rw [value_eq, step_eq]
    norm_num [x]
  have hwidth : ofNumeral? 10 ['5'] = some 5 := rfl
  have harg : arg.number? = some (.finite true x) := rfl
  have hsteps : ∀ p : ℕ, p ≤ 2 → ¬ x.Oversteps p := by
    rintro p hp ⟨-, hstep⟩
    have hpow : (10 : ℚ) ^ (p : ℤ) ≤ 10 ^ (2 : ℤ) := zpow_le_zpow_right₀ (by norm_num) (by omega)
    have hsmall : x.step * 10 ^ (2 : ℤ) ≤ 1 := by
      rw [step_eq]
      norm_num [x]
    have := mul_le_mul_of_nonneg_left hpow x.step_pos.le
    linarith
  have hshort : ¬ Real.FallsShort 2 x := by
    rintro (h | h | h)
    · exact absurd h.1 (by decide)
    · exact absurd h.1 (by decide)
    · exact hsteps 2 (le_refl 2) h.1
  have hwhole : 5 = (signed (decide (x.signedValue true < 0)) (numeral 10 x.floor)).length + 1 + 2 := by
    rw [decide_signedValue_neg]
    decide +kernel
  obtain ⟨p, n, cs, hp, hrun, hfixed, hnearest, hexact, -⟩ :=
    (format_fixed_width false hwidth (by decide) harg Store.empty).2 2 hwhole
  exact ⟨hvalue, hwidth, by decide, harg, hshort, p, n, cs, hrun, hfixed,
    hnearest.mpr (hsteps p (by omega)), hexact hshort⟩

/-- In two characters there is room for the point, but for no digit behind it, and the point is missing. -/
theorem format_fixed_width_short :
    let one : Magnitude := ⟨2 ^ 52, 1022, by decide, by decide, .inr (by decide)⟩
    one.value = 1 ∧ ¬ 2 < (signed false (numeral 10 one.floor)).length + 1 ∧
      (format builtin "%2f" [.real (.finite false one)]).run Store.empty =
        (.ok ⟨true, "1"⟩, Store.empty) ∧
      "1".length ≠ 2 := by
  intro one
  have hvalue : one.value = 1 := by
    rw [value_eq, step_eq]
    norm_num [one]
  refine ⟨hvalue, by decide +kernel, ?_, by decide⟩
  have hwidth : ofNumeral? 10 ['2'] = some 2 := rfl
  have harg : (Value.real (.finite false one)).number? = some (.finite false one) := rfl
  have hrun := run_format_fixed_width false hwidth (by decide) harg Store.empty
  have hfit : Real.fitFixed? (false && !one.isZero) one 2 = some "1".toList := by decide +kernel
  rw [hfit] at hrun
  exact hrun

/-! ## Exponential notation -/

/-- The natural text of a number in exponential notation. -/
theorem run_format_exponential_natural (harg : arg.number? = some (.finite negative x)) (store : Store) :
    (format builtin "%e" [arg]).run store =
      (.ok ⟨true, String.ofList (Real.exponentialText (negative && !x.isZero) x none)⟩, store) := by
  have hf : Field.Written ⟨false, [], none, 'e'⟩ := ⟨nofun, nofun, rfl⟩
  have hrun := run_format_exponentialText hf rfl arg store
  simp only [exponentialText, numberOf_eq harg, optionalSize_no_width, optionalSize_no_precision] at hrun
  exact hrun

theorem run_format_exponential_width (left : Bool) (h : ofNumeral? 10 digits = some width)
    (hmax : width ≤ maxFieldSize) (harg : arg.number? = some (.finite negative x)) (store : Store) :
    (format builtin (fieldTemplate ⟨left, digits, none, 'e'⟩) [arg]).run store =
      ((orTooNarrow width (Real.exponentialText (negative && !x.isZero) x none)
        (Real.fitExponential? (Real.exponentialText (negative && !x.isZero) x none) width)).map fun cs =>
          ⟨true, String.ofList cs⟩, store) := by
  have hf : Field.Written ⟨left, digits, none, 'e'⟩ := written_of_numeral left h rfl
  have hwidth : optionalSize (real ⟨left, digits, none, 'e'⟩) 2 = .ok (some width) :=
    optionalSize_width h hmax
  have hrun := run_format_exponentialText hf rfl arg store
  simp only [exponentialText, numberOf_eq harg, hwidth, optionalSize_no_precision] at hrun
  exact hrun

/-- The natural text is the mantissa of the shortest decimal, and its exponent. -/
theorem exponentialText_none (negative : Bool) (x : Magnitude) :
    Real.exponentialText negative x none =
      signed negative (mantissaText (numeral 10 (x.shortest .away).coefficient)) ++
        exponentText (x.shortest .away).leading := by
  rw [signed_append]
  rfl

/-- **Exponential notation in a width.** The natural text of a number is the mantissa of its shortest
decimal, with a minus sign if the number is negative, and the exponent with its sign. In place of `%e`
with a width up to 100 stand a mantissa and this exponent, if there is room for the exponent, the first
digit and the minus sign; otherwise the width is too small. The mantissa is the one of the natural text
with zeros behind it, if the natural text is not longer than the width, and the beginning of it that there
is room for if it is longer, without a point at the end. -/
theorem format_exponential_width (left : Bool) (h : ofNumeral? 10 digits = some width) (hmax : width ≤ 100)
    (harg : arg.number? = some (.finite negative x)) (store : Store) :
    let sign := decide (x.signedValue negative < 0)
    let shortest := x.shortest .away
    let mantissa := signed sign (mantissaText (numeral 10 shortest.coefficient))
    let suffix := exponentText shortest.leading
    let template := fieldTemplate ⟨left, digits, none, 'e'⟩
    x.IsShortest shortest ∧
    (format builtin "%e" [arg]).run store = (.ok ⟨true, String.ofList (mantissa ++ suffix)⟩, store) ∧
    (width < suffix.length + 1 + (if sign then 1 else 0) →
      (format builtin template [arg]).run store =
        (.error (.range (.narrowField width (String.ofList (mantissa ++ suffix)))), store)) ∧
    (suffix.length + 1 + (if sign then 1 else 0) ≤ width → ∃ cs,
      (format builtin template [arg]).run store = (.ok ⟨true, String.ofList (cs ++ suffix)⟩, store) ∧
      Real.IsFitted mantissa suffix width cs) := by
  intro sign shortest mantissa suffix template
  obtain ⟨first, fraction, hnumeral⟩ := List.exists_cons_of_ne_nil (numeral_ne_nil 10 shortest.coefficient)
  have hn : ofNumeral? 10 (first :: fraction) = some shortest.coefficient :=
    hnumeral ▸ ofNumeral?_numeral shortest.coefficient
  -- The lemmas on fitting are about a first digit and the digits behind it.
  have hmantissa : mantissa = Real.mantissa sign first fraction := by
    simp only [mantissa, hnumeral, mantissaText_eq]
    rfl
  have htext : Real.exponentialText (negative && !x.isZero) x none = mantissa ++ suffix := by
    rw [exponentialText_none, ← decide_signedValue_neg]
  have hrun := run_format_exponential_width left h hmax harg store
  rw [htext] at hrun
  refine ⟨isShortest_shortest .away x, ?_, fun hsmall => ?_, fun hlarge => ?_⟩
  · rw [run_format_exponential_natural harg, htext]
  · have hfit := Real.fitExponential?_eq_none hn hsmall
    rw [← hmantissa] at hfit
    rw [hfit] at hrun
    exact hrun
  · obtain ⟨cs, hfit, hfitted⟩ := Real.fitExponential?_eq_some hn hlarge
    rw [← hmantissa] at hfit hfitted
    rw [hfit] at hrun
    exact ⟨cs, hrun, hfitted⟩

/-- Two and a half is cut behind the point, which is left out too. -/
theorem format_exponential_width_cut :
    let x : Magnitude := ⟨5 * 2 ^ 50, 1023, by decide, by decide, .inr (by decide)⟩
    let arg := Value.real (.finite true x)
    let template := fieldTemplate ⟨false, ['6'], none, 'e'⟩
    x.value = 5 / 2 ∧ ofNumeral? 10 ['6'] = some 6 ∧ 6 ≤ 100 ∧ arg.number? = some (.finite true x) ∧
      (format builtin "%e" [arg]).run Store.empty =
        (.ok ⟨true, String.ofList ("-2.5".toList ++ "e+0".toList)⟩, Store.empty) ∧
      ∃ cs, (format builtin template [arg]).run Store.empty =
          (.ok ⟨true, String.ofList (cs ++ "e+0".toList)⟩, Store.empty) ∧
        Real.IsCut "-2.5".toList 3 cs ∧ (cs ++ "e+0".toList).length = 5 := by
  intro x arg template
  have hvalue : x.value = 5 / 2 := by
    rw [value_eq, step_eq]
    norm_num [x]
  have hwidth : ofNumeral? 10 ['6'] = some 6 := rfl
  have harg : arg.number? = some (.finite true x) := rfl
  have hmantissa : signed (decide (x.signedValue true < 0))
      (mantissaText (numeral 10 (x.shortest .away).coefficient)) = "-2.5".toList := by
    rw [decide_signedValue_neg]
    decide +kernel
  have hsuffix : exponentText (x.shortest .away).leading = "e+0".toList := by decide +kernel
  have hsign : decide (x.signedValue true < 0) = true := by
    rw [decide_signedValue_neg]
    rfl
  obtain ⟨-, hnatural, -, hfit⟩ := format_exponential_width false hwidth (by decide) harg Store.empty
  rw [hmantissa, hsuffix] at hnatural hfit
  rw [hsign] at hfit
  obtain ⟨cs, hrun, hfitted⟩ := hfit (by decide)
  obtain ⟨hcut, -, hlen⟩ := hfitted.cut (by decide)
  exact ⟨hvalue, hwidth, by decide, harg, hnatural, cs, hrun, hcut, Nat.succ.inj hlen⟩

end Percent

end Stencil
