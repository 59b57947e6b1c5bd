import Stencil.Proofs.Number.Exponent
import Stencil.Proofs.Number.Layout
import Stencil.Proofs.Percent.Directive

/-!
# Rounded numbers in templates

What `%.2f` and `%.2e` and their like put in place of a number: a decimal with so many places, or with so
many digits after the first one. It is the nearest one, unless the number is halfway between two and its
step goes past the greater one.

* `run_format_fixed`, `run_format_exponential`: a template that is one such directive becomes its text.
* `format_fixed`, `format_exponential`: the main results.
-/

namespace Stencil

open Number Number.Magnitude Number.Decimal

namespace Directive

/-! ## The directives -/

/-- A precision is written in digits. -/
def IsWritten (precision : Option (List Char)) : Prop :=
  ∀ digits, precision = some digits → digits ≠ [] ∧ ∀ c ∈ digits, c.isDigit = true

/-- The body with this precision and letter. -/
def realBody (precision : Option (List Char)) (letter : Char) : List Char :=
  Field.precisionText precision ++ [letter]

variable {precision : Option (List Char)} {letter : Char}

theorem IsWritten.written (h : IsWritten precision) (hletter : letter.isAlpha = true) :
    Field.Written ⟨false, [], precision, letter⟩ :=
  ⟨nofun, h, hletter⟩

/-- The precision is written and denotes a number of places, or it is missing and so many are meant. -/
def HasPrecision (default : Nat) (precision : Option (List Char)) (places : Nat) : Prop :=
  match precision with
  | none => places = default
  | some digits => ofNumeral? 10 digits = some places

theorem HasPrecision.isWritten {default places : Nat} (h : HasPrecision default precision places) :
    IsWritten precision := by
  rintro digits rfl
  exact digits_of_ofNumeral? h

end Directive

namespace Percent

open Directive

/-- The template that is one directive with a precision and a letter. -/
def realTemplate (precision : Option (List Char)) (letter : Char) : String :=
  String.ofList ('%' :: realBody precision letter)

section

variable {precision : Option (List Char)} {digits : List Char} {places : Nat} {arg : Value}
  {negative : Bool} {x : Magnitude}

theorem run_format_fixed (h : HasPrecision 6 precision places) (hmax : places ≤ maxFieldSize)
    (harg : arg.number? = some (.finite negative x)) (store : Store) :
    (format builtin (realTemplate precision 'f') [arg]).run store =
      (.ok ⟨true, String.ofList (Real.fixedText (negative && !x.isZero) x places)⟩, store) := by
  have hf : Field.Written ⟨false, [], precision, 'f'⟩ := h.isWritten.written rfl
  have hrun := run_format_fixedText hf rfl arg store
  cases precision with
  | none =>
    obtain rfl : places = 6 := h
    simp only [fixedText, numberOf_eq harg, optionalSize_no_width, optionalSize_no_precision] at hrun
    exact hrun
  | some digits =>
    have hsize : optionalSize (real ⟨false, [], some digits, 'f'⟩) 3 = .ok (some places) :=
      optionalSize_precision rfl h hmax
    simp only [fixedText, numberOf_eq harg, optionalSize_no_width, hsize] at hrun
    exact hrun

theorem run_format_exponential (h : ofNumeral? 10 digits = some places) (hmax : places ≤ maxFieldSize)
    (harg : arg.number? = some (.finite negative x)) (store : Store) :
    (format builtin (realTemplate (some digits) 'e') [arg]).run store =
      (.ok ⟨true, String.ofList (Real.exponentialText (negative && !x.isZero) x (some places))⟩, store) := by
  have hwritten : IsWritten (some digits) := by
    rintro _ ⟨⟩
    exact digits_of_ofNumeral? h
  have hf : Field.Written ⟨false, [], some digits, 'e'⟩ := hwritten.written rfl
  have hrun := run_format_exponentialText hf rfl arg store
  have hsize : optionalSize (real ⟨false, [], some digits, 'e'⟩) 3 = .ok (some places) :=
    optionalSize_precision rfl h hmax
  simp only [exponentialText, numberOf_eq harg, optionalSize_no_width, hsize] at hrun
  exact hrun

theorem signed_isZero (negative : Bool) (x : Magnitude) (cs : List Char) :
    signed (negative && !x.isZero) cs = signed (decide (x.signedValue negative < 0)) cs := by
  rw [decide_signedValue_neg]

/-- **Fixed-point notation.** In place of `%f` with up to 100 places, six if none are given, and a finite
number stands a numeral with just these places, with a minus sign if the number is negative. The numeral
is the nearest one to the number without its sign, and the greater one of two equally near ones, unless
the number is halfway between two and the step to the next number is longer than the distance of the
two. In this case alone it is another one. -/
theorem format_fixed (h : HasPrecision 6 precision places) (hmax : places ≤ 100)
    (harg : arg.number? = some (.finite negative x)) (store : Store) :
    ∃ cs n, (format builtin (realTemplate precision 'f') [arg]).run store =
        (.ok ⟨true, String.ofList (signed (decide (x.signedValue negative < 0)) cs)⟩, store) ∧
      IsFixed places n cs ∧
      (IsNearest (HasPlaces places) x.value ⟨n, -places⟩ ↔ ¬ x.Oversteps places) := by
  refine ⟨_, _, ?_, isFixed_pointText places _, isNearest_fixed_iff places x⟩
  rw [run_format_fixed h hmax harg, Real.fixedText, signed_isZero, fixed_eq]

/-- With two places an eighth is halfway, and is rounded up. -/
theorem format_fixed_eighth :
    let x : Magnitude := ⟨2 ^ 52, 1019, by decide, by decide, .inr (Nat.le_refl _)⟩
    let arg := Value.real (.finite true x)
    x.value = 1 / 8 ∧ HasPrecision 6 (some ['2']) 2 ∧ 2 ≤ 100 ∧ arg.number? = some (.finite true x) ∧
      ∃ cs n, (format builtin (realTemplate (some ['2']) 'f') [arg]).run Store.empty =
          (.ok ⟨true, String.ofList (signed (decide (x.signedValue true < 0)) cs)⟩, Store.empty) ∧
        IsFixed 2 n cs ∧ IsNearest (HasPlaces 2) x.value ⟨n, -2⟩ := by
  intro x arg
  have hvalue : x.value = 1 / 8 := by
    rw [value_eq, step_eq]
    norm_num [x]
  have hprecision : HasPrecision 6 (some ['2']) 2 := rfl
  have harg : arg.number? = some (.finite true x) := rfl
  obtain ⟨cs, n, hrun, hfixed, hnearest⟩ := format_fixed hprecision (by decide) harg Store.empty
  refine ⟨hvalue, hprecision, by decide, harg, cs, n, hrun, hfixed, hnearest.mpr ?_⟩
  rintro ⟨-, hstep⟩
  rw [step_eq] at hstep
  norm_num [x] at hstep

/-- Two to the 33rd and a 128th, a number of which the last bit is worth more than a millionth. -/
def wideTie : Magnitude := ⟨2 ^ 52 + 2 ^ 12, 1055, by decide, by decide, .inr (by decide)⟩

theorem value_wideTie : wideTie.value = 8589934592 + 1 / 128 := by
  rw [value_eq, step_eq, wideTie]
  norm_num

/-- With six places the step goes past the greater neighbour. -/
theorem format_fixed_oversteps :
    (format builtin "%f" [.real (.finite false wideTie)]).run Store.empty =
        (.ok ⟨true, "8589934592.007814"⟩, Store.empty) ∧
      IsNearest (HasPlaces 6) wideTie.value ⟨8589934592007813, -6⟩ ∧
      ¬ IsNearest (HasPlaces 6) wideTie.value ⟨8589934592007814, -6⟩ := by
  have htext : Real.fixedText false wideTie 6 = "8589934592.007814".toList := by decide +kernel
  have hnearest : IsNearest (HasPlaces 6) wideTie.value ⟨8589934592007813, -6⟩ :=
    isNearest_hasPlaces (by rw [value_wideTie]; norm_num) (by rw [value_wideTie]; norm_num)
  refine ⟨?_, hnearest, fun h => ?_⟩
  · have hprecision : HasPrecision 6 none 6 := rfl
    have harg : (Value.real (.finite false wideTie)).number? = some (.finite false wideTie) := rfl
    have hrun := run_format_fixed hprecision (by decide) harg Store.empty
    rw [Bool.false_and, htext] at hrun
    exact hrun
  · have hvalue := hnearest.value_eq h
    rw [Decimal.value_mk, Decimal.value_mk] at hvalue
    norm_num at hvalue

/-- **Exponential notation.** In place of `%e` with up to 100 places and a finite number stands a decimal
with one digit in front of the point and just these places behind it, and an exponent with a sign, after
a minus sign if the number is negative. The first digit is a zero only for zero, which has the exponent
zero. Otherwise the decimal is the nearest one with so many digits, and the greater one of two equally
near ones, unless the number is halfway between two and the step to the next number is longer than the
distance of the two. In this case alone it is another one. -/
theorem format_exponential (h : ofNumeral? 10 digits = some places) (hmax : places ≤ 100)
    (harg : arg.number? = some (.finite negative x)) (store : Store) :
    ∃ cs d, (format builtin (realTemplate (some digits) 'e') [arg]).run store =
        (.ok ⟨true, String.ofList (signed (decide (x.signedValue negative < 0)) cs)⟩, store) ∧
      IsScientific places d cs ∧ (x.value = 0 → d = ⟨0, -places⟩) ∧
      (x.value ≠ 0 → ∃ e : ℤ, (10 ^ e ≤ x.value ∧ x.value < 10 ^ (e + 1)) ∧
        HasDigits (places + 1) d ∧
        (IsNearest (HasDigits (places + 1)) x.value d ↔ ¬ x.Oversteps (places - e))) := by
  refine ⟨(x.offTie (places - x.shownExponent)).exponential places,
    (x.offTie (places - x.shownExponent)).roundSignificant places, ?_, ?_, ?_, ?_⟩
  · rw [run_format_exponential h hmax harg, Real.exponentialText, signed_isZero]
  · rw [exponential]
    cases hzero : x.isZero with
    | true =>
      rw [roundSignificant_of_isZero hzero places]
      exact isScientific_append (.inl rfl) (Nat.pow_pos (by decide))
    | false =>
      have hdigits := (roundSignificant_nearest (offTie_isZero hzero (places - x.shownExponent)) places).1
      exact isScientific_append (.inr hdigits.1) hdigits.2
  · exact fun hzero => roundSignificant_of_isZero (isZero_iff_value.mpr hzero) places _
  · intro hne
    have hzero : x.isZero = false := by
      rwa [Bool.eq_false_iff, Ne, isZero_iff_value]
    -- Ties are moved at the exponent that is shown, which is that of the number.
    rw [shownExponent_eq hzero]
    exact ⟨x.exponent, exponent_spec hzero, (roundSignificant_nearest (offTie_isZero hzero _) places).1,
      isNearest_roundSignificant_iff hzero places⟩

/-- Nine and a half is rounded up, to a number with two digits. -/
theorem format_exponential_carry :
    let x : Magnitude := ⟨19 * 2 ^ 48, 1025, by decide, by decide, .inr (by decide)⟩
    let arg := Value.real (.finite false x)
    x.value = 19 / 2 ∧ ofNumeral? 10 ['0'] = some 0 ∧ 0 ≤ 100 ∧
      arg.number? = some (.finite false x) ∧ x.value ≠ 0 ∧
      ∃ cs d, (format builtin (realTemplate (some ['0']) 'e') [arg]).run Store.empty =
          (.ok ⟨true, String.ofList (signed (decide (x.signedValue false < 0)) cs)⟩, Store.empty) ∧
        IsScientific 0 d cs ∧ IsNearest (HasDigits 1) x.value d := by
  intro x arg
  have hvalue : x.value = 19 / 2 := by
    rw [value_eq, step_eq]
    norm_num [x]
  have hplaces : ofNumeral? 10 ['0'] = some 0 := rfl
  have harg : arg.number? = some (.finite false x) := rfl
  have hne : x.value ≠ 0 := by
    rw [hvalue]
    norm_num
  obtain ⟨cs, d, hrun, hscientific, -, hpos⟩ :=
    format_exponential hplaces (by decide) harg Store.empty
  obtain ⟨e, ⟨hlow, hhigh⟩, -, hnearest⟩ := hpos hne
  have he : e = 0 := by
    refine exponent_unique hlow hhigh ?_ ?_ <;> rw [hvalue] <;> norm_num
  refine ⟨hvalue, hplaces, by decide, harg, hne, cs, d, hrun, hscientific, hnearest.mpr ?_⟩
  rintro ⟨-, hstep⟩
  rw [step_eq, he] at hstep
  norm_num [x] at hstep

/-- With sixteen digits the step goes past the greater neighbour. -/
theorem format_exponential_oversteps :
    (format builtin "%.15e" [.real (.finite false wideTie)]).run Store.empty =
        (.ok ⟨true, "8.589934592007814e+9"⟩, Store.empty) ∧
      IsNearest (HasDigits 16) wideTie.value ⟨8589934592007813, -6⟩ ∧
      ¬ IsNearest (HasDigits 16) wideTie.value ⟨8589934592007814, -6⟩ := by
  have htext : Real.exponentialText false wideTie (some 15) = "8.589934592007814e+9".toList := by
    decide +kernel
  have hdigits : HasDigits (15 + 1) ⟨8589934592007813, -6⟩ := ⟨by norm_num, by norm_num⟩
  have hnearest : IsNearest (HasDigits (15 + 1)) wideTie.value ⟨8589934592007813, -6⟩ :=
    isNearest_hasDigits (e := 9) (n := 8589934592007813) (by rw [value_wideTie]; norm_num)
      (by rw [value_wideTie]; norm_num) (by rw [value_wideTie]; norm_num) hdigits rfl
  refine ⟨?_, hnearest, fun h => ?_⟩
  · have hplaces : ofNumeral? 10 ['1', '5'] = some 15 := rfl
    have harg : (Value.real (.finite false wideTie)).number? = some (.finite false wideTie) := rfl
    have hrun := run_format_exponential hplaces (by decide) harg Store.empty
    rw [Bool.false_and, htext] at hrun
    exact hrun
  · have hvalue := hnearest.value_eq h
    rw [Decimal.value_mk, Decimal.value_mk] at hvalue
    norm_num at hvalue

end

end Percent

end Stencil
