import Stencil.Proofs.Number.Reading
import Stencil.Proofs.Percent.Directive
import Stencil.Proofs.Value.Coercion

/-!
# Integers in templates

What `%b`, `%o`, `%x`, `%X` and `%u` put in place of an argument: the digits of its integer in some base, with
a minus sign in front of those of a negative one. A number with a fraction counts as the integer without it.

* `IntegerForm`: the directives.
* `run_format_integer`: a template that is one such directive becomes the text of the integer.
* `format_integer`: the texts are numerals of the integers.
* `format_truncated`: which numbers are accepted, and as which integers.
-/

namespace Stencil

open Number

namespace Percent

open Directive

/-- The directives that put an integer in a base. -/
inductive IntegerForm where
  | binary
  | octal
  /-- The case of the letter is that of the digits. -/
  | hexadecimal (capital : Bool)
  /-- Only the low 32 bits of the integer, in decimal. -/
  | unsigned
  deriving DecidableEq

namespace IntegerForm

/-- The letter that ends a directive of this form. -/
def letter : IntegerForm → Char
  | binary => 'b'
  | octal => 'o'
  | hexadecimal capital => if capital then 'X' else 'x'
  | unsigned => 'u'

/-- The body. -/
def field (form : IntegerForm) : Field := ⟨false, [], none, form.letter⟩

/-- The template that is one such directive. -/
def template (form : IntegerForm) : String := fieldTemplate form.field

/-- The base of the digits. -/
def base : IntegerForm → ℕ
  | binary => 2
  | octal => 8
  | hexadecimal _ => 16
  | unsigned => 10

/-- The integer that is shown for an integer. -/
def shown : IntegerForm → ℤ → ℤ
  | unsigned, i => i % 2 ^ 32
  | _, i => i

/-- The character for a digit. -/
def digit : IntegerForm → ℕ → Char
  | hexadecimal true, d => (Nat.digitChar d).toUpper
  | _, d => Nat.digitChar d

/-- What stands for an integer in place of the directive. -/
def text (form : IntegerForm) (i : ℤ) : List Char :=
  signed (decide (form.shown i < 0)) ((digits form.base (form.shown i).natAbs).map form.digit)

variable {form : IntegerForm}

theorem written_field (form : IntegerForm) : form.field.Written := by
  refine ⟨nofun, nofun, ?_⟩
  cases form with
  | hexadecimal capital => cases capital <;> rfl
  | _ => rfl

theorem two_le_base (form : IntegerForm) : 2 ≤ form.base := by
  cases form <;> simp [base]

theorem base_le (form : IntegerForm) : form.base ≤ 16 := by
  cases form <;> simp [base]

theorem shown_of_ne_unsigned (h : form ≠ .unsigned) (i : ℤ) : form.shown i = i := by
  cases form with
  | unsigned => exact absurd rfl h
  | _ => rfl

theorem digit_eq_or (form : IntegerForm) (d : ℕ) :
    form.digit d = Nat.digitChar d ∨ form.digit d = (Nat.digitChar d).toUpper := by
  unfold digit
  split
  · exact .inr rfl
  · exact .inl rfl

/-- The text is a numeral of the integer that is shown. -/
theorem isSignedNumeral_text (form : IntegerForm) (i : ℤ) : ∃ sign : Sign,
    IsSignedNumeral form.base sign (form.shown i).natAbs (form.text i) ∧
      sign.apply (form.shown i).natAbs = form.shown i := by
  have hspells : Spells form.base (digits form.base (form.shown i).natAbs)
      ((digits form.base (form.shown i).natAbs).map form.digit) := by
    refine ⟨digits_ne_nil _ _, ?_⟩
    rw [List.forall₂_map_right_iff, List.forall₂_same]
    intro d hd
    exact ⟨lt_of_mem_digits form.two_le_base hd, form.digit_eq_or d⟩
  unfold text
  by_cases hneg : form.shown i < 0
  · refine ⟨.minus, ⟨_, _, ?_, hspells, ofDigits_digits _ _⟩, ?_⟩
    · simp [signed, hneg, Sign.text]
    · rw [Sign.apply_minus]
      omega
  · refine ⟨.bare, ⟨_, _, ?_, hspells, ofDigits_digits _ _⟩, ?_⟩
    · simp [signed, hneg, Sign.text]
    · rw [Sign.apply_bare]
      omega

/-- A text is that of one integer only, unless some of the bits are left out. -/
theorem text_injective (h : form ≠ .unsigned) : Function.Injective form.text := by
  intro i j htext
  obtain ⟨sign, hi, hvalue⟩ := form.isSignedNumeral_text i
  obtain ⟨sign', hj, hvalue'⟩ := form.isSignedNumeral_text j
  rw [htext] at hi
  have hsame := hi.apply_eq form.base_le hj
  rwa [hvalue, hvalue', shown_of_ne_unsigned h, shown_of_ne_unsigned h] at hsame

/-- The capital digits are the others in upper case. -/
theorem text_capital (i : ℤ) :
    (hexadecimal true).text i = ((hexadecimal false).text i).map Char.toUpper := by
  have hdigits : ∀ ds : List ℕ,
      ds.map (hexadecimal true).digit = (ds.map (hexadecimal false).digit).map Char.toUpper := by
    intro ds
    rw [List.map_map]
    rfl
  have hminus : ∀ (negative : Bool) (cs : List Char),
      signed negative (cs.map Char.toUpper) = (signed negative cs).map Char.toUpper := by
    intro negative cs
    cases negative <;> rfl
  rw [text, hdigits, hminus]
  rfl

end IntegerForm

/-! ## The texts of the rules -/

variable {d : Directive}

theorem baseText_eq (base : ℕ) (d : Directive) (heap : Heap) (arg : Value) :
    baseText base d heap arg =
      (integerOf heap arg).map fun i => signed (decide (i.toInt < 0)) (numeral base i.toInt.natAbs) := by
  unfold baseText
  cases integerOf heap arg <;> rfl

theorem hexadecimalText_eq {capital : Bool} (hletter : d.part 1 = [(IntegerForm.hexadecimal capital).letter])
    (heap : Heap) (arg : Value) :
    hexadecimalText d heap arg =
      (integerOf heap arg).map fun i => (IntegerForm.hexadecimal capital).text i.toInt := by
  unfold hexadecimalText
  rw [baseText_eq, hletter]
  cases integerOf heap arg with
  | error => rfl
  | ok i =>
    cases capital with
    | false => rfl
    | true => exact congrArg Except.ok (IntegerForm.text_capital i.toInt).symm

theorem unsignedText_eq (d : Directive) (heap : Heap) (arg : Value) :
    unsignedText d heap arg = (integerOf heap arg).map fun i => IntegerForm.unsigned.text i.toInt := by
  unfold unsignedText
  cases integerOf heap arg with
  | error => rfl
  | ok i =>
    have hnonneg : ¬ i.toInt % 2 ^ 32 < 0 := by omega
    have habs : (i.toInt % 2 ^ 32).natAbs = (i.toInt % 2 ^ 32).toNat := by omega
    have htext : IntegerForm.unsigned.text i.toInt = numeral 10 (i.toInt % 2 ^ 32).toNat := by
      rw [IntegerForm.text, IntegerForm.shown, decide_eq_false hnonneg, habs]
      rfl
    rw [Except.map, htext]
    rfl

/-! ## Templates -/

theorem recognizeLetter_hexadecimal (capital : Bool) :
    let form := IntegerForm.hexadecimal capital
    recognizeLetter ['x', 'X'] (String.ofList form.field.body) =
      some (captured (String.ofList form.field.body) [some [form.letter]]) := by
  cases capital <;> rfl

/-- The rule for the directive, what it captures, and what it puts in place of the directive. -/
theorem exists_integer_rule (form : IntegerForm) :
    ∃ (name : String) (recognize : String → Option (List (Option String))) (text : TextOf)
      (captures : List (Option String)),
      (name, DirectiveRule.builtin recognize text) ∈ builtinRules ∧
      (∀ d heap arg, text d heap arg = text { d with start := 0, stop := 0 } heap arg) ∧
      recognize (String.ofList form.field.body) = some captures ∧
      ∀ heap arg, text ⟨String.ofList form.field.body, 0, 0, captures⟩ heap arg =
        (integerOf heap arg).map fun i => form.text i.toInt := by
  cases form with
  | binary =>
    refine ⟨"binary-parser", recognizeExactly 'b', baseText 2, _, ?_, fun _ _ _ => rfl, rfl, baseText_eq 2 _⟩
    exact List.mem_of_getElem? (show builtinRules[3]? = _ from rfl)
  | octal =>
    refine ⟨"octal-parser", recognizeExactly 'o', baseText 8, _, ?_, fun _ _ _ => rfl, rfl, baseText_eq 8 _⟩
    exact List.mem_of_getElem? (show builtinRules[2]? = _ from rfl)
  | hexadecimal capital =>
    refine ⟨"hex-parser", recognizeLetter ['x', 'X'], hexadecimalText, _, ?_, fun _ _ _ => rfl,
      recognizeLetter_hexadecimal capital, hexadecimalText_eq (part_of_group rfl)⟩
    exact List.mem_of_getElem? (show builtinRules[4]? = _ from rfl)
  | unsigned =>
    refine ⟨"unicode-parser", recognizeExactly 'u', unsignedText, _, ?_, fun _ _ _ => rfl, rfl,
      unsignedText_eq _⟩
    exact List.mem_of_getElem? (show builtinRules[8]? = _ from rfl)

/-- A template that is one directive for integers becomes the text of the integer of the argument. -/
theorem run_format_integer (form : IntegerForm) (arg : Value) (store : Store) :
    (format builtin form.template [arg]).run store =
      ((integerOf store.heap arg).map fun i => ⟨true, String.ofList (form.text i.toInt)⟩, store) := by
  obtain ⟨name, recognize, text, captures, hmem, hplace, hcap, htext⟩ := exists_integer_rule form
  rw [IntegerForm.template, run_format_field hmem hplace form.written_field hcap, htext]
  cases integerOf store.heap arg <;> rfl

/-! ## Integers -/

theorem integerOf_integer (heap : Heap) (i : Int64) : integerOf heap (.integer i) = .ok i := by
  obtain ⟨negative, x, hx⟩ := Binary64.exists_of_isFinite (isFinite_ofInt i)
  have hnumber : (Value.integer i).number? = some (.finite negative x) := congrArg some hx
  rw [integerOf, numberOf_eq hnumber]
  rfl

theorem run_format_of_integer (form : IntegerForm) (i : Int64) (store : Store) :
    (format builtin form.template [.integer i]).run store =
      (.ok ⟨true, String.ofList (form.text i.toInt)⟩, store) := by
  rw [run_format_integer, integerOf_integer]
  rfl

/-- **Integers in other bases.** In place of `%b`, `%o`, `%x` and `%X` stand the digits of an integer in base 2,
8 or 16, without a zero in front, after a minus sign if the integer is negative; and in place of `%u` those
of its low 32 bits in decimal. So two integers have different texts, unless only their low bits are
shown. The digits for `%X` are those for `%x` in upper case. -/
theorem format_integer (i : Int64) (store : Store) :
    (∀ form : IntegerForm, ∃ ds, IsCanonical form.base (form.shown i.toInt).natAbs ds ∧
      (format builtin form.template [.integer i]).run store =
        (.ok ⟨true, String.ofList (signed (decide (form.shown i.toInt < 0)) (ds.map form.digit))⟩, store)) ∧
    (∀ form ≠ IntegerForm.unsigned, ∀ j : Int64,
      (format builtin form.template [.integer j]).run store =
        (format builtin form.template [.integer i]).run store → j = i) ∧
    ∃ cs, (format builtin "%x" [.integer i]).run store = (.ok ⟨true, String.ofList cs⟩, store) ∧
      (format builtin "%X" [.integer i]).run store = (.ok ⟨true, String.ofList (cs.map Char.toUpper)⟩, store) := by
  refine ⟨?_, ?_, ?_⟩
  · intro form
    exact ⟨_, isCanonical_digits form.two_le_base _, run_format_of_integer form i store⟩
  · intro form hform j hsame
    rw [run_format_of_integer, run_format_of_integer] at hsame
    have htext : String.ofList (form.text j.toInt) = String.ofList (form.text i.toInt) := by
      simpa using hsame
    have hvalue := IntegerForm.text_injective hform (String.ofList_injective htext)
    exact Int64.toInt_inj.mp hvalue
  · refine ⟨_, run_format_of_integer (.hexadecimal false) i store, ?_⟩
    rw [← IntegerForm.text_capital]
    exact run_format_of_integer (.hexadecimal true) i store

/-- The least integer of 64 bits keeps all its digits, and its text is not that of the greatest one. -/
theorem format_integer_least :
    let run := fun (template : String) i => (format builtin template [.integer i]).run Store.empty
    IntegerForm.octal ≠ .unsigned ∧
      run "%x" Int64.minValue = (.ok ⟨true, "-8000000000000000"⟩, Store.empty) ∧
      run "%u" Int64.minValue = (.ok ⟨true, "0"⟩, Store.empty) ∧
      run "%o" Int64.maxValue ≠ run "%o" Int64.minValue := by
  intro run
  have hform : IntegerForm.octal ≠ .unsigned := by decide
  obtain ⟨-, hdistinct, -⟩ := format_integer Int64.minValue Store.empty
  refine ⟨hform, ?_, ?_, ?_⟩
  · have htext : String.ofList ((IntegerForm.hexadecimal false).text Int64.minValue.toInt) =
        "-8000000000000000" := by
      decide +kernel
    rw [← htext]
    exact run_format_of_integer (.hexadecimal false) _ _
  · have htext : String.ofList (IntegerForm.unsigned.text Int64.minValue.toInt) = "0" := by
      decide +kernel
    rw [← htext]
    exact run_format_of_integer .unsigned _ _
  · intro hsame
    exact absurd (hdistinct .octal hform Int64.maxValue hsame) (by decide)

/-! ## Numbers with a fraction -/

/-- What a number with a fraction counts as. -/
theorem integerOf_real (heap : Heap) (negative : Bool) (x : Magnitude) :
    integerOf heap (.real (.finite negative x)) =
      if InInt64 (towardZero (x.signedValue negative)) then
        .ok (.ofInt (towardZero (x.signedValue negative)))
      else .error (.range (.integerPart (String.ofList (Binary64.finite negative x).plainText))) := by
  have hnumber : (Value.real (.finite negative x)).number? = some (.finite negative x) := rfl
  have htruncated := towardZero_signedValue negative x
  unfold integerOf
  rw [numberOf_eq hnumber, Value.integer?_real]
  by_cases hrange : InInt64 (towardZero (x.signedValue negative))
  · simp only [if_pos hrange]
    rfl
  · -- Both ends of the range have this magnitude at most, so beyond them it is no zero and keeps its sign.
    have hlarge : 2 ^ 63 ≤ x.floor := by
      by_contra hsmall
      apply hrange
      rw [htruncated]
      unfold InInt64
      split <;> omega
    have hzero : x.isZero = false := by
      rw [Bool.eq_false_iff]
      intro hzero
      rw [Magnitude.floor, Magnitude.isZero_iff_units.mp hzero, Nat.zero_div] at hlarge
      omega
    simp only [if_neg hrange, hzero, Bool.not_false, Bool.and_true]
    exact if_pos hlarge

theorem integerOf_not_finite {y : Binary64} (h : y.isFinite = false) (heap : Heap) :
    integerOf heap (.real y) = .error (.typeMismatch "an integer" (String.ofList y.displayText)) := by
  have hnumber : (Value.real y).number? = none := by
    simp [Value.number?, h]
  unfold integerOf numberOf
  rw [hnumber]
  rfl

/-- **Numbers with a fraction as integers.** In place of `%b`, `%o`, `%x`, `%X` and `%u` a finite number is
replaced as the integer without its fraction, if this has 64 bits. Otherwise it is rejected as out of
range, and anything else that is no number is rejected as no integer. -/
theorem format_truncated (form : IntegerForm) (store : Store) :
    (∀ negative x, InInt64 (towardZero (x.signedValue negative)) →
      ∃ (i : Int64) (s : String), i.toInt = towardZero (x.signedValue negative) ∧
        (format builtin form.template [.integer i]).run store = (.ok ⟨true, s⟩, store) ∧
        (format builtin form.template [.real (.finite negative x)]).run store = (.ok ⟨true, s⟩, store)) ∧
    (∀ negative x, ¬ InInt64 (towardZero (x.signedValue negative)) →
      (format builtin form.template [.real (.finite negative x)]).run store =
        (.error (.range (.integerPart (String.ofList (Binary64.finite negative x).plainText))), store)) ∧
    ∀ y : Binary64, y.isFinite = false →
      (format builtin form.template [.real y]).run store =
        (.error (.typeMismatch "an integer" (String.ofList y.displayText)), store) := by
  refine ⟨?_, ?_, ?_⟩
  · intro negative x hrange
    refine ⟨_, _, Int64.toInt_ofInt_of_le hrange.1 hrange.2, run_format_of_integer form _ store, ?_⟩
    rw [run_format_integer, integerOf_real, if_pos hrange]
    rfl
  · intro negative x hrange
    rw [run_format_integer, integerOf_real, if_neg hrange]
    rfl
  · intro y hy
    rw [run_format_integer, integerOf_not_finite hy]
    rfl

/-- The number `2 ^ 63` is out of range, and its opposite is not. -/
theorem format_truncated_bounds :
    let x : Magnitude := ⟨2 ^ 52, 1085, by decide, by decide, .inr (Nat.le_refl _)⟩
    let run := fun y => (format builtin "%x" [.real y]).run Store.empty
    x.value = 2 ^ 63 ∧ InInt64 (towardZero (x.signedValue true)) ∧
      ¬ InInt64 (towardZero (x.signedValue false)) ∧ Binary64.nan.isFinite = false ∧
      run (.finite true x) = (.ok ⟨true, "-8000000000000000"⟩, Store.empty) ∧
      run (.finite false x) = (.error (.range (.integerPart "9223372036854776000")), Store.empty) ∧
      run .nan = (.error (.typeMismatch "an integer" "NaN"), Store.empty) := by
  intro x run
  have hvalue : x.value = 2 ^ 63 := by
    rw [Magnitude.value_eq, Magnitude.step_eq]
    norm_num [x]
  have hfloor : x.floor = 2 ^ 63 := by decide +kernel
  have hleast : towardZero (x.signedValue true) = -2 ^ 63 := by
    rw [towardZero_signedValue, hfloor]
    rfl
  have hgreatest : towardZero (x.signedValue false) = 2 ^ 63 := by
    rw [towardZero_signedValue, hfloor]
    rfl
  have hin : InInt64 (towardZero (x.signedValue true)) := by
    rw [hleast]
    decide
  have hout : ¬ InInt64 (towardZero (x.signedValue false)) := by
    rw [hgreatest]
    decide
  obtain ⟨haccept, hreject, hother⟩ := format_truncated (.hexadecimal false) Store.empty
  obtain ⟨i, s, hi, hrun, hsame⟩ := haccept true x hin
  have hs : s = "-8000000000000000" := by
    rw [run_format_of_integer, hi, hleast] at hrun
    have htext : String.ofList ((IntegerForm.hexadecimal false).text (-2 ^ 63)) = "-8000000000000000" := by
      decide +kernel
    rw [htext] at hrun
    cases hrun
    rfl
  have htext : String.ofList (Binary64.finite false x).plainText = "9223372036854776000" := by
    decide +kernel
  have houtrun := hreject false x hout
  rw [htext] at houtrun
  exact ⟨hvalue, hin, hout, rfl, hs ▸ hsame, houtrun, hother .nan rfl⟩

end Percent

end Stencil
