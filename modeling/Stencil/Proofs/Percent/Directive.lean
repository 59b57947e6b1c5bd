import Stencil.Proofs.Directive.Capture
import Stencil.Proofs.Number.Numeral
import Stencil.Proofs.Percent.Dispatch

/-!
# Templates that are one directive

A template that is `%` and a body with its parts in their places becomes what the rule for this body puts
in place of it.

* `Field.Written`: the parts of a body in a template. Their digits are ASCII digits.
* `Directive.fieldOf?_body`: such a body is taken apart into its parts.
* `Directive.optionalSize_eq`: the size that a part of it denotes.
* `Directive.real`: the directive that a rule for numbers with a fraction sees.
* `run_format_field`: the template with the directive replaced.
-/

namespace Stencil

namespace Field

/-- The parts of a body that can stand in a template: ASCII digits in their places, a point only in front
of digits, and a letter. -/
structure Written (f : Field) : Prop where
  width : ∀ c ∈ f.width, c.isDigit = true
  precision : ∀ ds, f.precision = some ds → ds ≠ [] ∧ ∀ c ∈ ds, c.isDigit = true
  conversion : f.conversion.isAlpha = true

variable {f : Field}

theorem Written.wellFormed (hf : f.Written) : f.WellFormed where
  width c hc := Text.isDecimalDigit_of_isDigit (hf.width c hc)
  precision ds hds := ⟨(hf.precision ds hds).1, fun c hc =>
    Text.isDecimalDigit_of_isDigit ((hf.precision ds hds).2 c hc)⟩
  conversion := hf.conversion

/-- All but the letter. -/
def front (f : Field) : List Char := f.flagText ++ (f.width ++ precisionText f.precision)

theorem body_eq_front (f : Field) : f.body = f.front ++ [f.conversion] := by
  simp only [body_eq, tail, front, List.append_assoc]

theorem Written.isFlag_of_mem (hf : f.Written) {c : Char} (hc : c ∈ f.front) :
    Directive.isFlag c = true := by
  have hdigit : ∀ {c : Char}, c.isDigit = true → Directive.isFlag c = true := fun h => by
    simp [Directive.isFlag, h]
  rcases List.mem_append.mp hc with hc | hc
  · rw [flagText] at hc
    split at hc
    · obtain rfl := List.mem_singleton.mp hc
      rfl
    · cases hc
  rcases List.mem_append.mp hc with hc | hc
  · exact hdigit (hf.width c hc)
  · cases hprecision : f.precision with
    | none =>
      rw [hprecision] at hc
      cases hc
    | some ds =>
      rw [hprecision] at hc
      rcases List.mem_cons.mp hc with rfl | hc
      · rfl
      · exact hdigit ((hf.precision ds hprecision).2 c hc)

end Field

namespace Directive

open Number

variable {f : Field}

theorem isFlag_of_isAlpha {c : Char} (h : c.isAlpha = true) : isFlag c = false := by
  rw [Bool.eq_false_iff]
  intro hflag
  have halpha := Percent.isAlpha_of_flagClass ((congrFun Percent.flagClass_eq c).trans hflag)
  rw [h] at halpha
  cases halpha

/-- The directive of the template is all of it. -/
theorem next?_body (hf : f.Written) : next? ('%' :: f.body) = some ⟨[], f.body, []⟩ := by
  have hflags : ∀ c ∈ f.front, isFlag c = true := fun c hc => hf.isFlag_of_mem hc
  have hstop := isFlag_of_isAlpha hf.conversion
  have hdrop : f.body.dropWhile isFlag = [f.conversion] := by
    rw [f.body_eq_front, List.dropWhile_append_of_pos hflags, List.dropWhile_cons_of_neg (by simp [hstop])]
  have htake : f.body.takeWhile isFlag = f.front := by
    rw [f.body_eq_front, List.takeWhile_append_of_pos hflags, List.takeWhile_cons_of_neg (by simp [hstop]),
      List.append_nil]
  rw [next?, if_pos rfl, bodyAt?, hdrop, htake]
  simp only [hf.conversion, if_true, f.body_eq_front]

theorem fieldOf?_body (hf : f.Written) : fieldOf? (String.ofList f.body) = some f := by
  rw [fieldOf?_eq_some_iff hf.conversion]
  exact ⟨hf.wellFormed, String.toList_ofList⟩

/-! ## Sizes -/

variable {d : Directive} {i n : Nat}

/-- The size that a part of the body denotes. -/
theorem fieldSize_eq {digits : List Char} (h : ofNumeral? 10 digits = some n) (hmax : n ≤ maxFieldSize) :
    fieldSize digits = .ok n := by
  rw [fieldSize, h]
  exact if_pos hmax

theorem optionalSize_eq (h : ofNumeral? 10 (d.part i) = some n) (hmax : n ≤ maxFieldSize) :
    optionalSize d i = .ok (some n) := by
  rw [optionalSize, if_neg (digits_of_ofNumeral? h).1, fieldSize_eq h hmax]
  rfl

theorem optionalSize_none (h : d.group i = none) : optionalSize d i = .ok none := by
  rw [optionalSize, part, h]
  rfl

theorem part_of_group {text : List Char} (h : d.group i = some (String.ofList text)) : d.part i = text := by
  rw [part, h, Option.getD_some, String.toList_ofList]

/-! ## Numbers -/

theorem numberOf_eq {heap : Heap} {arg : Value} {negative : Bool} {x : Magnitude}
    (h : arg.number? = some (.finite negative x)) :
    numberOf heap arg = .ok (negative && !x.isZero, x) := by
  rw [numberOf, h]

/-! ## Numbers with a fraction -/

/-- The directive that is a body for a number with a fraction, as the rule for it sees it. -/
def real (f : Field) : Directive :=
  ⟨String.ofList f.body, 0, 0, captured (String.ofList f.body) [some f.flagText, some f.width, f.precision]⟩

theorem part_real_width (f : Field) : (real f).part 2 = f.width := part_of_group rfl

theorem optionalSize_width (h : ofNumeral? 10 f.width = some n) (hmax : n ≤ maxFieldSize) :
    optionalSize (real f) 2 = .ok (some n) :=
  optionalSize_eq (by rwa [part_real_width]) hmax

theorem optionalSize_no_width (h : f.width = []) : optionalSize (real f) 2 = .ok none := by
  rw [optionalSize, part_real_width, if_pos h]

theorem optionalSize_precision {digits : List Char} (hdigits : f.precision = some digits)
    (h : ofNumeral? 10 digits = some n) (hmax : n ≤ maxFieldSize) :
    optionalSize (real f) 3 = .ok (some n) := by
  have hgroup : (real f).group 3 = some (String.ofList digits) := congrArg (Option.map String.ofList) hdigits
  exact optionalSize_eq (by rwa [part_of_group hgroup]) hmax

theorem optionalSize_no_precision (h : f.precision = none) : optionalSize (real f) 3 = .ok none :=
  optionalSize_none (congrArg (Option.map String.ofList) h)

end Directive

namespace Percent

open Directive

/-- The template that is one directive. -/
def fieldTemplate (f : Field) : String := String.ofList ('%' :: f.body)

/-- A template that is one directive becomes the text of its rule, and fails as the rule does. -/
theorem run_format_field {name : String} {recognize : String → Option (List (Option String))}
    {text : TextOf} (hmem : (name, .builtin recognize text) ∈ builtinRules)
    (hplace : ∀ d heap arg, text d heap arg = text { d with start := 0, stop := 0 } heap arg)
    {f : Field} (hf : f.Written) {captures : List (Option String)}
    (hcap : recognize (String.ofList f.body) = some captures) (arg : Value) (store : Store) :
    (format builtin (fieldTemplate f) [arg]).run store =
      ((text ⟨String.ofList f.body, 0, 0, captures⟩ store.heap arg).map fun cs =>
        ⟨true, String.ofList cs⟩, store) :=
  run_format_directive hmem hplace (next?_body hf) hcap arg store

theorem run_format_fixedText {f : Field} (hf : f.Written) (hletter : f.conversion = 'f') (arg : Value)
    (store : Store) :
    (format builtin (fieldTemplate f) [arg]).run store =
      ((fixedText (real f) store.heap arg).map fun cs => ⟨true, String.ofList cs⟩, store) :=
  have hmem : ("float-parser", .builtin (recognizeReal 'f') fixedText) ∈ builtinRules :=
    List.mem_of_getElem? (show builtinRules[10]? = _ from rfl)
  run_format_field hmem (fun _ _ _ => rfl) hf (hletter ▸ recognizeReal_eq (fieldOf?_body hf)) arg store

theorem run_format_exponentialText {f : Field} (hf : f.Written) (hletter : f.conversion = 'e') (arg : Value)
    (store : Store) :
    (format builtin (fieldTemplate f) [arg]).run store =
      ((exponentialText (real f) store.heap arg).map fun cs => ⟨true, String.ofList cs⟩, store) :=
  have hmem : ("exponential-parser", .builtin (recognizeReal 'e') exponentialText) ∈ builtinRules :=
    List.mem_of_getElem? (show builtinRules[9]? = _ from rfl)
  run_format_field hmem (fun _ _ _ => rfl) hf (hletter ▸ recognizeReal_eq (fieldOf?_body hf)) arg store

end Percent

end Stencil
