import Stencil.Proofs.Directive.Padding
import Stencil.Proofs.Percent.Directive
import Stencil.Proofs.Value.Number

/-!
# Padded fields in templates

What `%5d`, `%-5d`, `%05d`, `%5s`, `%-5s`, `%5.2s` and `%-5.2s` put in place of an argument: its default
text, or the first characters of a text, in a field.

* `PaddedForm`: the directives.
* `run_format_padded`: a template that is one such directive becomes the field.
* `format_padded`: the main result.
-/

namespace Stencil

open Number

namespace Percent

open Directive Padding

/-- The directives that put an argument in a field. -/
inductive PaddedForm where
  /-- The default text of a number. -/
  | integer (fill : Fill)
  /-- A text, followed by the spaces or after them. -/
  | text (left : Bool)
  /-- The first `count` characters of a text; `precision` is this number. -/
  | cutText (left : Bool) (precision : List Char) (count : Nat)

namespace PaddedForm

/-- The parts of the body, with these digits as its width. -/
def field : PaddedForm → List Char → Field
  | integer .before, digits => ⟨false, digits, none, 'd'⟩
  | integer .after, digits => ⟨true, digits, none, 'd'⟩
  | integer .zeros, digits => ⟨false, '0' :: digits, none, 'd'⟩
  | text left, digits => ⟨left, digits, none, 's'⟩
  | cutText left precision _, digits => ⟨left, digits, some precision, 's'⟩

/-- The width and the precision are written as they should be: without a flag a zero in front of the width
would be one, and the precision denotes a size. -/
def Spelled : PaddedForm → List Char → Prop
  | integer .before, digits => ∀ more, digits = '0' :: more → more = []
  | cutText _ precision count, _ => ofNumeral? 10 precision = some count ∧ count ≤ 100
  | _, _ => True

/-- Where the characters are added, and which. -/
def fill : PaddedForm → Fill
  | integer fill => fill
  | text left => if left then .after else .before
  | cutText left _ _ => if left then .after else .before

/-- The text that is put in the field, or the error for an argument that the directive does not accept. -/
def content (heap : Heap) (arg : Value) : PaddedForm → Except Error (List Char)
  | integer _ => if arg.number?.isSome then .ok (arg.display heap).toList else .error (notANumber heap arg)
  | text _ => textOf heap arg
  | cutText _ _ count => (textOf heap arg).map (List.take count)

end PaddedForm

variable {digits : List Char} {width : Nat} {arg : Value} {cs : List Char}

theorem written_field (form : PaddedForm) (hwidth : ofNumeral? 10 digits = some width)
    (hform : form.Spelled digits) : (form.field digits).Written := by
  have hdigits := (digits_of_ofNumeral? hwidth).2
  cases form with
  | integer fill =>
    cases fill with
    | before => exact ⟨hdigits, nofun, rfl⟩
    | after => exact ⟨hdigits, nofun, rfl⟩
    | zeros => exact ⟨List.forall_mem_cons.mpr ⟨rfl, hdigits⟩, nofun, rfl⟩
  | text left => exact ⟨hdigits, nofun, rfl⟩
  | cutText left precision count =>
    refine ⟨hdigits, ?_, rfl⟩
    rintro ds ⟨⟩
    exact digits_of_ofNumeral? hform.1

/-! ## The texts of the rules -/

/-- The flag in front of the width. -/
def flagOf : Fill → List Char
  | .before => []
  | .after => ['-']
  | .zeros => ['0']

variable {d : Directive}

theorem paddedIntegerText_eq (fill : Fill) (hflag : d.part 1 = flagOf fill)
    (hwidth : fieldSize (d.part 2) = .ok width) (heap : Heap) (arg : Value) :
    paddedIntegerText d heap arg =
      ((PaddedForm.integer fill).content heap arg).map fun cs => place fill cs width := by
  rw [PaddedForm.content]
  cases hy : arg.number? with
  | none => simp only [paddedIntegerText, numberOf, hy]; rfl
  | some y =>
    obtain ⟨negative, x, rfl⟩ := Binary64.exists_of_isFinite (Value.isFinite_of_number? hy)
    simp only [paddedIntegerText, numberOf_eq hy, hwidth, hflag]
    cases fill <;> rfl

theorem paddedTextText_eq {left : Bool} (hflag : d.part 1 = if left then ['-'] else [])
    (hwidth : fieldSize (d.part 2) = .ok width) (heap : Heap) (arg : Value) :
    paddedTextText d heap arg =
      ((PaddedForm.text left).content heap arg).map fun cs => place (PaddedForm.text left).fill cs width := by
  simp only [paddedTextText, PaddedForm.content, hwidth, hflag]
  cases textOf heap arg with
  | error => rfl
  | ok cs => cases left <;> rfl

theorem cutTextText_eq {left : Bool} {precision : List Char} {count : Nat}
    (hflag : Field.splitFlag (d.part 1) = (left, digits)) (hwidth : fieldSize digits = .ok width)
    (hne : digits ≠ []) (hcount : fieldSize (d.part 2) = .ok count) (heap : Heap) (arg : Value) :
    let form := PaddedForm.cutText left precision count
    cutTextText d heap arg = (form.content heap arg).map fun cs => place form.fill cs width := by
  intro form
  simp only [cutTextText, form, PaddedForm.content, hflag, hwidth, hcount]
  cases textOf heap arg with
  | error => rfl
  | ok cs => cases left <;> exact if_neg hne

/-! ## Templates -/

/-- What the rule for the directive captures. -/
theorem recognize_integer (fill : Fill) (hwidth : ofNumeral? 10 digits = some width)
    (hform : (PaddedForm.integer fill).Spelled digits) :
    recognizePaddedInteger (String.ofList ((PaddedForm.integer fill).field digits).body) =
      some (captured (String.ofList ((PaddedForm.integer fill).field digits).body)
        [some (flagOf fill), some digits]) := by
  have hf := fieldOf?_body (written_field _ hwidth hform)
  have hne := (digits_of_ofNumeral? hwidth).1
  cases fill with
  | before => exact recognizePaddedInteger_plain hne hform hf
  | after => exact recognizePaddedInteger_minus hne hf
  | zeros => exact recognizePaddedInteger_zero hne hf

/-- A template that is one such directive becomes the field. -/
theorem run_format_padded (form : PaddedForm) (hwidth : ofNumeral? 10 digits = some width)
    (hmax : width ≤ maxFieldSize) (hform : form.Spelled digits) (arg : Value) (store : Store) :
    (format builtin (fieldTemplate (form.field digits)) [arg]).run store =
      (((form.content store.heap arg).map fun cs => place form.fill cs width).map fun field =>
        ⟨true, String.ofList field⟩, store) := by
  have hf := written_field form hwidth hform
  have hsize := fieldSize_eq hwidth hmax
  obtain ⟨hne, hdigits⟩ := digits_of_ofNumeral? hwidth
  -- Each form is the directive of one built-in rule, which captures the flag in its own way.
  cases form with
  | integer fill =>
    have hmem : ("padded-int-parser", .builtin recognizePaddedInteger paddedIntegerText) ∈ builtinRules :=
      List.mem_of_getElem? (show builtinRules[1]? = _ from rfl)
    rw [run_format_field hmem (fun _ _ _ => rfl) hf (recognize_integer fill hwidth hform) arg store,
      paddedIntegerText_eq fill (part_of_group rfl) (by rwa [part_of_group rfl])]
    rfl
  | text left =>
    have hmem : ("padded-string-parser", .builtin recognizePaddedText paddedTextText) ∈ builtinRules :=
      List.mem_of_getElem? (show builtinRules[6]? = _ from rfl)
    have hcap := recognizePaddedText_eq hne rfl rfl (fieldOf?_body hf)
    rw [run_format_field hmem (fun _ _ _ => rfl) hf hcap arg store,
      paddedTextText_eq (part_of_group rfl) (by rwa [part_of_group rfl])]
    rfl
  | cutText left precision count =>
    have hmem : ("string-max-parser", .builtin recognizeCutText cutTextText) ∈ builtinRules :=
      List.mem_of_getElem? (show builtinRules[7]? = _ from rfl)
    have hminus : ∀ more, digits ≠ '-' :: more := fun more h =>
      absurd (hdigits '-' (h ▸ List.mem_cons_self)) (by decide)
    have hcap := recognizeCutText_eq rfl rfl (fieldOf?_body hf)
    rw [run_format_field hmem (fun _ _ _ => rfl) hf hcap arg store,
      cutTextText_eq ((congrArg _ (part_of_group rfl)).trans (Field.splitFlag_append hminus)) hsize hne
        ((congrArg _ (part_of_group rfl)).trans (fieldSize_eq hform.1 hform.2))]
    rfl

end Percent

end Stencil
