import Stencil.Directive.Builtin
import Stencil.Proofs.Text.Case

/-!
# The parts of a body

A body whose parts are in their places is taken apart into just these parts, and what is taken apart is
such a body.

* `Field.WellFormed`: the parts that a body may have.
* `Field.WellFormed.ofBody?_body`, `Field.of_ofBody?`: taking bodies apart and putting them together.
* `Directive.fieldOf?_eq_some_iff`: the bodies with given parts.
-/

namespace Stencil

namespace Text

/-- A decimal digit is an ASCII digit or far from all ASCII characters. -/
theorem toNat_of_isDecimalDigit {c : Char} (h : isDecimalDigit c = true) :
    (48 ≤ c.toNat ∧ c.toNat ≤ 57) ∨ 0x660 ≤ c.toNat := by
  have hzeros : ∀ first ∈ digitZeros, first = 0x30 ∨ 0x660 ≤ first := by decide
  obtain ⟨first, hfirst, h⟩ := List.any_eq_true.mp h
  obtain ⟨hlow, hhigh⟩ := Bool.and_eq_true_iff.mp h
  have hlow := of_decide_eq_true hlow
  have hhigh := of_decide_eq_true hhigh
  rcases hzeros first hfirst with rfl | hfar <;> omega

end Text

namespace Field

/-- The parts of a body are digits in their places, a point only in front of digits, and a letter. -/
structure WellFormed (f : Field) : Prop where
  width : ∀ c ∈ f.width, Text.isDecimalDigit c = true
  precision : ∀ ds, f.precision = some ds → ds ≠ [] ∧ ∀ c ∈ ds, Text.isDecimalDigit c = true
  conversion : f.conversion.isAlpha = true

theorem WellFormed.of_precision_none {leftAligned : Bool} {width : List Char} {letter : Char}
    (hwidth : ∀ c ∈ width, Text.isDecimalDigit c = true) (hletter : letter.isAlpha = true) :
    WellFormed ⟨leftAligned, width, none, letter⟩ :=
  ⟨hwidth, nofun, hletter⟩

/-- The point and the digits of a precision, as the text that they are. -/
def precisionText : Option (List Char) → List Char
  | some ds => '.' :: ds
  | none => []

/-- What follows the flag and the width of a body. -/
def tail (f : Field) : List Char := precisionText f.precision ++ [f.conversion]

theorem body_eq (f : Field) : f.body = f.flagText ++ (f.width ++ f.tail) := by
  have hbody : f.body = f.flagText ++ f.width ++ precisionText f.precision ++ [f.conversion] := rfl
  rw [hbody, tail, List.append_assoc, List.append_assoc]

theorem not_isDecimalDigit {c : Char} (h : c.isAlpha = true ∨ c = '-' ∨ c = '.') :
    Text.isDecimalDigit c = false := by
  rw [Bool.eq_false_iff]
  intro hdigit
  have hnat := Text.toNat_of_isDecimalDigit hdigit
  rcases h with h | rfl | rfl
  · have := Text.toNat_of_isAlpha h
    omega
  · exact absurd hnat (by decide)
  · exact absurd hnat (by decide)

theorem splitFlag_append {f : Field} {rest : List Char} (h : ∀ more, rest ≠ '-' :: more) :
    splitFlag (f.flagText ++ rest) = (f.leftAligned, rest) := by
  rw [flagText]
  cases f.leftAligned with
  | true => rfl
  | false =>
    rw [if_neg Bool.false_ne_true, List.nil_append, splitFlag]
    exact h

theorem splitFlag_eq (cs : List Char) :
    (if (splitFlag cs).1 then ['-'] else []) ++ (splitFlag cs).2 = cs := by
  unfold splitFlag
  split <;> rfl

section

variable {f : Field}

theorem WellFormed.tail_head (hf : f.WellFormed) :
    ∃ c more, f.tail = c :: more ∧ (c.isAlpha = true ∨ c = '.') := by
  rw [tail]
  cases f.precision with
  | none => exact ⟨_, [], rfl, .inl hf.conversion⟩
  | some ds => exact ⟨_, _, rfl, .inr rfl⟩

theorem WellFormed.width_tail_ne (hf : f.WellFormed) (more : List Char) :
    f.width ++ f.tail ≠ '-' :: more := by
  intro h
  cases hw : f.width with
  | nil =>
    obtain ⟨c, rest, htail, hc⟩ := hf.tail_head
    rw [hw, List.nil_append, htail] at h
    rw [(List.cons.inj h).1] at hc
    exact absurd hc (by decide)
  | cons c rest =>
    rw [hw] at h
    have hdigit := hf.width c (hw ▸ List.mem_cons_self)
    rw [(List.cons.inj h).1] at hdigit
    exact absurd hdigit (by decide)

/-- A body is taken apart into its parts. -/
theorem WellFormed.ofBody?_body (hf : f.WellFormed) :
    ofBody? Text.isDecimalDigit f.body = some f := by
  obtain ⟨c, more, htail, hc⟩ := hf.tail_head
  have hstop : Text.isDecimalDigit c = false :=
    not_isDecimalDigit (hc.imp_right .inr)
  have htake : (f.width ++ f.tail).takeWhile Text.isDecimalDigit = f.width := by
    rw [List.takeWhile_append_of_pos hf.width, htail, List.takeWhile_cons_of_neg (by simp [hstop]),
      List.append_nil]
  have hdrop : (f.width ++ f.tail).dropWhile Text.isDecimalDigit = f.tail := by
    rw [List.dropWhile_append_of_pos hf.width, htail, List.dropWhile_cons_of_neg (by simp [hstop])]
  have hletter := not_isDecimalDigit (.inl hf.conversion)
  have hprecision : splitPrecision? Text.isDecimalDigit f.tail =
      some (f.precision, [f.conversion]) := by
    rw [tail]
    cases hp : f.precision with
    | none =>
      rw [precisionText, List.nil_append, splitPrecision?]
      rintro rest h
      have halpha := hf.conversion
      rw [(List.cons.inj h).1] at halpha
      exact absurd halpha (by decide)
    | some ds =>
      obtain ⟨hne, hds⟩ := hf.precision ds hp
      have htake : (ds ++ [f.conversion]).takeWhile Text.isDecimalDigit = ds := by
        rw [List.takeWhile_append_of_pos hds, List.takeWhile_cons_of_neg (by simp [hletter]),
          List.append_nil]
      have hdrop : (ds ++ [f.conversion]).dropWhile Text.isDecimalDigit = [f.conversion] := by
        rw [List.dropWhile_append_of_pos hds, List.dropWhile_cons_of_neg (by simp [hletter])]
      rw [precisionText, List.cons_append, splitPrecision?, htake, hdrop, if_neg hne]
  simp only [ofBody?, body_eq, splitFlag_append hf.width_tail_ne, htake, hdrop, hprecision]

theorem splitPrecision?_eq_some {cs rest : List Char} {precision : Option (List Char)}
    (h : splitPrecision? Text.isDecimalDigit cs = some (precision, rest)) :
    cs = precisionText precision ++ rest ∧
      ∀ ds, precision = some ds → ds ≠ [] ∧ ∀ c ∈ ds, Text.isDecimalDigit c = true := by
  unfold splitPrecision? at h
  split at h
  · rename_i after
    split at h
    · cases h
    · rename_i hne
      cases h
      refine ⟨congrArg ('.' :: ·) List.takeWhile_append_dropWhile.symm, ?_⟩
      rintro ds ⟨⟩
      exact ⟨hne, List.all_eq_true.mp List.all_takeWhile⟩
  · cases h
    exact ⟨rfl, nofun⟩

/-- What is taken apart is the body that has the parts. -/
theorem of_ofBody? {cs : List Char} (h : ofBody? Text.isDecimalDigit cs = some f)
    (hletter : f.conversion.isAlpha = true) : f.WellFormed ∧ cs = f.body := by
  have hflag := splitFlag_eq cs
  have hwidth := List.takeWhile_append_dropWhile (p := Text.isDecimalDigit) (l := (splitFlag cs).2)
  simp only [ofBody?] at h
  split at h
  · rename_i precision conversion hprecision
    cases h
    obtain ⟨hrest, hdigits⟩ := splitPrecision?_eq_some hprecision
    refine ⟨⟨List.all_eq_true.mp List.all_takeWhile, hdigits, hletter⟩, ?_⟩
    rw [hrest] at hwidth
    rw [body_eq, flagText, tail, hwidth]
    exact hflag.symm
  · cases h

end

end Field

namespace Directive

/-- The bodies with given parts. -/
theorem fieldOf?_eq_some_iff {body : String} {f : Field} (hletter : f.conversion.isAlpha = true) :
    fieldOf? body = some f ↔ f.WellFormed ∧ body.toList = f.body := by
  rw [fieldOf?]
  constructor
  · exact fun h => Field.of_ofBody? h hletter
  · rintro ⟨hf, hbody⟩
    rw [hbody, hf.ofBody?_body]

end Directive

end Stencil
