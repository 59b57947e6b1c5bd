import Stencil.Proofs.Percent.Padding

/-!
# Sizes in bodies

Five of the built-in rules read a width or a precision. The sizes are written with decimal digits, as many
as one likes, and may be up to 100. Digits that denote a number up to 100 are a size, and all others are
refused. A body with sizes can be read in one way only, and a rule captures the parts of this reading.

* `IsSize`, `Oversized`: the digits that are a size, and those that are refused.
* `readSize_cases`: what digits are read as.
* `SizedRule`: the rules, with their forms and patterns.
* `SizedRule.Spells`: how the sizes are written in a body.
* `SizedRule.existsUnique_spells`: there is one such reading.
* `SizedRule.recognize_eq`: what a rule captures, from this reading.
-/

namespace Stencil.Directive

open Number Padding Percent

/-! ## Digits -/

/-- The digits denote this size. -/
def IsSize (digits : List Char) (n : Nat) : Prop := ofNumeral? 10 digits = some n ∧ n ≤ 100

/-- The digits denote a number that is too large, or not all of them are ASCII digits. -/
def Oversized (digits : List Char) : Prop :=
  (∃ c ∈ digits, c.isDigit = false) ∨ ∃ n, ofNumeral? 10 digits = some n ∧ 100 < n

/-- How the sizes are written in a body. The flag says where characters are added, and the digits of the
width and of the precision may be missing. -/
@[ext]
structure Sizes where
  fill : Fill
  width : Option (List Char)
  precision : Option (List Char)

namespace Sizes

/-- The digits that are there. -/
def digits (s : Sizes) : List (List Char) := s.width.toList ++ s.precision.toList

/-- One of the sizes is refused. -/
def Oversized (s : Sizes) : Prop := ∃ ds ∈ s.digits, Directive.Oversized ds

/-- The sizes that are there denote these. -/
structure Denotes (s : Sizes) (width precision : Option Nat) : Prop where
  width : Option.Rel IsSize s.width width
  precision : Option.Rel IsSize s.precision precision

end Sizes

section Digits

variable {digits : List Char} {n : Nat}

theorem IsSize.fieldSize_eq (h : IsSize digits n) : fieldSize digits = .ok n :=
  Directive.fieldSize_eq h.1 h.2

theorem Oversized.fieldSize_eq (h : Oversized digits) :
    fieldSize digits = .error (.range (.fieldSize (String.ofList digits))) := by
  rw [fieldSize]
  rcases h with ⟨c, hc, hdigit⟩ | ⟨n, hn, hmax⟩
  · cases hn : ofNumeral? 10 digits with
    | none => rfl
    | some n => exact absurd ((digits_of_ofNumeral? hn).2 c hc) (by rw [hdigit]; decide)
  · rw [hn]
    exact if_neg (Nat.not_le.mpr hmax)

/-- Digits that are there are one or the other. -/
theorem oversized_or_isSize (hne : digits ≠ []) : Oversized digits ∨ ∃ n, IsSize digits n := by
  by_cases hdigits : ∀ c ∈ digits, c.isDigit = true
  · obtain ⟨ds, hds⟩ := exists_spells_iff.mpr ⟨hne, hdigits⟩
    have hn := (ofNumeral?_eq_some_iff (by decide)).mpr ⟨ds, hds, rfl⟩
    rcases Nat.lt_or_ge 100 (ofDigits 10 ds) with hmax | hmax
    · exact .inl (.inr ⟨_, hn, hmax⟩)
    · exact .inr ⟨_, hn, hmax⟩
  · push Not at hdigits
    obtain ⟨c, hc, hdigit⟩ := hdigits
    exact .inl (.inl ⟨c, hc, by simpa using hdigit⟩)

/-- No size is both. -/
theorem Sizes.Oversized.not_denotes {s : Sizes} {width precision : Option Nat} (h : s.Oversized) :
    ¬ s.Denotes width precision := by
  rintro ⟨hwidth, hprecision⟩
  have hboth : ∀ {o n ds}, o = some ds → Directive.Oversized ds → ¬ Option.Rel IsSize o n := by
    rintro _ _ ds rfl hover (h | h)
    have heq := hover.fieldSize_eq.symm.trans h.fieldSize_eq
    cases heq
  obtain ⟨ds, hds, hover⟩ := h
  rcases List.mem_append.mp hds with hds | hds
  · exact hboth (Option.mem_toList.mp hds) hover hwidth
  · exact hboth (Option.mem_toList.mp hds) hover hprecision

/-- What the digits are read as, if there are any. -/
def readSize : Option (List Char) → Except Error (Option Nat)
  | some digits => some <$> fieldSize digits
  | none => .ok none

theorem readSize_of_rel {digits : Option (List Char)} {n : Option Nat} (h : Option.Rel IsSize digits n) :
    readSize digits = .ok n := by
  cases h with
  | some h => rw [readSize, h.fieldSize_eq]; rfl
  | none => rfl

/-- A refused size is the fault, and all others are read. -/
theorem readSize_cases {digits : Option (List Char)} (hne : ∀ ds, digits = some ds → ds ≠ []) :
    (∃ ds, digits = some ds ∧ Oversized ds ∧
      readSize digits = .error (.range (.fieldSize (String.ofList ds)))) ∨
    ∃ n, Option.Rel IsSize digits n := by
  cases digits with
  | none => exact .inr ⟨none, .none⟩
  | some ds =>
    rcases oversized_or_isSize (hne ds rfl) with h | ⟨n, h⟩
    · exact .inl ⟨ds, rfl, h, by rw [readSize, h.fieldSize_eq]; rfl⟩
    · exact .inr ⟨some n, .some h⟩

theorem optionalSize_eq_readSize {d : Directive} {i : Nat} {digits : Option (List Char)}
    (hne : ∀ ds, digits = some ds → ds ≠ []) (h : d.part i = digits.getD []) :
    optionalSize d i = readSize digits := by
  rw [optionalSize, h]
  cases digits with
  | none => rfl
  | some ds => exact if_neg (hne ds rfl)

end Digits

/-! ## Rules -/

/-- The built-in rules that read sizes. -/
inductive SizedRule where
  /-- `%5d` and `%05d` -/
  | integer
  /-- `%5s` -/
  | text
  /-- `%.4s` and `%5.4s` -/
  | cutText
  /-- `%e`, `%15e`, `%.2e` and `%15.2e` -/
  | exponential
  /-- `%f`, `%10f`, `%.2f` and `%10.2f` -/
  | fixed
  deriving DecidableEq, Repr

namespace SizedRule

/-- The name under which the rule is registered. -/
def name : SizedRule → String
  | integer => "padded-int-parser"
  | text => "padded-string-parser"
  | cutText => "string-max-parser"
  | exponential => "exponential-parser"
  | fixed => "float-parser"

/-- The letter that ends a directive of the rule. -/
def letter : SizedRule → Char
  | integer => 'd'
  | text | cutText => 's'
  | exponential => 'e'
  | fixed => 'f'

/-- The form of the bodies that the rule is for. -/
def form : SizedRule → Form
  | integer => paddedForm 'd'
  | text => paddedForm 's'
  | cutText => cutForm
  | exponential => realForm 'e'
  | fixed => realForm 'f'

/-- The pattern of these bodies, which stands between `^` and `$`. -/
def pattern : SizedRule → Pattern
  | integer => paddedIntegerPattern
  | text => paddedTextPattern
  | cutText => cutTextPattern
  | exponential => realPattern 'e'
  | fixed => realPattern 'f'

/-- The groups of the pattern. -/
def groups : SizedRule → List Nat
  | integer | text | cutText => [1, 2]
  | exponential | fixed => [1, 2, 3]

/-- What the rule captures of a body. -/
def recognize : SizedRule → String → Option (List (Option String))
  | integer => recognizePaddedInteger
  | text => recognizePaddedText
  | cutText => recognizeCutText
  | exponential => recognizeReal 'e'
  | fixed => recognizeReal 'f'

/-- The text that the rule puts in place of a directive. -/
def textOf : SizedRule → TextOf
  | integer => paddedIntegerText
  | text => paddedTextText
  | cutText => cutTextText
  | exponential => exponentialText
  | fixed => fixedText

/-- The rule as it is built in. -/
def rule (r : SizedRule) : DirectiveRule := .builtin r.recognize r.textOf

variable (r : SizedRule)

theorem mem_builtinRules : (r.name, r.rule) ∈ builtinRules := by
  cases r <;> simp [builtinRules, name, rule, recognize, textOf]

theorem form_letters : r.form.letters = [r.letter] := by cases r <;> rfl

theorem isAlpha_letter : r.letter.isAlpha = true := by cases r <;> rfl

theorem capturesAs : CapturesAs r.pattern r.groups r.recognize := by
  cases r with
  | integer => exact recognizePaddedInteger_capturesAs
  | text => exact recognizePaddedText_capturesAs
  | cutText => exact recognizeCutText_capturesAs
  | exponential => exact recognizeReal_capturesAs rfl
  | fixed => exact recognizeReal_capturesAs rfl

theorem recognizes : Recognizes r.form r.pattern r.recognize := by
  cases r with
  | integer => exact recognizes_paddedInteger
  | text => exact recognizes_paddedText
  | cutText => exact recognizes_cutText
  | exponential => exact recognizes_real rfl
  | fixed => exact recognizes_real rfl

/-- The body is written with these sizes. All sizes that the form asks for are there. A zero in front of
another digit is the flag, where there is such a flag, and any other zero is a digit. -/
structure Spells (r : SizedRule) (s : Sizes) (body : List Char) : Prop where
  body_eq : body =
    flagOf s.fill ++ (s.width.getD [] ++ (Field.precisionText s.precision ++ [r.letter]))
  digits : ∀ ds ∈ s.digits, ds ≠ [] ∧ ∀ c ∈ ds, Text.isDecimalDigit c = true
  width : r.form.width.allows s.width.isSome = true
  precision : r.form.precision.allows s.precision.isSome = true
  zeros : s.fill = .zeros ↔
    r = integer ∧ ∃ c more, body = '0' :: c :: more ∧ Text.isDecimalDigit c = true

/-- A zero in front of other digits is the flag. -/
theorem spells_integer_zeros {width : List Char} (hne : width ≠ [])
    (hwidth : ∀ c ∈ width, Text.isDecimalDigit c = true) :
    integer.Spells ⟨.zeros, some width, none⟩ ('0' :: (width ++ ['d'])) where
  body_eq := rfl
  digits := List.forall_mem_singleton.mpr ⟨hne, hwidth⟩
  width := rfl
  precision := rfl
  zeros := by
    obtain ⟨c, more, rfl⟩ := List.exists_cons_of_ne_nil hne
    exact iff_of_true rfl ⟨rfl, c, more ++ ['d'], rfl, hwidth c List.mem_cons_self⟩

/-- A minus sign, a width and a precision. -/
theorem spells_cutText_after {width precision : List Char}
    (hwidth : width ≠ [] ∧ ∀ c ∈ width, Text.isDecimalDigit c = true)
    (hprecision : precision ≠ [] ∧ ∀ c ∈ precision, Text.isDecimalDigit c = true) :
    cutText.Spells ⟨.after, some width, some precision⟩ ('-' :: (width ++ '.' :: (precision ++ ['s']))) where
  body_eq := rfl
  digits := List.forall_mem_cons.mpr ⟨hwidth, List.forall_mem_singleton.mpr hprecision⟩
  width := rfl
  precision := rfl
  zeros := iff_of_false nofun nofun

/-! ## Readings of a body -/

section Readings

variable {r : SizedRule} {s : Sizes} {f : Field} {body : List Char}

/-- The zero in front of the width, as the text that it is. -/
def zeroText (fill : Fill) : List Char := if fill = .zeros then ['0'] else []

/-- The parts of a body with these sizes; its digits include a zero that is the flag. -/
def field (r : SizedRule) (s : Sizes) : Field :=
  ⟨decide (s.fill = .after), zeroText s.fill ++ s.width.getD [], s.precision, r.letter⟩

theorem field_body (r : SizedRule) (s : Sizes) : (r.field s).body =
    flagOf s.fill ++ (s.width.getD [] ++ (Field.precisionText s.precision ++ [r.letter])) := by
  rw [Field.body_eq, Field.flagText, Field.tail, field, ← List.append_assoc]
  cases s.fill <;> rfl

theorem Spells.digits_width (h : r.Spells s body) {ds : List Char} (hds : s.width = some ds) :
    ds ≠ [] ∧ ∀ c ∈ ds, Text.isDecimalDigit c = true :=
  h.digits ds (by simp [Sizes.digits, hds])

theorem Spells.digits_precision (h : r.Spells s body) {ds : List Char} (hds : s.precision = some ds) :
    ds ≠ [] ∧ ∀ c ∈ ds, Text.isDecimalDigit c = true :=
  h.digits ds (by simp [Sizes.digits, hds])

theorem Spells.wellFormed (h : r.Spells s body) : (r.field s).WellFormed where
  width := by
    refine List.forall_mem_append.mpr ⟨?_, ?_⟩
    · rw [zeroText]
      split
      · exact List.forall_mem_singleton.mpr rfl
      · nofun
    · cases hwidth : s.width with
      | none => nofun
      | some ds => exact (h.digits_width hwidth).2
  precision _ hds := h.digits_precision hds
  conversion := r.isAlpha_letter

theorem Spells.fieldOf?_eq {body : String} (h : r.Spells s body.toList) :
    fieldOf? body = some (r.field s) :=
  (fieldOf?_eq_some_iff r.isAlpha_letter).mpr ⟨h.wellFormed, h.body_eq.trans (r.field_body s).symm⟩

/-- A body has one reading at most. -/
theorem Spells.unique {t : Sizes} {body : String} (hs : r.Spells s body.toList)
    (ht : r.Spells t body.toList) : s = t := by
  have hfield : r.field s = r.field t := Option.some.inj (hs.fieldOf?_eq.symm.trans ht.fieldOf?_eq)
  obtain ⟨hafter, hwidth, hprecision, -⟩ := Field.mk.inj hfield
  have hzeros := hs.zeros.trans ht.zeros.symm
  have hfill : s.fill = t.fill := by
    cases hsf : s.fill <;> cases htf : t.fill <;> simp_all
  rw [hfill, List.append_cancel_left_eq] at hwidth
  have hdigits : s.width = t.width := by
    cases hsw : s.width with
    | none =>
      cases htw : t.width with
      | none => rfl
      | some ds =>
        rw [hsw, htw] at hwidth
        exact absurd hwidth.symm (ht.digits_width htw).1
    | some ds =>
      cases htw : t.width with
      | none =>
        rw [hsw, htw] at hwidth
        exact absurd hwidth (hs.digits_width hsw).1
      | some es =>
        rw [hsw, htw] at hwidth
        exact congrArg some hwidth
  exact Sizes.ext hfill hdigits hprecision

/-- The reading of a body without a zero that is the flag. -/
def ofField (f : Field) : Sizes :=
  ⟨if f.leftAligned then .after else .before, if f.width = [] then none else some f.width, f.precision⟩

theorem spells_ofField (hf : f.WellFormed) (hfits : r.form.Fits f)
    (hzero : ¬ (r = integer ∧ ∃ c more, f.body = '0' :: c :: more ∧ Text.isDecimalDigit c = true)) :
    r.Spells (ofField f) f.body where
  body_eq := by
    have hletter : f.conversion = r.letter := by simpa [r.form_letters] using hfits.conversion
    rw [Field.body_eq, Field.tail, Field.flagText, hletter, ofField]
    cases f.leftAligned <;> by_cases hwidth : f.width = [] <;> simp [hwidth, flagOf]
  digits ds hds := by
    rcases List.mem_append.mp hds with hds | hds
    · by_cases hwidth : f.width = []
      · simp [ofField, hwidth] at hds
      · obtain rfl : ds = f.width := by simpa [ofField, hwidth] using hds
        exact ⟨hwidth, hf.width⟩
    · exact hf.precision ds (Option.mem_toList.mp hds)
  width := by
    have hwidth := hfits.width
    cases hw : f.width <;> simpa [ofField, hw] using hwidth
  precision := hfits.precision
  zeros := by
    refine iff_of_false (fun hfill => ?_) hzero
    rw [ofField] at hfill
    cases hleft : f.leftAligned <;> rw [hleft] at hfill <;> cases hfill

/-- A zero in front of another digit of a width is the flag. -/
theorem spells_zeros {c : Char} {more : List Char} {left : Bool} {width : List Char}
    (hf : Field.WellFormed ⟨left, width, none, 'd'⟩)
    (hbody : Field.body ⟨left, width, none, 'd'⟩ = '0' :: c :: more)
    (hc : Text.isDecimalDigit c = true) :
    ∃ s, integer.Spells s (Field.body ⟨left, width, none, 'd'⟩) := by
  have hletter : Text.isDecimalDigit 'd' = false := rfl
  cases left with
  | true => cases hbody
  | false =>
    -- As a field the body has the zero in its width.
    obtain rfl | ⟨digits, rfl⟩ : width = [] ∨ ∃ digits, width = '0' :: digits := by
      cases width with
      | nil => exact .inl rfl
      | cons first digits => exact .inr ⟨digits, by rw [(List.cons.inj hbody).1]⟩
    · cases hbody
    have hne : digits ≠ [] := by
      rintro rfl
      obtain ⟨rfl, -⟩ := List.cons.inj (List.cons.inj hbody).2
      exact absurd hc (by rw [hletter]; decide)
    exact ⟨⟨.zeros, some digits, none⟩, {
      body_eq := Field.body_eq _
      digits := List.forall_mem_singleton.mpr ⟨hne, (List.forall_mem_cons.mp hf.width).2⟩
      width := rfl
      precision := rfl
      zeros := iff_of_true rfl ⟨rfl, c, more, hbody, hc⟩ }⟩

/-- A body of the form has one reading. -/
theorem existsUnique_spells {body : String} (hbody : HasForm r.form body) :
    ∃! s, r.Spells s body.toList := by
  suffices h : ∃ s, r.Spells s body.toList from h.elim fun s hs => ⟨s, hs, fun t ht => ht.unique hs⟩
  obtain ⟨f, hf, hfits⟩ := hbody
  have hletter : f.conversion.isAlpha = true := by
    have hconversion := hfits.conversion
    rw [r.form_letters, List.mem_singleton] at hconversion
    rw [hconversion, r.isAlpha_letter]
  obtain ⟨hwell, hchars⟩ := (fieldOf?_eq_some_iff hletter).mp hf
  rw [hchars]
  by_cases hzero : r = integer ∧ ∃ c more, f.body = '0' :: c :: more ∧ Text.isDecimalDigit c = true
  · obtain ⟨rfl, c, more, hzero, hc⟩ := hzero
    obtain ⟨left, first, rest, rfl⟩ := paddedForm_fits_iff.mp hfits
    exact spells_zeros hwell hzero hc
  · exact ⟨ofField f, spells_ofField hwell hfits hzero⟩

/-- The parts of a body that the rule captures. -/
def parts : SizedRule → Sizes → List (Option (List Char))
  | integer, s | text, s => [some (flagOf s.fill), s.width]
  | cutText, s => [some (flagOf s.fill ++ s.width.getD []), s.precision]
  | exponential, s | fixed, s => [some (flagOf s.fill), some (s.width.getD []), s.precision]

theorem Spells.flagText_width (h : r.Spells s body) (hr : r ≠ integer) :
    (r.field s).flagText = flagOf s.fill ∧ (r.field s).width = s.width.getD [] := by
  have hfill : s.fill ≠ .zeros := fun hfill => hr (h.zeros.mp hfill).1
  rw [Field.flagText, field]
  cases hs : s.fill with
  | before => exact ⟨rfl, rfl⟩
  | after => exact ⟨rfl, rfl⟩
  | zeros => exact absurd hs hfill

/-- Without the flag no zero stands in front of another digit of a width. -/
theorem Spells.eq_nil_of_zero {digits more : List Char} (h : integer.Spells ⟨.before, some digits, none⟩ body)
    (hdigits : digits = '0' :: more) : more = [] := by
  have hnot : ¬ ∃ c rest, body = '0' :: c :: rest ∧ Text.isDecimalDigit c = true :=
    fun hzero => Fill.noConfusion (h.zeros.mpr ⟨rfl, hzero⟩)
  cases more with
  | nil => rfl
  | cons c rest =>
    have hc := (h.digits_width rfl).2 c (by simp [hdigits])
    refine absurd ⟨c, rest ++ ['d'], ?_, hc⟩ hnot
    rw [h.body_eq, hdigits]
    rfl

/-- Numbers and texts in a field have a width and nothing else. -/
theorem Spells.exists_width (h : r.Spells s body) (hform : r.form = paddedForm r.letter) :
    ∃ digits, s = ⟨s.fill, some digits, none⟩ := by
  have hwidth := h.width
  have hprecision := h.precision
  rw [hform] at hwidth hprecision
  obtain ⟨digits, hdigits⟩ := Option.isSome_iff_exists.mp hwidth
  refine ⟨digits, Sizes.ext rfl hdigits ?_⟩
  simpa [paddedForm, Presence.allows] using hprecision

/-- What the rule captures of a body. -/
theorem recognize_eq {body : String} (h : r.Spells s body.toList) :
    r.recognize body = some (captured body (r.parts s)) := by
  have hf := h.fieldOf?_eq
  cases r with
  | integer =>
    obtain ⟨digits, hs⟩ := h.exists_width rfl
    generalize s.fill = fill at hs
    obtain rfl := hs
    have hne := (h.digits_width rfl).1
    cases fill with
    | before => exact recognizePaddedInteger_plain hne (fun _ => h.eq_nil_of_zero) hf
    | after => exact recognizePaddedInteger_minus hne hf
    | zeros => exact recognizePaddedInteger_zero hne hf
  | text =>
    obtain ⟨digits, hs⟩ := h.exists_width rfl
    generalize s.fill = fill at hs
    obtain rfl := hs
    obtain ⟨hflag, hwidth⟩ := h.flagText_width nofun
    have hne := (h.digits_width rfl).1
    rw [recognize, recognizePaddedText_eq (hwidth ▸ hne) rfl rfl hf, hflag, hwidth]
    rfl
  | cutText =>
    obtain ⟨digits, hdigits⟩ := Option.isSome_iff_exists.mp h.precision
    obtain ⟨hflag, hwidth⟩ := h.flagText_width nofun
    rw [recognize, recognizeCutText_eq hdigits rfl hf, hflag, hwidth, parts, hdigits]
  | exponential | fixed =>
    obtain ⟨hflag, hwidth⟩ := h.flagText_width nofun
    refine (recognizeReal_eq hf).trans ?_
    rw [hflag, hwidth]
    rfl

end Readings

end SizedRule

end Stencil.Directive
