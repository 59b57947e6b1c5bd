import Stencil.Percent
import Stencil.Proofs.Directive.Field
import Stencil.Proofs.Pattern

/-!
# The forms of bodies

Every built-in rule is for one form of bodies: the form says which parts a body has, and in which letters
it may end. Two forms exclude each other if they have no letter in common, or if a part must be there in
one of them and must be missing in the other.

* `Form`, `Directive.HasForm`: the forms, and the bodies that have them.
* `Directive.recognizeReal_iff` and its like: a rule recognises the bodies of one form.
* `Directive.realPattern_matchesAll_iff` and its like: so does a pattern.
* `Directive.builtinForms`: the rules with their forms and patterns.
* `Directive.eq_of_hasForm`: no body has two of the forms.
-/

namespace Stencil

/-- Whether a part of a body must be there. -/
inductive Presence where
  | absent
  | present
  | optional
  deriving DecidableEq

namespace Presence

/-- A part may be there, or be missing. -/
def allows : Presence → Bool → Bool
  | absent, there => !there
  | present, there => there
  | optional, _ => true

/-- No part is as both say. -/
def excludes : Presence → Presence → Bool
  | absent, present | present, absent => true
  | _, _ => false

theorem allows_of_excludes {p q : Presence} {there : Bool} (h : p.excludes q = true)
    (hp : p.allows there = true) : q.allows there = false := by
  cases p <;> cases q <;> cases there <;> simp_all [excludes, allows]

end Presence

/-- A form of bodies: the parts that they have, and the letters that they end in. -/
structure Form where
  flag : Presence
  width : Presence
  precision : Presence
  letters : List Char

namespace Form

/-- The parts of a body are as the form says. -/
structure Fits (form : Form) (f : Field) : Prop where
  flag : form.flag.allows f.leftAligned = true
  width : form.width.allows (!f.width.isEmpty) = true
  precision : form.precision.allows f.precision.isSome = true
  conversion : f.conversion ∈ form.letters

/-- The forms differ in their letters, or in a part that only one of them has. -/
def excludes (a b : Form) : Bool :=
  a.flag.excludes b.flag || a.width.excludes b.width || a.precision.excludes b.precision ||
    a.letters.all fun c => !b.letters.contains c

theorem Fits.not_fits {a b : Form} {f : Field} (ha : a.Fits f) (h : a.excludes b = true) :
    ¬ b.Fits f := by
  intro hb
  simp only [excludes, Bool.or_eq_true] at h
  rcases h with ((h | h) | h) | h
  · exact absurd hb.flag (by rw [Presence.allows_of_excludes h ha.flag]; decide)
  · exact absurd hb.width (by rw [Presence.allows_of_excludes h ha.width]; decide)
  · exact absurd hb.precision (by rw [Presence.allows_of_excludes h ha.precision]; decide)
  · have hletter := List.all_eq_true.mp h _ ha.conversion
    simp [hb.conversion] at hletter

end Form

namespace Directive

/-- The form of a body of one letter. -/
def letterForm (letters : List Char) : Form := ⟨.absent, .absent, .absent, letters⟩

/-- The form of a body with a width. -/
def paddedForm (letter : Char) : Form := ⟨.optional, .present, .absent, [letter]⟩

/-- The form of a text with a precision. -/
def cutForm : Form := ⟨.optional, .optional, .present, ['s']⟩

/-- The form of a number with a fraction. -/
def realForm (letter : Char) : Form := ⟨.optional, .optional, .optional, [letter]⟩

/-- The body has a form. -/
def HasForm (form : Form) (body : String) : Prop := ∃ f, fieldOf? body = some f ∧ form.Fits f

theorem hasForm_of_fieldOf? {form : Form} {body : String} {f : Field} (h : fieldOf? body = some f) :
    HasForm form body ↔ form.Fits f := by
  rw [HasForm, h]
  exact ⟨fun ⟨_, hf, hfits⟩ => Option.some.inj hf ▸ hfits, fun hfits => ⟨f, rfl, hfits⟩⟩

theorem not_hasForm {form : Form} {body : String} (h : fieldOf? body = none) :
    ¬ HasForm form body := by
  rintro ⟨f, hf, -⟩
  rw [h] at hf
  cases hf

theorem letterForm_fits_iff {letters : List Char} {f : Field} :
    (letterForm letters).Fits f ↔ ∃ c ∈ letters, f = ⟨false, [], none, c⟩ := by
  constructor
  · rintro ⟨hflag, hwidth, hprecision, hconversion⟩
    refine ⟨f.conversion, hconversion, ?_⟩
    cases f
    simp_all [letterForm, Presence.allows]
  · rintro ⟨c, hc, rfl⟩
    exact ⟨rfl, rfl, rfl, hc⟩

theorem paddedForm_fits_iff {letter : Char} {f : Field} :
    (paddedForm letter).Fits f ↔
      ∃ flag first more, f = ⟨flag, first :: more, none, letter⟩ := by
  constructor
  · rintro ⟨-, hwidth, hprecision, hconversion⟩
    obtain ⟨flag, width, precision, conversion⟩ := f
    cases width with
    | nil => cases hwidth
    | cons first more =>
      refine ⟨flag, first, more, ?_⟩
      simp_all [paddedForm, Presence.allows]
  · rintro ⟨flag, first, more, rfl⟩
    exact ⟨rfl, rfl, rfl, List.mem_cons_self⟩

theorem cutForm_fits_iff {f : Field} :
    cutForm.Fits f ↔ ∃ flag width digits, f = ⟨flag, width, some digits, 's'⟩ := by
  constructor
  · rintro ⟨-, -, hprecision, hconversion⟩
    obtain ⟨flag, width, precision, conversion⟩ := f
    cases precision with
    | none => cases hprecision
    | some digits =>
      refine ⟨flag, width, digits, ?_⟩
      simp_all [cutForm]
  · rintro ⟨flag, width, digits, rfl⟩
    exact ⟨rfl, rfl, rfl, List.mem_cons_self⟩

theorem realForm_fits_iff {letter : Char} {f : Field} :
    (realForm letter).Fits f ↔ f.conversion = letter :=
  ⟨fun h => List.mem_singleton.mp h.conversion,
    fun h => ⟨rfl, rfl, rfl, List.mem_singleton.mpr h⟩⟩

/-- A body of one letter has no other parts. -/
theorem hasForm_letter_iff {letters : List Char} {body : String}
    (hletters : ∀ c ∈ letters, c.isAlpha = true) :
    HasForm (letterForm letters) body ↔ ∃ c ∈ letters, body.toList = [c] := by
  have hone : ∀ c ∈ letters, fieldOf? body = some ⟨false, [], none, c⟩ ↔ body.toList = [c] :=
    fun c hc => (fieldOf?_eq_some_iff (hletters c hc)).trans
      (and_iff_right ⟨by simp, by simp, hletters c hc⟩)
  constructor
  · rintro ⟨f, hf, hfits⟩
    obtain ⟨c, hc, rfl⟩ := letterForm_fits_iff.mp hfits
    exact ⟨c, hc, (hone c hc).mp hf⟩
  · rintro ⟨c, hc, hbody⟩
    exact ⟨_, (hone c hc).mpr hbody, letterForm_fits_iff.mpr ⟨c, hc, rfl⟩⟩

theorem recognizeLetter_iff {letters : List Char} {body : String}
    (hletters : ∀ c ∈ letters, c.isAlpha = true) :
    (recognizeLetter letters body).isSome = true ↔ HasForm (letterForm letters) body := by
  rw [hasForm_letter_iff hletters, recognizeLetter]
  split
  · rename_i c hbody
    by_cases hc : c ∈ letters <;> simp [hc, hbody]
  · rename_i hbody
    exact iff_of_false (by simp) fun ⟨c, _, h⟩ => hbody c h

theorem recognizeExactly_iff {letter : Char} {body : String} (hletter : letter.isAlpha = true) :
    (recognizeExactly letter body).isSome = true ↔ HasForm (letterForm [letter]) body := by
  rw [hasForm_letter_iff (by simpa using hletter), recognizeExactly]
  by_cases h : body.toList = [letter] <;> simp [h]

theorem recognizePaddedInteger_iff {body : String} :
    (recognizePaddedInteger body).isSome = true ↔ HasForm (paddedForm 'd') body := by
  unfold recognizePaddedInteger
  cases hf : fieldOf? body with
  | none => exact iff_of_false (by simp) (not_hasForm hf)
  | some f =>
    rw [hasForm_of_fieldOf? hf, paddedForm_fits_iff]
    split
    · rename_i first more heq
      exact iff_of_true rfl ⟨_, _, _, Option.some.inj heq⟩
    · rename_i second more heq
      exact iff_of_true rfl ⟨_, _, _, Option.some.inj heq⟩
    · rename_i first more _ heq
      exact iff_of_true rfl ⟨_, _, _, Option.some.inj heq⟩
    · rename_i hminus _ hplain
      refine iff_of_false (by simp) ?_
      rintro ⟨_ | _, first, more, rfl⟩
      · exact hplain first more rfl
      · exact hminus first more rfl

theorem recognizePaddedText_iff {body : String} :
    (recognizePaddedText body).isSome = true ↔ HasForm (paddedForm 's') body := by
  unfold recognizePaddedText
  cases hf : fieldOf? body with
  | none => exact iff_of_false (by simp) (not_hasForm hf)
  | some f =>
    rw [hasForm_of_fieldOf? hf, paddedForm_fits_iff]
    split
    · rename_i heq
      exact iff_of_true rfl ⟨_, _, _, Option.some.inj heq⟩
    · rename_i hother
      refine iff_of_false (by simp) ?_
      rintro ⟨flag, first, more, rfl⟩
      exact hother flag first more rfl

theorem recognizeCutText_iff {body : String} :
    (recognizeCutText body).isSome = true ↔ HasForm cutForm body := by
  unfold recognizeCutText
  cases hf : fieldOf? body with
  | none => exact iff_of_false (by simp) (not_hasForm hf)
  | some f =>
    rw [hasForm_of_fieldOf? hf, cutForm_fits_iff]
    split
    · rename_i heq
      exact iff_of_true rfl ⟨_, _, _, Option.some.inj heq⟩
    · rename_i hother
      refine iff_of_false (by simp) ?_
      rintro ⟨flag, width, digits, rfl⟩
      exact hother flag width digits rfl

theorem recognizeReal_iff {letter : Char} {body : String} :
    (recognizeReal letter body).isSome = true ↔ HasForm (realForm letter) body := by
  unfold recognizeReal
  cases hf : fieldOf? body with
  | none => exact iff_of_false (by simp) (not_hasForm hf)
  | some f =>
    rw [hasForm_of_fieldOf? hf, realForm_fits_iff]
    by_cases h : f.conversion = letter <;> simp [h]

/-! ## Patterns -/

/-- `\d+` -/
def digitsPattern : Pattern := .seq (.char Text.isDecimalDigit) (.most Text.isDecimalDigit)

/-- `-?` -/
def minusPattern : Pattern := .either (.single '-') .empty

/-- `[ds]` and the like, in group 1 -/
def letterPattern (letters : List Char) : Pattern := .group 1 (.char fun c => letters.contains c)

/-- `([0-]?)(\d+)d` -/
def paddedIntegerPattern : Pattern :=
  .seq (.group 1 (.either (.char fun c => c == '0' || c == '-') .empty))
    (.seq (.group 2 digitsPattern) (.single 'd'))

/-- `(-?)(\d+)s` -/
def paddedTextPattern : Pattern :=
  .seq (.group 1 minusPattern) (.seq (.group 2 digitsPattern) (.single 's'))

/-- `(-?\d*)[.](\d+)s` -/
def cutTextPattern : Pattern :=
  .seq (.group 1 (.seq minusPattern (.most Text.isDecimalDigit)))
    (.seq (.single '.') (.seq (.group 2 digitsPattern) (.single 's')))

/-- `(-?)(\d*)(?:[.](\d+))?` and a letter -/
def realPattern (letter : Char) : Pattern :=
  .seq (.group 1 minusPattern) (.seq (.group 2 (.most Text.isDecimalDigit))
    (.seq (.either (.seq (.single '.') (.group 3 digitsPattern)) .empty) (.single letter)))

theorem accepts_single {c : Char} {cs : List Char} : (Pattern.single c).Accepts cs ↔ cs = [c] := by
  simp [Pattern.single, Pattern.Accepts]

theorem accepts_digits {cs : List Char} :
    digitsPattern.Accepts cs ↔ cs ≠ [] ∧ ∀ c ∈ cs, Text.isDecimalDigit c = true := by
  rw [digitsPattern, Pattern.Accepts]
  constructor
  · rintro ⟨_, more, ⟨c, hc, rfl⟩, hmore, rfl⟩
    exact ⟨List.cons_ne_nil _ _, List.forall_mem_cons.mpr ⟨hc, hmore⟩⟩
  · rintro ⟨hne, hcs⟩
    obtain ⟨c, more, rfl⟩ := List.exists_cons_of_ne_nil hne
    obtain ⟨hc, hmore⟩ := List.forall_mem_cons.mp hcs
    exact ⟨[c], more, ⟨c, hc, rfl⟩, hmore, rfl⟩

theorem accepts_minus {cs : List Char} :
    minusPattern.Accepts cs ↔ ∃ flag : Bool, cs = if flag then ['-'] else [] := by
  rw [minusPattern, Pattern.Accepts, accepts_single, Pattern.Accepts]
  simp [or_comm]

/-- The bodies of a form, character by character. -/
theorem hasForm_iff {form : Form} (hform : ∀ c ∈ form.letters, c.isAlpha = true) {body : String} :
    HasForm form body ↔ ∃ f : Field, f.WellFormed ∧ form.Fits f ∧ body.toList = f.body := by
  refine exists_congr fun f => ?_
  constructor
  · rintro ⟨hf, hfits⟩
    obtain ⟨hwell, hbody⟩ := (fieldOf?_eq_some_iff (hform _ hfits.conversion)).mp hf
    exact ⟨hwell, hfits, hbody⟩
  · rintro ⟨hwell, hfits, hbody⟩
    exact ⟨(fieldOf?_eq_some_iff (hform _ hfits.conversion)).mpr ⟨hwell, hbody⟩, hfits⟩

theorem letterPattern_matchesAll_iff {letters : List Char} {body : String}
    (hletters : ∀ c ∈ letters, c.isAlpha = true) :
    (letterPattern letters).MatchesAll body.toList ↔ HasForm (letterForm letters) body := by
  rw [Pattern.matchesAll_iff, hasForm_letter_iff hletters, letterPattern]
  simp [Pattern.Accepts]

theorem single_matchesAll_iff {letter : Char} {body : String} (hletter : letter.isAlpha = true) :
    (Pattern.single letter).MatchesAll body.toList ↔ HasForm (letterForm [letter]) body := by
  rw [Pattern.matchesAll_iff, hasForm_letter_iff (by simpa using hletter), accepts_single]
  simp

theorem realPattern_matchesAll_iff {letter : Char} {body : String}
    (hletter : letter.isAlpha = true) :
    (realPattern letter).MatchesAll body.toList ↔ HasForm (realForm letter) body := by
  rw [Pattern.matchesAll_iff, hasForm_iff (by simpa [realForm] using hletter)]
  simp only [realPattern, Pattern.Accepts, accepts_single, accepts_digits, accepts_minus,
    realForm_fits_iff]
  constructor
  · rintro ⟨_, _, ⟨flag, rfl⟩, ⟨width, _, hwidth, ⟨_, _, hfraction, rfl, rfl⟩, rfl⟩, hbody⟩
    rcases hfraction with ⟨_, digits, rfl, hdigits, rfl⟩ | rfl
    · refine ⟨⟨flag, width, some digits, letter⟩, ⟨hwidth, ?_, hletter⟩, rfl, ?_⟩
      · rintro _ ⟨⟩
        exact hdigits
      · rw [hbody, Field.body_eq]
        rfl
    · refine ⟨⟨flag, width, none, letter⟩, .of_precision_none hwidth hletter, rfl, ?_⟩
      rw [hbody, Field.body_eq]
      rfl
  · rintro ⟨⟨flag, width, precision, _⟩, hwell, rfl, hbody⟩
    rw [hbody, Field.body_eq]
    refine ⟨_, _, ⟨flag, rfl⟩, ⟨width, _, hwell.width, ⟨Field.precisionText precision, _, ?_, rfl, rfl⟩, rfl⟩, rfl⟩
    cases precision with
    | none => exact .inr rfl
    | some digits => exact .inl ⟨_, digits, rfl, hwell.precision digits rfl, rfl⟩

theorem paddedTextPattern_matchesAll_iff {body : String} :
    paddedTextPattern.MatchesAll body.toList ↔ HasForm (paddedForm 's') body := by
  rw [Pattern.matchesAll_iff, hasForm_iff (by simp [paddedForm])]
  simp only [paddedTextPattern, Pattern.Accepts, accepts_single, accepts_digits, accepts_minus,
    paddedForm_fits_iff]
  constructor
  · rintro ⟨_, _, ⟨flag, rfl⟩, ⟨width, _, ⟨hne, hwidth⟩, rfl, rfl⟩, hbody⟩
    obtain ⟨first, more, rfl⟩ := List.exists_cons_of_ne_nil hne
    refine ⟨⟨flag, first :: more, none, 's'⟩, .of_precision_none hwidth rfl, ⟨_, _, _, rfl⟩, ?_⟩
    rw [hbody, Field.body_eq]
    rfl
  · rintro ⟨_, hwell, ⟨flag, first, more, rfl⟩, hbody⟩
    rw [hbody, Field.body_eq]
    exact ⟨_, _, ⟨flag, rfl⟩, ⟨_, _, ⟨List.cons_ne_nil _ _, hwell.width⟩, rfl, rfl⟩, rfl⟩

/-- A zero in front of another digit is a digit of the width as well. -/
theorem paddedIntegerPattern_matchesAll_iff {body : String} :
    paddedIntegerPattern.MatchesAll body.toList ↔ HasForm (paddedForm 'd') body := by
  rw [Pattern.matchesAll_iff, hasForm_iff (by simp [paddedForm])]
  simp only [paddedIntegerPattern, Pattern.Accepts, accepts_single, accepts_digits,
    paddedForm_fits_iff]
  constructor
  · rintro ⟨_, _, hflag, ⟨width, _, ⟨hne, hwidth⟩, rfl, rfl⟩, hbody⟩
    obtain ⟨first, more, rfl⟩ := List.exists_cons_of_ne_nil hne
    rcases hflag with ⟨c, hc, rfl⟩ | rfl
    -- The pattern takes a zero as the flag, and the form as the first digit of the width.
    · rcases Bool.or_eq_true_iff.mp hc with hc | hc
      · obtain rfl := beq_iff_eq.mp hc
        refine ⟨⟨false, '0' :: first :: more, none, 'd'⟩, .of_precision_none ?_ rfl, ⟨_, _, _, rfl⟩, ?_⟩
        · exact List.forall_mem_cons.mpr ⟨rfl, hwidth⟩
        · rw [hbody, Field.body_eq]
          rfl
      · obtain rfl := beq_iff_eq.mp hc
        refine ⟨⟨true, first :: more, none, 'd'⟩, .of_precision_none hwidth rfl, ⟨_, _, _, rfl⟩, ?_⟩
        rw [hbody, Field.body_eq]
        rfl
    · refine ⟨⟨false, first :: more, none, 'd'⟩, .of_precision_none hwidth rfl, ⟨_, _, _, rfl⟩, ?_⟩
      rw [hbody, Field.body_eq]
      rfl
  · rintro ⟨_, hwell, ⟨flag, first, more, rfl⟩, hbody⟩
    rw [hbody, Field.body_eq]
    refine ⟨_, _, ?_, ⟨_, _, ⟨List.cons_ne_nil _ _, hwell.width⟩, rfl, rfl⟩, rfl⟩
    cases flag with
    | false => exact .inr rfl
    | true => exact .inl ⟨'-', rfl, rfl⟩

theorem cutTextPattern_matchesAll_iff {body : String} :
    cutTextPattern.MatchesAll body.toList ↔ HasForm cutForm body := by
  rw [Pattern.matchesAll_iff, hasForm_iff (by simp [cutForm])]
  simp only [cutTextPattern, Pattern.Accepts, accepts_single, accepts_digits, accepts_minus,
    cutForm_fits_iff]
  constructor
  · rintro ⟨_, _, ⟨_, width, ⟨flag, rfl⟩, hwidth, rfl⟩, ⟨_, _, rfl, ⟨digits, _, hdigits, rfl, rfl⟩, rfl⟩, hbody⟩
    refine ⟨⟨flag, width, some digits, 's'⟩, ⟨hwidth, ?_, rfl⟩, ⟨_, _, _, rfl⟩, ?_⟩
    · rintro _ ⟨⟩
      exact hdigits
    · rw [hbody, Field.body_eq, List.append_assoc]
      rfl
  · rintro ⟨_, hwell, ⟨flag, width, digits, rfl⟩, hbody⟩
    rw [hbody, Field.body_eq, ← List.append_assoc]
    exact ⟨_, _, ⟨_, width, ⟨flag, rfl⟩, hwell.width, rfl⟩,
      ⟨_, _, rfl, ⟨digits, _, hwell.precision digits rfl, rfl, rfl⟩, rfl⟩, rfl⟩

/-! ## All built-in rules -/

/-- The recognition is for the bodies of the form, and these are the ones that the pattern matches. -/
def Recognizes (form : Form) (pattern : Pattern)
    (recognize : String → Option (List (Option String))) : Prop :=
  ∀ body, ((recognize body).isSome = true ↔ HasForm form body) ∧
    (pattern.MatchesAll body.toList ↔ HasForm form body)

theorem recognizes_letter {letters : List Char} (h : ∀ c ∈ letters, c.isAlpha = true) :
    Recognizes (letterForm letters) (letterPattern letters) (recognizeLetter letters) :=
  fun _ => ⟨recognizeLetter_iff h, letterPattern_matchesAll_iff h⟩

theorem recognizes_exactly {letter : Char} (h : letter.isAlpha = true) :
    Recognizes (letterForm [letter]) (.single letter) (recognizeExactly letter) :=
  fun _ => ⟨recognizeExactly_iff h, single_matchesAll_iff h⟩

theorem recognizes_real {letter : Char} (h : letter.isAlpha = true) :
    Recognizes (realForm letter) (realPattern letter) (recognizeReal letter) :=
  fun _ => ⟨recognizeReal_iff, realPattern_matchesAll_iff h⟩

theorem recognizes_paddedInteger :
    Recognizes (paddedForm 'd') paddedIntegerPattern recognizePaddedInteger :=
  fun _ => ⟨recognizePaddedInteger_iff, paddedIntegerPattern_matchesAll_iff⟩

theorem recognizes_paddedText : Recognizes (paddedForm 's') paddedTextPattern recognizePaddedText :=
  fun _ => ⟨recognizePaddedText_iff, paddedTextPattern_matchesAll_iff⟩

theorem recognizes_cutText : Recognizes cutForm cutTextPattern recognizeCutText :=
  fun _ => ⟨recognizeCutText_iff, cutTextPattern_matchesAll_iff⟩

/-- The forms of bodies that the built-in rules are for, and their patterns, which stand between `^`
and `$`. -/
def builtinForms : List (String × Form × Pattern) := [
  ("string-int-parser", letterForm ['d', 's'], letterPattern ['d', 's']),
  ("padded-int-parser", paddedForm 'd', paddedIntegerPattern),
  ("octal-parser", letterForm ['o'], .single 'o'),
  ("binary-parser", letterForm ['b'], .single 'b'),
  ("hex-parser", letterForm ['x', 'X'], letterPattern ['x', 'X']),
  ("char-parser", letterForm ['c'], .single 'c'),
  ("padded-string-parser", paddedForm 's', paddedTextPattern),
  ("string-max-parser", cutForm, cutTextPattern),
  ("unicode-parser", letterForm ['u'], .single 'u'),
  ("exponential-parser", realForm 'e', realPattern 'e'),
  ("float-parser", realForm 'f', realPattern 'f')]

/-- No two of the forms overlap. -/
theorem builtinForms_exclude : ∀ a ∈ builtinForms, ∀ b ∈ builtinForms, a.1 ≠ b.1 →
    a.2.1.excludes b.2.1 = true := by decide

/-- Every built-in rule is for the bodies of its form. -/
theorem exists_builtinForm : ∀ entry ∈ builtinRules, ∃ form pattern,
    (entry.1, form, pattern) ∈ builtinForms ∧ Recognizes form pattern entry.2.recognize := by
  intro entry hentry
  simp only [builtinRules, List.mem_cons, List.not_mem_nil, or_false] at hentry
  rcases hentry with rfl | rfl | rfl | rfl | rfl | rfl | rfl | rfl | rfl | rfl | rfl
  · exact ⟨_, _, by simp [builtinForms], recognizes_letter (List.all_eq_true.mp rfl)⟩
  · exact ⟨_, _, by simp [builtinForms], recognizes_paddedInteger⟩
  · exact ⟨_, _, by simp [builtinForms], recognizes_exactly rfl⟩
  · exact ⟨_, _, by simp [builtinForms], recognizes_exactly rfl⟩
  · exact ⟨_, _, by simp [builtinForms], recognizes_letter (List.all_eq_true.mp rfl)⟩
  · exact ⟨_, _, by simp [builtinForms], recognizes_exactly rfl⟩
  · exact ⟨_, _, by simp [builtinForms], recognizes_paddedText⟩
  · exact ⟨_, _, by simp [builtinForms], recognizes_cutText⟩
  · exact ⟨_, _, by simp [builtinForms], recognizes_exactly rfl⟩
  · exact ⟨_, _, by simp [builtinForms], recognizes_real rfl⟩
  · exact ⟨_, _, by simp [builtinForms], recognizes_real rfl⟩

/-- A body has one form at most. -/
theorem eq_of_hasForm {a b : String × Form × Pattern} (ha : a ∈ builtinForms)
    (hb : b ∈ builtinForms) {body : String} (hbody : HasForm a.2.1 body)
    (hbody' : HasForm b.2.1 body) : a.1 = b.1 := by
  refine Decidable.byContradiction fun hne => ?_
  obtain ⟨f, hf, hfits⟩ := hbody
  rw [hasForm_of_fieldOf? hf] at hbody'
  exact hfits.not_fits (builtinForms_exclude a ha b hb hne) hbody'

end Directive

end Stencil
