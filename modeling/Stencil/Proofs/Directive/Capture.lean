import Stencil.Proofs.Directive.Form

/-!
# What the rules capture

A rule captures the parts of a body that the groups of its pattern have in the match that counts. Where a
pattern can match a body in two ways, as it can if a zero stands in front of a width, a search with
backtracking decides: the zero is the flag if another digit follows, and is a digit of the width if none
does.

* `CapturesAs`: a recognition captures what the groups of a pattern do.
* `whole?_realPattern` and its like: what the groups have in a body with given parts.
* `recognizeReal_eq` and its like: what the recognition captures of it.
* `recognizeReal_capturesAs` and its like: the two are the same for all bodies.
-/

namespace Stencil.Directive

open Pattern

/-- The captures of a body are what the groups have in the match between `^` and `$`. -/
def CapturesAs (pattern : Pattern) (groups : List Nat)
    (recognize : String → Option (List (Option String))) : Prop :=
  ∀ body, recognize body =
    (pattern.whole? body.toList).map fun m => captured body (groups.map m.group)

/-- It is enough to look at bodies of the form. -/
theorem capturesAs_of {form : Form} {pattern : Pattern} {groups : List Nat}
    {recognize : String → Option (List (Option String))}
    (hform : ∀ c ∈ form.letters, c.isAlpha = true) (h : Recognizes form pattern recognize)
    (hcap : ∀ f body, f.WellFormed → form.Fits f → fieldOf? body = some f →
      ∃ m, pattern.whole? f.body = some m ∧
        recognize body = some (captured body (groups.map m.group))) :
    CapturesAs pattern groups recognize := by
  intro body
  obtain ⟨hrecognize, hpattern⟩ := h body
  by_cases hbody : HasForm form body
  · obtain ⟨f, hf, hfits⟩ := hbody
    obtain ⟨hwell, hchars⟩ := (fieldOf?_eq_some_iff (hform _ hfits.conversion)).mp hf
    obtain ⟨m, hm, hcaptured⟩ := hcap f body hwell hfits hf
    rw [hcaptured, hchars, hm]
    rfl
  · rw [Option.not_isSome_iff_eq_none.mp (hbody ∘ hrecognize.mp),
      Option.not_isSome_iff_eq_none.mp (hbody ∘ hpattern.mp ∘ whole?_isSome_iff.mp)]
    rfl

/-! ## Matches of the patterns -/

section Patterns

variable {f : Field} {digits rest : List Char} {letter : Char}

theorem first?_single (c : Char) (rest : List Char) :
    (single c).first? (c :: rest) = some ⟨[c], [], rest⟩ :=
  first?_char (beq_self_eq_true c) rest

theorem first?_minus (hf : f.WellFormed) :
    minusPattern.first? (f.flagText ++ (f.width ++ f.tail)) = some ⟨f.flagText, [], f.width ++ f.tail⟩ := by
  have hne := hf.width_tail_ne
  rw [Field.flagText, minusPattern]
  generalize f.width ++ f.tail = rest at hne ⊢
  cases f.leftAligned with
  | true => exact first?_either_of_some (first?_single '-' rest)
  | false =>
    refine (first?_either ?_).trans rfl
    cases rest with
    | nil => rfl
    | cons c more =>
      have hc : c ≠ '-' := fun hc => hne more (hc ▸ rfl)
      exact if_neg (by simpa using hc)

theorem first?_width (hf : f.WellFormed) :
    (most Text.isDecimalDigit).first? (f.width ++ f.tail) = some ⟨f.width, [], f.tail⟩ := by
  refine first?_most hf.width fun c more htail => ?_
  obtain ⟨d, rest, hd, hstop⟩ := hf.tail_head
  obtain rfl := (List.cons.inj (htail.symm.trans hd)).1
  exact Field.not_isDecimalDigit (hstop.imp_right .inr)

theorem first?_digits (hne : digits ≠ []) (hdigits : ∀ c ∈ digits, Text.isDecimalDigit c = true)
    (hrest : ∀ c more, rest = c :: more → Text.isDecimalDigit c = false) :
    digitsPattern.first? (digits ++ rest) = some ⟨digits, [], rest⟩ := by
  obtain ⟨c, more, rfl⟩ := List.exists_cons_of_ne_nil hne
  obtain ⟨hc, hmore⟩ := List.forall_mem_cons.mp hdigits
  exact first?_seq (first?_char hc (more ++ rest)) (first?_most hmore hrest)

/-- No digit is left in front of a letter. -/
theorem digits_stop (hletter : letter.isAlpha = true) :
    ∀ c more, [letter] = c :: more → Text.isDecimalDigit c = false := by
  rintro c more ⟨⟩
  exact Field.not_isDecimalDigit (.inl hletter)

theorem first?_digits_letter (hne : digits ≠ [])
    (hdigits : ∀ c ∈ digits, Text.isDecimalDigit c = true) (hletter : letter.isAlpha = true) :
    (seq (.group 2 digitsPattern) (single letter)).first? (digits ++ [letter]) =
      some ⟨digits ++ [letter], [(2, digits)], []⟩ :=
  first?_seq (first?_group 2 (first?_digits hne hdigits (digits_stop hletter))) (first?_single letter [])

/-- `(?:[.](\d+))?` and a letter -/
theorem first?_tail (hf : f.WellFormed) :
    (seq (either (seq (single '.') (.group 3 digitsPattern)) .empty) (single f.conversion)).first? f.tail =
      some ⟨f.tail, (f.precision.map (3, ·)).toList, []⟩ := by
  rw [Field.tail]
  cases hprecision : f.precision with
  | none =>
    have hpoint : f.conversion ≠ '.' := by
      intro h
      exact absurd hf.conversion (by rw [h]; decide)
    have hnone : (either (seq (single '.') (.group 3 digitsPattern)) .empty).first? [f.conversion] =
        some ⟨[], [], [f.conversion]⟩ :=
      (first?_either (ways_seq_single hpoint _ [])).trans rfl
    exact first?_seq hnone (first?_single f.conversion [])
  | some ds =>
    obtain ⟨hne, hds⟩ := hf.precision ds hprecision
    have hdigits := first?_group 3 (first?_digits hne hds (digits_stop hf.conversion))
    exact first?_seq (first?_either_of_some (first?_seq (first?_single '.' _) hdigits))
      (first?_single f.conversion [])

theorem whole?_realPattern (hf : f.WellFormed) :
    (realPattern f.conversion).whole? f.body =
      some ⟨f.body, (1, f.flagText) :: (2, f.width) :: (f.precision.map (3, ·)).toList, []⟩ := by
  have hflag := first?_group 1 (first?_minus hf)
  have hwidth := first?_group 2 (first?_width hf)
  rw [f.body_eq]
  exact whole?_of_first? (first?_seq hflag (first?_seq hwidth (first?_tail hf))) rfl

theorem whole?_paddedTextPattern {left : Bool} (hne : digits ≠ [])
    (hf : Field.WellFormed ⟨left, digits, none, 's'⟩) :
    paddedTextPattern.whole? (Field.body ⟨left, digits, none, 's'⟩) =
      some ⟨Field.body ⟨left, digits, none, 's'⟩,
        [(1, Field.flagText ⟨left, digits, none, 's'⟩), (2, digits)], []⟩ := by
  have hflag := first?_group 1 (first?_minus hf)
  rw [Field.body_eq]
  exact whole?_of_first? (first?_seq hflag (first?_digits_letter hne hf.width rfl)) rfl

theorem whole?_cutTextPattern {left : Bool} {precision : List Char}
    (hf : Field.WellFormed ⟨left, digits, some precision, 's'⟩) :
    cutTextPattern.whole? (Field.body ⟨left, digits, some precision, 's'⟩) =
      some ⟨Field.body ⟨left, digits, some precision, 's'⟩,
        [(1, Field.flagText ⟨left, digits, some precision, 's'⟩ ++ digits), (2, precision)], []⟩ := by
  obtain ⟨hne, hprecision⟩ := hf.precision precision rfl
  have hfront := first?_group 1 (first?_seq (first?_minus hf) (first?_width hf))
  have htail := first?_seq (first?_single '.' (precision ++ ['s']))
    (first?_digits_letter hne hprecision rfl)
  have hmatch := whole?_of_first? (first?_seq hfront htail) rfl
  rw [Field.body_eq, cutTextPattern, hmatch]
  simp [Match.append, Field.tail, Field.precisionText]

/-- With a flag all digits behind it are those of the width. -/
theorem whole?_paddedIntegerPattern_flag {flag : Char} (hflag : (flag == '0' || flag == '-') = true)
    (hne : digits ≠ []) (hdigits : ∀ c ∈ digits, Text.isDecimalDigit c = true) :
    paddedIntegerPattern.whole? (flag :: (digits ++ ['d'])) =
      some ⟨flag :: (digits ++ ['d']), [(1, [flag]), (2, digits)], []⟩ := by
  have hfirst : (either (char fun c => c == '0' || c == '-') .empty).first?
      (flag :: (digits ++ ['d'])) = some ⟨[flag], [], digits ++ ['d']⟩ :=
    first?_either_of_some (first?_char hflag _)
  exact whole?_of_first? (first?_seq (first?_group 1 hfirst) (first?_digits_letter hne hdigits rfl)) rfl

/-- Without a zero in front of other digits there is no flag. -/
theorem whole?_paddedIntegerPattern_plain (hne : digits ≠ [])
    (hlead : ∀ more, digits = '0' :: more → more = [])
    (hdigits : ∀ c ∈ digits, Text.isDecimalDigit c = true) :
    paddedIntegerPattern.whole? (digits ++ ['d']) = some ⟨digits ++ ['d'], [(1, []), (2, digits)], []⟩ := by
  obtain ⟨first, more, rfl⟩ := List.exists_cons_of_ne_nil hne
  by_cases hzero : first = '0'
  · -- The zero is taken for the flag at first, but then no digit is left for the width.
    obtain rfl := hzero
    obtain rfl := hlead more rfl
    rfl
  have hminus : first ≠ '-' := by
    intro h
    exact absurd (hdigits first List.mem_cons_self) (by rw [h]; decide)
  have hways : (char fun c => c == '0' || c == '-').ways (first :: (more ++ ['d'])) = [] :=
    if_neg (by simp [hzero, hminus])
  have hfirst : (either (char fun c => c == '0' || c == '-') .empty).first? (first :: more ++ ['d']) =
      some ⟨[], [], first :: more ++ ['d']⟩ :=
    (first?_either hways).trans rfl
  exact whole?_of_first? (first?_seq (first?_group 1 hfirst) (first?_digits_letter hne hdigits rfl)) rfl

end Patterns

/-! ## Captures of the rules -/

section Rules

variable {f : Field} {body : String} {digits : List Char}

theorem recognizeReal_eq (h : fieldOf? body = some f) :
    recognizeReal f.conversion body =
      some (captured body [some f.flagText, some f.width, f.precision]) := by
  rw [recognizeReal, h]
  exact if_pos rfl

theorem recognizePaddedText_eq (hwidth : f.width ≠ []) (hprecision : f.precision = none)
    (hletter : f.conversion = 's') (h : fieldOf? body = some f) :
    recognizePaddedText body = some (captured body [some f.flagText, some f.width]) := by
  obtain ⟨left, width, precision, letter⟩ := f
  obtain ⟨first, more, rfl⟩ := List.exists_cons_of_ne_nil hwidth
  obtain rfl := hprecision
  obtain rfl := hletter
  rw [recognizePaddedText, h]
  rfl

theorem recognizeCutText_eq {precision : List Char} (hprecision : f.precision = some precision)
    (hletter : f.conversion = 's') (h : fieldOf? body = some f) :
    recognizeCutText body = some (captured body [some (f.flagText ++ f.width), some precision]) := by
  obtain ⟨left, width, _, letter⟩ := f
  obtain rfl := hprecision
  obtain rfl := hletter
  rw [recognizeCutText, h]
  rfl

theorem recognizePaddedInteger_minus (hne : digits ≠ [])
    (h : fieldOf? body = some ⟨true, digits, none, 'd'⟩) :
    recognizePaddedInteger body = some (captured body [some ['-'], some digits]) := by
  obtain ⟨first, more, rfl⟩ := List.exists_cons_of_ne_nil hne
  rw [recognizePaddedInteger, h]
  rfl

theorem recognizePaddedInteger_zero (hne : digits ≠ [])
    (h : fieldOf? body = some ⟨false, '0' :: digits, none, 'd'⟩) :
    recognizePaddedInteger body = some (captured body [some ['0'], some digits]) := by
  obtain ⟨first, more, rfl⟩ := List.exists_cons_of_ne_nil hne
  rw [recognizePaddedInteger, h]
  rfl

theorem recognizePaddedInteger_plain (hne : digits ≠ [])
    (hlead : ∀ more, digits = '0' :: more → more = [])
    (h : fieldOf? body = some ⟨false, digits, none, 'd'⟩) :
    recognizePaddedInteger body = some (captured body [some [], some digits]) := by
  obtain ⟨first, more, rfl⟩ := List.exists_cons_of_ne_nil hne
  rw [recognizePaddedInteger, h]
  split
  · rename_i heq
    cases heq
  · rename_i second rest heq
    cases heq
    exact absurd (hlead _ rfl) (List.cons_ne_nil _ _)
  · rename_i heq
    cases heq
    rfl
  · rename_i hother
    exact absurd rfl (hother first more)

/-- The digits of a width and `d` have a zero as their flag, or none. -/
theorem zero_or_plain (digits : List Char) :
    (∃ more, more ≠ [] ∧ digits = '0' :: more) ∨ ∀ more, digits = '0' :: more → more = [] := by
  by_cases h : ∃ more, more ≠ [] ∧ digits = '0' :: more
  · exact .inl h
  · exact .inr fun more hmore => Decidable.byContradiction fun hne => h ⟨more, hne, hmore⟩

theorem recognizeReal_capturesAs {letter : Char} (hletter : letter.isAlpha = true) :
    CapturesAs (realPattern letter) [1, 2, 3] (recognizeReal letter) := by
  refine capturesAs_of (by simpa [realForm] using hletter) (recognizes_real hletter)
    fun f body hwell hfits hf => ?_
  obtain rfl := realForm_fits_iff.mp hfits
  refine ⟨_, whole?_realPattern hwell, (recognizeReal_eq hf).trans ?_⟩
  cases f.precision <;> rfl

theorem recognizePaddedText_capturesAs : CapturesAs paddedTextPattern [1, 2] recognizePaddedText := by
  refine capturesAs_of (by simp [paddedForm]) recognizes_paddedText fun f body hwell hfits hf => ?_
  obtain ⟨left, first, more, rfl⟩ := paddedForm_fits_iff.mp hfits
  have hne : first :: more ≠ [] := List.cons_ne_nil _ _
  exact ⟨_, whole?_paddedTextPattern hne hwell, recognizePaddedText_eq hne rfl rfl hf⟩

theorem recognizeCutText_capturesAs : CapturesAs cutTextPattern [1, 2] recognizeCutText := by
  refine capturesAs_of (by simp [cutForm]) recognizes_cutText fun f body hwell hfits hf => ?_
  obtain ⟨left, digits, precision, rfl⟩ := cutForm_fits_iff.mp hfits
  exact ⟨_, whole?_cutTextPattern hwell, recognizeCutText_eq rfl rfl hf⟩

theorem recognizePaddedInteger_capturesAs :
    CapturesAs paddedIntegerPattern [1, 2] recognizePaddedInteger := by
  refine capturesAs_of (by simp [paddedForm]) recognizes_paddedInteger fun f body hwell hfits hf => ?_
  obtain ⟨left, first, more, rfl⟩ := paddedForm_fits_iff.mp hfits
  have hne : first :: more ≠ [] := List.cons_ne_nil _ _
  rw [Field.body_eq]
  cases left with
  | true => exact ⟨_, whole?_paddedIntegerPattern_flag rfl hne hwell.width, recognizePaddedInteger_minus hne hf⟩
  | false =>
    rcases zero_or_plain (first :: more) with ⟨rest, hrest, heq⟩ | hlead
    · obtain ⟨rfl, rfl⟩ := List.cons.inj heq
      have hdigits := (List.forall_mem_cons.mp hwell.width).2
      exact ⟨_, whole?_paddedIntegerPattern_flag rfl hrest hdigits, recognizePaddedInteger_zero hrest hf⟩
    · exact ⟨_, whole?_paddedIntegerPattern_plain hne hlead hwell.width,
        recognizePaddedInteger_plain hne hlead hf⟩

example : recognizePaddedInteger "0d" = some (captured "0d" [some [], some ['0']]) := rfl

example : recognizePaddedInteger "00d" = some (captured "00d" [some ['0'], some ['0']]) := rfl

end Rules

end Stencil.Directive
