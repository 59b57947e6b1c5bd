import Stencil.Number.Shortest
import Stencil.Number.Reading
import Stencil.Proofs.Number.Nearest
import Stencil.Proofs.Text.Blank
import Stencil.Proofs.Text.Case

/-!
# Decimal literals

A literal is a sign, digits with a point among or beside them, and perhaps an exponent. Nothing else is read as
one.

* `Sign`: a sign that a number may have in front.
* `DecimalLiteral.ofText?_point`, `DecimalLiteral.ofText?_whole`: digits with or without a point are read as
  the literal with these digits.
* `DecimalLiteral.ofText?_zeros`: zeros in front of a literal without a sign change nothing.
* `DecimalForm`: a decimal as it is written.
* `DecimalLiteral.ofText?_eq_some_iff`: what is read as a literal is a form of it.
-/

namespace Stencil.Number

variable {negative : Bool} {cs ws fs body rest : List Char} {c : Char} {n : ℕ} {e : ℤ}

/-! ## Signs -/

theorem splitSign_cons (hminus : c ≠ '-') (hplus : c ≠ '+') (rest : List Char) :
    splitSign (c :: rest) = (false, c :: rest) := by
  rw [splitSign]
  · rintro rest ⟨rfl, -⟩
    exact hminus rfl
  · rintro rest ⟨rfl, -⟩
    exact hplus rfl

theorem splitSign_signed (negative : Bool) (hminus : c ≠ '-') (hplus : c ≠ '+') (rest : List Char) :
    splitSign (signed negative (c :: rest)) = (negative, c :: rest) := by
  cases negative with
  | false => exact splitSign_cons hminus hplus rest
  | true => rfl

theorem ne_of_isDigit {c' : Char} (h : c.isDigit = true) (h' : c'.isDigit = false) : c ≠ c' := by
  rintro rfl
  rw [h] at h'
  cases h'

/-- A sign that a number may have in front. -/
inductive Sign where
  | bare
  | plus
  | minus
  deriving DecidableEq

namespace Sign

variable {sign : Sign}

/-- How a sign is written. -/
def text : Sign → List Char
  | bare => []
  | plus => ['+']
  | minus => ['-']

/-- The sign makes a number negative. -/
def isMinus : Sign → Bool
  | minus => true
  | _ => false

/-- The number with the sign. -/
def apply (sign : Sign) (i : ℤ) : ℤ := if sign.isMinus then -i else i

@[simp] theorem apply_bare (i : ℤ) : bare.apply i = i := rfl

@[simp] theorem apply_plus (i : ℤ) : plus.apply i = i := rfl

@[simp] theorem apply_minus (i : ℤ) : minus.apply i = -i := rfl

theorem apply_eq_or (sign : Sign) (i : ℤ) : sign.apply i = i ∨ sign.apply i = -i := by
  cases sign <;> simp

theorem eq_of_mem_text (h : c ∈ sign.text) : c = '+' ∨ c = '-' := by
  cases sign <;> simp_all [text]

theorem solid_text (sign : Sign) : Text.Solid sign.text := by
  intro c hc
  rcases eq_of_mem_text hc with rfl | rfl <;> rfl

end Sign

/-- The sign in front of a text that goes on with no other one. -/
theorem splitSign_text (sign : Sign) (h : ∀ c more, body = c :: more → c ≠ '-' ∧ c ≠ '+') :
    splitSign (sign.text ++ body) = (sign.isMinus, body) := by
  cases sign with
  | bare =>
    cases body with
    | nil => rfl
    | cons c more => exact splitSign_cons (h c more rfl).1 (h c more rfl).2 more
  | plus => rfl
  | minus => rfl

/-- Every text is a sign and what follows it. -/
theorem exists_sign (cs : List Char) :
    ∃ (sign : Sign) (body : List Char), cs = sign.text ++ body ∧ splitSign cs = (sign.isMinus, body) := by
  unfold splitSign
  split
  · exact ⟨.minus, _, rfl, rfl⟩
  · exact ⟨.plus, _, rfl, rfl⟩
  · exact ⟨.bare, _, rfl, rfl⟩

/-! ## Reading part by part -/

namespace DecimalLiteral

/-- The exact value. -/
def value (l : DecimalLiteral) : ℚ :=
  if l.negative then -(⟨l.digits, l.exponent⟩ : Decimal).value else (⟨l.digits, l.exponent⟩ : Decimal).value

/-- An exponent starts with its letter. -/
theorem exponentOf?_cases (h : exponentOf? rest = some e) :
    rest = [] ∨ ∃ c more, rest = c :: more ∧ (c = 'e' ∨ c = 'E') := by
  cases rest with
  | nil => exact .inl rfl
  | cons c more =>
    rw [exponentOf?] at h
    split at h
    · exact .inr ⟨c, more, rfl, ‹_›⟩
    · cases h

theorem exponentOf?_exponentText (e : ℤ) : exponentOf? (exponentText e) = some e := by
  rw [exponentText, exponentOf?, if_pos (.inl rfl)]
  by_cases he : e < 0
  · have hsplit : splitSign ('-' :: numeral 10 e.natAbs) = (true, numeral 10 e.natAbs) := rfl
    simp only [if_pos he, hsplit, ofNumeral?_numeral, if_true, Option.some.injEq]
    omega
  · have hsplit : splitSign ('+' :: numeral 10 e.natAbs) = (false, numeral 10 e.natAbs) := rfl
    simp only [if_neg he, hsplit, ofNumeral?_numeral, Bool.false_eq_true, if_false, Option.some.injEq]
    omega

theorem takeWhile_digits (hws : ∀ c ∈ ws, c.isDigit = true) (hrest : ∀ c more, rest = c :: more → c.isDigit = false) :
    (ws ++ rest).takeWhile Char.isDigit = ws ∧ (ws ++ rest).dropWhile Char.isDigit = rest := by
  rw [List.takeWhile_append_of_pos hws, List.dropWhile_append_of_pos hws]
  cases rest with
  | nil => exact ⟨List.append_nil _, rfl⟩
  | cons c more =>
    have hc := hrest c more rfl
    rw [List.takeWhile_cons_of_neg (by simp [hc]), List.dropWhile_cons_of_neg (by simp [hc])]
    exact ⟨List.append_nil _, rfl⟩

theorem not_isDigit_of_exponentOf? (h : exponentOf? rest = some e) {more : List Char}
    (hrest : rest = c :: more) : c.isDigit = false ∧ c ≠ '.' := by
  rcases exponentOf?_cases h with rfl | ⟨c', more', rfl, hc⟩
  · cases hrest
  · cases hrest
    rcases hc with rfl | rfl <;> exact ⟨rfl, by decide⟩

/-- The digits after a leading point, and what follows them. -/
def splitPoint : List Char → List Char × List Char
  | '.' :: rest => (rest.takeWhile Char.isDigit, rest.dropWhile Char.isDigit)
  | rest => ([], rest)

theorem splitPoint_of_ne (h : ∀ more, rest ≠ '.' :: more) : splitPoint rest = ([], rest) := by
  rw [splitPoint]
  exact h

/-- A literal, read part by part. -/
theorem ofText?_eq {body : List Char} (h : splitSign cs = (negative, body)) :
    ofText? cs = (ofNumeral? 10 (body.takeWhile Char.isDigit ++
        (splitPoint (body.dropWhile Char.isDigit)).1)).bind fun digits =>
      (exponentOf? (splitPoint (body.dropWhile Char.isDigit)).2).map fun exponent =>
        ⟨negative, digits, exponent - (splitPoint (body.dropWhile Char.isDigit)).1.length⟩ := by
  rw [ofText?, h]
  dsimp only
  split
  · rename_i digits exponent hdigits hexponent
    have hdigits : ofNumeral? 10 (body.takeWhile Char.isDigit ++
        (splitPoint (body.dropWhile Char.isDigit)).1) = some digits := hdigits
    have hexponent : exponentOf? (splitPoint (body.dropWhile Char.isDigit)).2 = some exponent := hexponent
    rw [hdigits, hexponent]
    rfl
  · rename_i hnone
    cases hdigits : ofNumeral? 10 (body.takeWhile Char.isDigit ++
        (splitPoint (body.dropWhile Char.isDigit)).1) with
    | none => rfl
    | some digits =>
      cases hexponent : exponentOf? (splitPoint (body.dropWhile Char.isDigit)).2 with
      | none => rfl
      | some exponent => exact (hnone digits exponent hdigits hexponent).elim

/-- Digits without a point, and an exponent. -/
theorem ofText?_whole (negative : Bool) (hn : ofNumeral? 10 ws = some n) (he : exponentOf? rest = some e) :
    ofText? (signed negative (ws ++ rest)) = some ⟨negative, n, e⟩ := by
  obtain ⟨hne, hws⟩ := digits_of_ofNumeral? hn
  obtain ⟨first, more, rfl⟩ := List.exists_cons_of_ne_nil hne
  have hfirst : first.isDigit = true := hws first List.mem_cons_self
  obtain ⟨htake, hdrop⟩ := takeWhile_digits hws fun c more h => (not_isDigit_of_exponentOf? he h).1
  have hpoint : splitPoint rest = ([], rest) :=
    splitPoint_of_ne fun more h => (not_isDigit_of_exponentOf? he h).2 rfl
  have hsplit := splitSign_signed negative (ne_of_isDigit hfirst rfl) (ne_of_isDigit hfirst rfl)
    (more ++ rest)
  rw [← List.cons_append] at hsplit
  rw [ofText?_eq hsplit, htake, hdrop, hpoint, List.append_nil, hn, he, List.length_nil]
  simp

/-- Digits with a point in front of the last ones, and an exponent. -/
theorem ofText?_point (negative : Bool) (hne : ws ≠ []) (hn : ofNumeral? 10 (ws ++ fs) = some n)
    (he : exponentOf? rest = some e) :
    ofText? (signed negative (ws ++ '.' :: (fs ++ rest))) = some ⟨negative, n, e - fs.length⟩ := by
  have hdigits := (digits_of_ofNumeral? hn).2
  obtain ⟨first, more, rfl⟩ := List.exists_cons_of_ne_nil hne
  have hfirst : first.isDigit = true := hdigits first List.mem_cons_self
  obtain ⟨htake, hdrop⟩ := takeWhile_digits (fun c hc => hdigits c (List.mem_append_left fs hc))
    (show ∀ c more, '.' :: (fs ++ rest) = c :: more → c.isDigit = false from
      fun c more h => (List.cons.inj h).1 ▸ rfl)
  have hpoint : splitPoint ('.' :: (fs ++ rest)) = (fs, rest) := by
    obtain ⟨htake, hdrop⟩ := takeWhile_digits (fun c hc => hdigits c (List.mem_append_right _ hc))
      fun c more h => (not_isDigit_of_exponentOf? he h).1
    rw [splitPoint, htake, hdrop]
  have hsplit := splitSign_signed negative (ne_of_isDigit hfirst rfl) (ne_of_isDigit hfirst rfl)
    (more ++ '.' :: (fs ++ rest))
  rw [← List.cons_append] at hsplit
  rw [ofText?_eq hsplit, htake, hdrop, hpoint, hn, he]
  rfl

/-- Zeros in front of the digits change nothing. -/
theorem ofText?_zeros {body : List Char} {l : DecimalLiteral}
    (hsplit : splitSign (signed negative body) = (negative, body)) (h : ofText? (signed negative body) = some l)
    (k : ℕ) : ofText? (signed negative (List.replicate k '0' ++ body)) = some l := by
  have hzeros := isDigit_zeros k
  have hsplit' : splitSign (signed negative (List.replicate k '0' ++ body)) =
      (negative, List.replicate k '0' ++ body) := by
    cases k with
    | zero => exact hsplit
    | succ k => exact splitSign_signed negative (by decide) (by decide) _
  rw [ofText?_eq hsplit] at h
  obtain ⟨digits, hdigits, h⟩ := Option.bind_eq_some_iff.mp h
  rw [ofText?_eq hsplit', List.takeWhile_append_of_pos hzeros, List.dropWhile_append_of_pos hzeros,
    List.append_assoc, ofNumeral?_zeros hdigits]
  exact h

end DecimalLiteral

/-! ## The grammar -/

/-- The exponent of a decimal as it is written. -/
structure ExponentForm where
  capital : Bool
  sign : Sign
  digits : List ℕ

namespace ExponentForm

/-- There is at least one digit. -/
def Valid (form : ExponentForm) : Prop := form.digits ≠ [] ∧ ∀ d ∈ form.digits, d < 10

/-- The letter, the sign and the digits. -/
def text (form : ExponentForm) : List Char :=
  (if form.capital then 'E' else 'e') :: (form.sign.text ++ form.digits.map Nat.digitChar)

/-- The power of ten that an exponent stands for. -/
def value (form : ExponentForm) : ℤ := form.sign.apply (ofDigits 10 form.digits)

end ExponentForm

/-- A decimal as it is written: a sign, digits, perhaps a point with more digits, and perhaps an exponent. -/
structure DecimalForm where
  sign : Sign
  whole : List ℕ
  fraction : Option (List ℕ)
  exponent : Option ExponentForm

namespace DecimalForm

variable {form : DecimalForm}

/-- The digits on both sides of the point. -/
def digits (form : DecimalForm) : List ℕ := form.whole ++ form.fraction.getD []

/-- There is at least one digit on one side of the point. -/
structure Valid (form : DecimalForm) : Prop where
  digits_ne_nil : form.digits ≠ []
  lt : ∀ d ∈ form.digits, d < 10
  exponent : ∀ e ∈ form.exponent, e.Valid

/-- The point and the digits behind it. -/
def fractionText (form : DecimalForm) : List Char :=
  form.fraction.elim [] fun ds => '.' :: ds.map Nat.digitChar

/-- The exponent as it is written, if there is one. -/
def exponentText (form : DecimalForm) : List Char := form.exponent.elim [] ExponentForm.text

/-- A number as it is written. -/
def text (form : DecimalForm) : List Char :=
  form.sign.text ++ (form.whole.map Nat.digitChar ++ (form.fractionText ++ form.exponentText))

/-- The digits behind the point are those of powers of ten below one. -/
def literal (form : DecimalForm) : DecimalLiteral where
  negative := form.sign.isMinus
  digits := ofDigits 10 form.digits
  exponent := form.exponent.elim 0 ExponentForm.value - (form.fraction.getD []).length

end DecimalForm

/-- The characters of digits that a text starts with are those of some digits. -/
theorem exists_digits_takeWhile (cs : List Char) :
    ∃ ds : List ℕ, (∀ d ∈ ds, d < 10) ∧ cs.takeWhile Char.isDigit = ds.map Nat.digitChar := by
  by_cases hne : cs.takeWhile Char.isDigit = []
  · exact ⟨[], by simp, by simp [hne]⟩
  · obtain ⟨ds, hds⟩ := exists_spells_iff.mpr ⟨hne, fun c hc => List.mem_takeWhile_imp hc⟩
    exact ⟨ds, hds.eq_map.2, hds.eq_map.1⟩

/-- Digits are no signs. -/
theorem splitSign_digits (sign : Sign) {ds : List ℕ} (h : ∀ d ∈ ds, d < 10) :
    splitSign (sign.text ++ ds.map Nat.digitChar) = (sign.isMinus, ds.map Nat.digitChar) := by
  apply splitSign_text
  intro c more hcons
  have hdigit := isDigit_of_mem_map h (hcons ▸ List.mem_cons_self)
  exact ⟨ne_of_isDigit hdigit rfl, ne_of_isDigit hdigit rfl⟩

/-- What is read as an exponent is nothing or the form of one. -/
theorem exponentOf?_eq_some_iff : DecimalLiteral.exponentOf? rest = some e ↔
    ∃ form : Option ExponentForm, (∀ f ∈ form, f.Valid) ∧ rest = form.elim [] ExponentForm.text ∧
      e = form.elim 0 ExponentForm.value := by
  constructor
  · intro h
    cases rest with
    | nil => exact ⟨none, by simp, rfl, (Option.some.inj h).symm⟩
    | cons c more =>
      obtain ⟨sign, body, rfl, hsplit⟩ := exists_sign more
      rw [DecimalLiteral.exponentOf?, hsplit] at h
      split at h
      · next hletter =>
        simp only at h
        split at h
        · next n hn =>
          obtain ⟨ds, rfl, hne, hds, rfl⟩ := exists_digits_of_ofNumeral? hn
          have hvalid : ExponentForm.Valid ⟨decide (c = 'E'), sign, ds⟩ := ⟨hne, hds⟩
          refine ⟨some ⟨decide (c = 'E'), sign, ds⟩, by simpa using hvalid, ?_, (Option.some.inj h).symm⟩
          rcases hletter with rfl | rfl <;> rfl
        · cases h
      · cases h
  · rintro ⟨form, hvalid, rfl, rfl⟩
    cases form with
    | none => rfl
    | some form =>
      obtain ⟨hne, hds⟩ := hvalid form rfl
      have hletter : (if form.capital then 'E' else 'e') = 'e' ∨ (if form.capital then 'E' else 'e') = 'E' := by
        cases form.capital <;> simp
      rw [Option.elim_some, Option.elim_some, ExponentForm.text, DecimalLiteral.exponentOf?, if_pos hletter,
        splitSign_digits _ hds]
      simp only [ofNumeral?_map hne hds]
      rfl

namespace DecimalForm

variable {form : DecimalForm}

theorem Valid.isDigit (h : form.Valid) : (∀ c ∈ form.whole.map Nat.digitChar, c.isDigit = true) ∧
    ∀ c ∈ (form.fraction.getD []).map Nat.digitChar, c.isDigit = true :=
  ⟨fun _ => isDigit_of_mem_map fun d hd => h.lt d (List.mem_append_left _ hd),
    fun _ => isDigit_of_mem_map fun d hd => h.lt d (List.mem_append_right _ hd)⟩

theorem Valid.exponentOf? (h : form.Valid) :
    DecimalLiteral.exponentOf? form.exponentText = some (form.exponent.elim 0 ExponentForm.value) :=
  exponentOf?_eq_some_iff.mpr ⟨form.exponent, h.exponent, rfl, rfl⟩

/-- The point and the digits behind it are taken apart from the exponent. -/
theorem Valid.splitPoint (h : form.Valid) :
    DecimalLiteral.splitPoint (form.fractionText ++ form.exponentText) =
      ((form.fraction.getD []).map Nat.digitChar, form.exponentText) := by
  have hend : ∀ c more, form.exponentText = c :: more → c.isDigit = false ∧ c ≠ '.' :=
    fun c more => DecimalLiteral.not_isDigit_of_exponentOf? h.exponentOf?
  have hdigits := h.isDigit.2
  unfold fractionText
  cases hfraction : form.fraction with
  | none =>
    exact DecimalLiteral.splitPoint_of_ne fun more hmore => (hend '.' more hmore).2 rfl
  | some ds =>
    rw [hfraction] at hdigits
    obtain ⟨htake, hdrop⟩ := DecimalLiteral.takeWhile_digits hdigits fun c more hc => (hend c more hc).1
    rw [Option.elim_some, List.cons_append, DecimalLiteral.splitPoint]
    exact Prod.ext htake hdrop

/-- Neither a point nor an exponent starts with a digit. -/
theorem Valid.not_isDigit (h : form.Valid) {more : List Char}
    (hmore : form.fractionText ++ form.exponentText = c :: more) : c.isDigit = false := by
  unfold fractionText at hmore
  cases hfraction : form.fraction with
  | none =>
    rw [hfraction] at hmore
    exact (DecimalLiteral.not_isDigit_of_exponentOf? h.exponentOf? hmore).1
  | some ds =>
    rw [hfraction] at hmore
    obtain rfl := (List.cons.inj hmore).1
    rfl

/-- Behind the sign there is a digit, or a point and a digit. -/
theorem Valid.exists_digit (h : form.Valid) : ∃ (point : List Char) (c : Char) (more : List Char),
    form.whole.map Nat.digitChar ++ (form.fractionText ++ form.exponentText) = point ++ c :: more ∧
      (point = [] ∨ point = ['.']) ∧ c.isDigit = true := by
  have hdigit : ∀ d ∈ form.digits, (Nat.digitChar d).isDigit = true := fun d hd => by
    simp [Nat.isDigit_digitChar, h.lt d hd]
  cases hwhole : form.whole with
  | cons d ds => exact ⟨[], Nat.digitChar d, _, rfl, .inl rfl, hdigit d (by simp [digits, hwhole])⟩
  | nil =>
    have hne := h.digits_ne_nil
    unfold fractionText
    cases hfraction : form.fraction with
    | none => simp [digits, hwhole, hfraction] at hne
    | some ds =>
      cases ds with
      | nil => simp [digits, hwhole, hfraction] at hne
      | cons d ds => exact ⟨['.'], Nat.digitChar d, _, rfl, .inr rfl, hdigit d (by simp [digits, hfraction])⟩

/-- The first character behind the sign is a digit or a point. -/
theorem Valid.splitSign (h : form.Valid) : Number.splitSign form.text =
    (form.sign.isMinus, form.whole.map Nat.digitChar ++ (form.fractionText ++ form.exponentText)) := by
  apply splitSign_text
  intro c more hcons
  obtain ⟨point, c', more', hbody, rfl | rfl, hdigit⟩ := h.exists_digit
  · rw [hbody] at hcons
    obtain rfl := (List.cons.inj hcons).1
    exact ⟨ne_of_isDigit hdigit rfl, ne_of_isDigit hdigit rfl⟩
  · rw [hbody] at hcons
    obtain rfl := (List.cons.inj hcons).1
    decide

theorem Valid.ofText? (h : form.Valid) : DecimalLiteral.ofText? form.text = some form.literal := by
  obtain ⟨htake, hdrop⟩ := DecimalLiteral.takeWhile_digits h.isDigit.1 fun c more => h.not_isDigit
  have hdigits := ofNumeral?_map h.digits_ne_nil h.lt
  rw [digits, List.map_append] at hdigits
  rw [DecimalLiteral.ofText?_eq h.splitSign, htake, hdrop, h.splitPoint, hdigits, h.exponentOf?]
  simp only [List.length_map]
  rfl

theorem Valid.mem_fractionText (h : form.Valid) (hc : c ∈ form.fractionText) : c.isDigit = true ∨ c = '.' := by
  have hdigits := h.isDigit.2
  unfold fractionText at hc
  cases hfraction : form.fraction with
  | none => simp [hfraction] at hc
  | some ds =>
    rw [hfraction] at hc hdigits
    rcases List.mem_cons.mp hc with rfl | hc
    · exact .inr rfl
    · exact .inl (hdigits c hc)

theorem Valid.mem_exponentText (h : form.Valid) (hc : c ∈ form.exponentText) :
    c.isDigit = true ∨ c ∈ ['+', '-', 'e', 'E'] := by
  unfold exponentText at hc
  cases hexponent : form.exponent with
  | none => simp [hexponent] at hc
  | some e =>
    rw [hexponent] at hc
    rcases List.mem_cons.mp hc with rfl | hc
    · cases e.capital <;> simp
    · rcases List.mem_append.mp hc with hc | hc
      · rcases Sign.eq_of_mem_text hc with rfl | rfl <;> simp
      · exact .inl (isDigit_of_mem_map (h.exponent e hexponent).2 hc)

/-- The characters of a decimal. -/
theorem Valid.mem_text (h : form.Valid) (hc : c ∈ form.text) :
    c.isDigit = true ∨ c ∈ ['+', '-', '.', 'e', 'E'] := by
  simp only [text, List.mem_append] at hc
  rcases hc with hc | hc | hc | hc
  · rcases Sign.eq_of_mem_text hc with rfl | rfl <;> simp
  · exact .inl (h.isDigit.1 c hc)
  · exact (h.mem_fractionText hc).imp_right (by rintro rfl; simp)
  · exact (h.mem_exponentText hc).imp_right (by simp +contextual [or_imp])

/-- A decimal has no letters but that of an exponent. -/
theorem Valid.not_isWordLetter (h : form.Valid) (hc : c ∈ form.text) : isWordLetter c = false := by
  rcases h.mem_text hc with hdigit | hmem
  · have hbounds : 48 ≤ c.toNat ∧ c.toNat ≤ 57 := Char.isDigit_iff_toNat.mp hdigit
    have halpha : c.isAlpha = false := by
      by_contra halpha
      have := Text.toNat_of_isAlpha (Bool.not_eq_false _ ▸ halpha)
      omega
    simp [isWordLetter, halpha]
  · simp only [List.mem_cons, List.not_mem_nil, or_false] at hmem
    rcases hmem with rfl | rfl | rfl | rfl | rfl <;> rfl

end DecimalForm

/-- Behind the digits there is a point with more digits, perhaps none, or no point; then comes the rest. -/
theorem exists_fraction (rest : List Char) : ∃ fraction : Option (List ℕ), (∀ d ∈ fraction.getD [], d < 10) ∧
    (DecimalLiteral.splitPoint rest).1 = (fraction.getD []).map Nat.digitChar ∧
    rest = (fraction.elim [] fun ds => '.' :: ds.map Nat.digitChar) ++ (DecimalLiteral.splitPoint rest).2 := by
  by_cases hpoint : ∃ more, rest = '.' :: more
  · obtain ⟨more, rfl⟩ := hpoint
    obtain ⟨fraction, hfraction, hdigits⟩ := exists_digits_takeWhile more
    refine ⟨some fraction, hfraction, hdigits, ?_⟩
    rw [Option.elim_some, ← hdigits, List.cons_append]
    exact congrArg _ List.takeWhile_append_dropWhile.symm
  · refine ⟨none, by simp, ?_, ?_⟩ <;> rw [DecimalLiteral.splitPoint_of_ne fun more h => hpoint ⟨more, h⟩]
    · rfl
    · rfl

/-- **The grammar of decimals.** A text is read as a literal exactly if it is a form of this literal. -/
theorem DecimalLiteral.ofText?_eq_some_iff {l : DecimalLiteral} :
    ofText? cs = some l ↔ ∃ form : DecimalForm, form.Valid ∧ cs = form.text ∧ form.literal = l := by
  constructor
  · intro h
    obtain ⟨sign, body, rfl, hsplit⟩ := exists_sign cs
    rw [ofText?_eq hsplit] at h
    obtain ⟨n, hn, h⟩ := Option.bind_eq_some_iff.mp h
    obtain ⟨e, he, rfl⟩ := Option.map_eq_some_iff.mp h
    -- What reading has cut off in turn, as digits: the integer part, the fraction and the exponent.
    obtain ⟨whole, hwhole, htake⟩ := exists_digits_takeWhile body
    obtain ⟨fraction, hfraction, hdigits, hbehind⟩ := exists_fraction (body.dropWhile Char.isDigit)
    obtain ⟨exponent, hexponent, hrest, rfl⟩ := exponentOf?_eq_some_iff.mp he
    rw [htake, hdigits, ← List.map_append] at hn
    have hlt : ∀ d ∈ whole ++ fraction.getD [], d < 10 := fun d hd =>
      (List.mem_append.mp hd).elim (hwhole d) (hfraction d)
    have hne : whole ++ fraction.getD [] ≠ [] := fun hnil => by
      rw [hnil] at hn
      cases hn
    rw [ofNumeral?_map hne hlt] at hn
    refine ⟨⟨sign, whole, fraction, exponent⟩, ⟨hne, hlt, hexponent⟩, ?_, ?_⟩
    · have hbody : body = whole.map Nat.digitChar ++ body.dropWhile Char.isDigit := by
        rw [← htake, List.takeWhile_append_dropWhile]
      conv => lhs; rw [hbody, hbehind, hrest]
      rfl
    · rw [hdigits, List.length_map, DecimalForm.literal, ← Option.some.inj hn]
      rfl
  · rintro ⟨form, hvalid, rfl, rfl⟩
    exact hvalid.ofText?

end Stencil.Number
