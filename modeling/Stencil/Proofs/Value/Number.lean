import Stencil.Directive.Builtin
import Stencil.Proofs.Number.Display
import Stencil.Proofs.Number.Integer
import Stencil.Proofs.Number.Overflow
import Stencil.Proofs.Text.Case
import Stencil.Value.Coercion

/-!
# Numbers that values stand for

Every number that a value stands for is finite. A text that is marked as no hexadecimal integer stands for a
number exactly if it is, without the blanks around it, a decimal whose nearest number is finite. The words for
infinity and NaN are no decimals.

* `Value.isFinite_of_number?`: the number is finite.
* `Value.exists_digit`: a text that stands for a number starts with a digit, after a sign and a point.
* `Value.number?_decimal`: the main result on texts.
* `Value.number?_display_real`: the default text of a number stands for this number.
-/

namespace Stencil

namespace Value

open Number

variable {s : String} {word : List Char} {y : Binary64} {sign : Sign}

/-- Every number that a value stands for is finite. -/
theorem isFinite_of_number? {arg : Value} {y : Binary64} (h : arg.number? = some y) :
    y.isFinite = true := by
  cases arg with
  | integer i =>
    obtain rfl := Option.some.inj h
    exact isFinite_ofInt i
  | real x =>
    rw [number?] at h
    split at h
    · obtain rfl := Option.some.inj h
      assumption
    · cases h
  | text s => exact Number.isFinite_of_number? h
  | _ => cases h

/-- A decimal stands for the nearest number to it, if this is finite, and nothing else stands for one. -/
theorem number?_text_iff (h : ∀ sign rest, ¬ IsHexadecimal sign rest s) :
    (text s).number? = some y ↔ ∃ form : DecimalForm, form.Valid ∧ Text.trim s.toList = form.text ∧
      y.IsRounded form.sign.isMinus |form.literal.value| := by
  have hhex : hexadecimal? (Text.trim s.toList) = none :=
    (hexadecimal?_cases s).resolve_right fun ⟨sign, rest, hmark⟩ => h sign rest hmark
  have hread : (text s).number? = some y ↔
      ∃ l, DecimalLiteral.ofText? (Text.trim s.toList) = some l ∧ l.nearest = y ∧ y.isFinite = true := by
    have heq : (text s).number? = Number.number? (String.ofList s.toList) := by rw [String.ofList_toList]; rfl
    rw [heq, number?_eq hhex, Option.filter_eq_some_iff, Option.map_eq_some_iff]
    constructor
    · rintro ⟨⟨l, hl, hy⟩, hfinite⟩
      exact ⟨l, hl, hy, hfinite⟩
    · rintro ⟨l, hl, hy, hfinite⟩
      exact ⟨⟨l, hl, hy⟩, hfinite⟩
  rw [hread]
  constructor
  · rintro ⟨l, hl, hy⟩
    obtain ⟨form, hvalid, htext, rfl⟩ := DecimalLiteral.ofText?_eq_some_iff.mp hl
    exact ⟨form, hvalid, htext, DecimalLiteral.nearest_isFinite_iff.mp hy⟩
  · rintro ⟨form, hvalid, htext, hy⟩
    exact ⟨form.literal, htext ▸ hvalid.ofText?, DecimalLiteral.nearest_isFinite_iff.mpr hy⟩

/-- A text that stands for a number starts with a digit, after a sign and a point. -/
theorem exists_digit (h : (text s).number? = some y) : ∃ (sign : Sign) (point : List Char) (c : Char) (more : List Char),
    Text.trim s.toList = sign.text ++ (point ++ c :: more) ∧ (point = [] ∨ point = ['.']) ∧ c.isDigit = true := by
  by_cases hhex : ∀ sign rest, ¬ IsHexadecimal sign rest s
  · obtain ⟨form, hvalid, htext, -⟩ := (number?_text_iff hhex).mp h
    obtain ⟨point, c, more, hbody, hpoint, hc⟩ := hvalid.exists_digit
    exact ⟨form.sign, point, c, more, by rw [htext, DecimalForm.text, hbody], hpoint, hc⟩
  · simp only [not_forall, not_not] at hhex
    obtain ⟨sign, rest, mark, -, htext⟩ := hhex
    exact ⟨sign, [], '0', mark :: rest, htext, .inl rfl, rfl⟩

/-- The words for infinity and NaN. -/
def numberWords : List String := ["inf", "infinity", "nan"]

/-- No word stands for a number, in any case and with any sign. -/
theorem number?_of_word (hword : word.map Char.toLower ∈ numberWords.map String.toList)
    (h : Text.trim s.toList = sign.text ++ word) : (text s).number? = none := by
  have hall : (numberWords.map String.toList).all (fun cs => cs.all fun c => !c.isDigit) = true := by decide
  have hletters := List.all_eq_true.mp (List.all_eq_true.mp hall _ hword)
  rw [Option.eq_none_iff_forall_ne_some]
  intro y hy
  obtain ⟨sign', point, c, more, htext, -, hc⟩ := exists_digit hy
  have hmem : c ∈ sign.text ++ word := by
    rw [← h, htext]
    simp
  rcases List.mem_append.mp hmem with hmem | hmem
  · rcases Sign.eq_of_mem_text hmem with rfl | rfl <;> cases hc
  · have hdigit := hletters _ (List.mem_map_of_mem hmem)
    have hbounds : 48 ≤ c.toNat ∧ c.toNat ≤ 57 := Char.isDigit_iff_toNat.mp hc
    rw [Text.toLower_eq_self (.inl (lt_of_le_of_lt hbounds.2 (by decide))), hc] at hdigit
    cases hdigit

/-- A decimal that is too large stands for no number. -/
theorem number?_of_limit_le {form : DecimalForm} (hvalid : form.Valid) (h : Text.trim s.toList = form.text)
    (hlarge : Magnitude.limit ≤ |form.literal.value|) : (text s).number? = none := by
  have hhex : ∀ sign rest, ¬ IsHexadecimal sign rest s := by
    rintro sign rest ⟨mark, hmark, htext⟩
    have hletter := hvalid.not_isWordLetter (c := mark) (by simp [← h, htext])
    rcases hmark with rfl | rfl <;> cases hletter
  rw [Option.eq_none_iff_forall_ne_some]
  intro y hy
  obtain ⟨form', hvalid', htext, hlt, -⟩ := (number?_text_iff hhex).mp hy
  have hliteral := hvalid.ofText?
  rw [← h, htext, hvalid'.ofText?] at hliteral
  rw [Option.some.inj hliteral] at hlt
  exact absurd hlt (not_lt.mpr hlarge)

/-- Directives take the finite number of an argument. -/
theorem numberOf_cases (heap : Heap) (v : Value) :
    (v.number? = none ∧ Directive.numberOf heap v = .error (Directive.notANumber heap v)) ∨
      ∃ negative x, v.number? = some (.finite negative x) ∧
        Directive.numberOf heap v = .ok (negative && !x.isZero, x) := by
  unfold Directive.numberOf
  cases hv : v.number? with
  | none => exact .inl ⟨rfl, rfl⟩
  | some y =>
    obtain ⟨negative, x, rfl⟩ := Binary64.exists_of_isFinite (isFinite_of_number? hv)
    exact .inr ⟨negative, x, rfl, rfl⟩

/-- **Decimals in texts.** Every number that a value stands for is finite, and directives take no other ones. A
text that is marked as no hexadecimal integer stands for a number exactly if it is, without the blanks around
it, a decimal whose nearest number is finite, and then it stands for this number. A decimal that is too large
stands for no number, and no more do the words for infinity and NaN, in any case. A text that stands for a
number has a digit after a sign and a point, so that neither an empty text nor a sign, a point or an exponent
alone does. -/
theorem number?_decimal (s : String) (y : Binary64) (heap : Heap) :
    (∀ v : Value, v.number? = some y → y.isFinite = true) ∧
    (∀ v : Value, (v.number? = none ∧ Directive.numberOf heap v = .error (Directive.notANumber heap v)) ∨
      ∃ negative x, v.number? = some (.finite negative x) ∧
        Directive.numberOf heap v = .ok (negative && !x.isZero, x)) ∧
    ((∀ sign rest, ¬ IsHexadecimal sign rest s) →
      ((text s).number? = some y ↔ ∃ form : DecimalForm, form.Valid ∧ Text.trim s.toList = form.text ∧
        y.IsRounded form.sign.isMinus |form.literal.value|)) ∧
    (∀ form : DecimalForm, form.Valid → Text.trim s.toList = form.text →
      Magnitude.limit ≤ |form.literal.value| → (text s).number? = none) ∧
    (∀ (sign : Sign) (word : List Char), word.map Char.toLower ∈ numberWords.map String.toList →
      Text.trim s.toList = sign.text ++ word → (text s).number? = none) ∧
    ((text s).number? = some y → ∃ (sign : Sign) (point : List Char) (c : Char) (more : List Char),
      Text.trim s.toList = sign.text ++ (point ++ c :: more) ∧ (point = [] ∨ point = ['.']) ∧
        c.isDigit = true) :=
  ⟨fun _ => isFinite_of_number?, numberOf_cases heap, number?_text_iff, fun _ => number?_of_limit_le,
    fun _ _ => number?_of_word, exists_digit⟩

/-- A decimal between blanks, one that is too large, and two words. -/
theorem number?_decimal_exponent :
    let padded := "\u2003-1.50E+2\n"
    let large : DecimalForm := ⟨.bare, [2], none, some ⟨false, .bare, [3, 0, 8]⟩⟩
    (∀ sign rest, ¬ IsHexadecimal sign rest padded) ∧ (text padded).number? = some (.ofInt (-150)) ∧
      (∃ form : DecimalForm, form.Valid ∧ Text.trim padded.toList = form.text ∧
        (Binary64.ofInt (-150)).IsRounded form.sign.isMinus |form.literal.value|) ∧
      large.Valid ∧ Text.trim "2e308".toList = large.text ∧ Magnitude.limit ≤ |large.literal.value| ∧
      (text "2e308").number? = none ∧ (text "-iNFinity").number? = none ∧ (text "NaN").number? = none := by
  intro padded large
  have hhex : ∀ sign rest, ¬ IsHexadecimal sign rest padded := by
    rintro sign rest ⟨mark, -, htext⟩
    have htrim : Text.trim padded.toList = "-1.50E+2".toList := by decide +kernel
    rw [htrim] at htext
    cases sign <;> cases htext
  have hread : (text padded).number? = some (.ofInt (-150)) := by decide +kernel
  have hvalid : large.Valid := by
    refine ⟨by decide, by decide, ?_⟩
    rintro e ⟨⟩
    exact ⟨by decide, by decide⟩
  have htext : Text.trim "2e308".toList = large.text := by decide +kernel
  have hlarge : Magnitude.limit ≤ |large.literal.value| := by
    have hle : ¬ ((2 * 10 ^ 308 : ℕ) : ℚ) / (1 : ℕ) < Magnitude.limit :=
      (Magnitude.lt_limit_iff Nat.one_pos).not.mpr (by decide +kernel)
    rw [Nat.cast_one, div_one, not_lt, Nat.cast_mul, natCast_pow] at hle
    rw [DecimalLiteral.abs_value]
    exact hle
  obtain ⟨-, -, hdecimal, -⟩ := number?_decimal padded (.ofInt (-150)) .empty
  obtain ⟨-, -, -, hoverflow, -⟩ := number?_decimal "2e308" .nan .empty
  obtain ⟨-, -, -, -, hword, -⟩ := number?_decimal "-iNFinity" .nan .empty
  obtain ⟨-, -, -, -, hword', -⟩ := number?_decimal "NaN" .nan .empty
  exact ⟨hhex, hread, (hdecimal hhex).mp hread, hvalid, htext, hlarge, hoverflow large hvalid htext hlarge,
    hword .minus "iNFinity".toList (by decide) (by decide +kernel),
    hword' .bare "NaN".toList (by decide) (by decide +kernel)⟩

/-- Without a bare point behind its digits a decimal ends with a digit. -/
theorem exists_last_digit {form : DecimalForm} (h : form.Valid) (hpoint : form.fraction ≠ some []) :
    ∃ before c, form.text = before ++ [c] ∧ c.isDigit = true := by
  have hlast : ∀ (before : List Char) (ds : List ℕ), ds ≠ [] → (∀ d ∈ ds, d < 10) →
      form.text = before ++ ds.map Nat.digitChar → ∃ before c, form.text = before ++ [c] ∧ c.isDigit = true := by
    intro before ds hne hds htext
    obtain ⟨first, last, rfl⟩ := (List.eq_nil_or_concat ds).resolve_left hne
    refine ⟨before ++ first.map Nat.digitChar, Nat.digitChar last, by simp [htext], ?_⟩
    simp [Nat.isDigit_digitChar, hds last (by simp)]
  have hne := h.digits_ne_nil
  have hlt := h.lt
  unfold DecimalForm.digits at hne hlt
  -- The last digit is one of the exponent, of the fraction or of the integer part, whichever is written last.
  cases hexponent : form.exponent with
  | some e =>
    obtain ⟨hne, hds⟩ := h.exponent e hexponent
    refine hlast (form.sign.text ++ (form.whole.map Nat.digitChar ++ (form.fractionText ++
      (if e.capital then 'E' else 'e') :: e.sign.text))) e.digits hne hds ?_
    simp [DecimalForm.text, DecimalForm.exponentText, hexponent, ExponentForm.text]
  | none =>
    cases hfraction : form.fraction with
    | some ds =>
      rw [hfraction] at hpoint hlt
      refine hlast (form.sign.text ++ (form.whole.map Nat.digitChar ++ ['.'])) ds (fun hnil => hpoint (by rw [hnil]))
        (fun d hd => hlt d (List.mem_append_right _ hd)) ?_
      simp [DecimalForm.text, DecimalForm.exponentText, DecimalForm.fractionText, hexponent, hfraction]
    | none =>
      rw [hfraction, Option.getD_none, List.append_nil] at hne hlt
      refine hlast form.sign.text form.whole hne hlt ?_
      simp [DecimalForm.text, DecimalForm.exponentText, DecimalForm.fractionText, hexponent, hfraction]

/-- A point may end the digits. -/
theorem number?_decimal_bare_point :
    (∀ sign rest, ¬ IsHexadecimal sign rest "5.") ∧ (text "5.").number? = some (.ofInt 5) ∧
      ¬ ∃ form : DecimalForm, form.Valid ∧ form.fraction ≠ some [] ∧ Text.trim "5.".toList = form.text := by
  refine ⟨?_, by decide +kernel, ?_⟩
  · rintro sign rest ⟨mark, -, htext⟩
    have htrim : Text.trim "5.".toList = "5.".toList := by decide +kernel
    rw [htrim] at htext
    cases sign <;> cases htext
  · rintro ⟨form, hvalid, hpoint, htext⟩
    obtain ⟨before, c, hlast, hdigit⟩ := exists_last_digit hvalid hpoint
    have htrim : Text.trim "5.".toList = ['5'] ++ ['.'] := by decide +kernel
    rw [htrim, hlast] at htext
    obtain rfl := (List.cons.inj (List.append_inj' htext rfl).2).1
    cases hdigit

/-! ## Default texts -/

/-- **Numbers shown and read back.** The default text of a finite number is digits, with a minus sign in front if
the number is negative, and with a point and more digits if it is no integer. It stands for this very number.
Only the negative zero loses its sign. -/
theorem number?_display_real (negative : Bool) (x : Magnitude) (heap : Heap) :
    ∃ (whole fraction : List Char) (y : Binary64),
      ((real (.finite negative x)).display heap).toList = signed (negative && !x.isZero) (pointed whole fraction) ∧
      whole ≠ [] ∧ (∀ c ∈ whole ++ fraction, c.isDigit = true) ∧
      (fraction = [] ↔ ∃ i : ℤ, x.signedValue negative = i) ∧
      (text ((real (.finite negative x)).display heap)).number? = some y ∧
      y.equals (.finite negative x) = true ∧
      (y = .finite negative x ∨
        negative = true ∧ x.isZero = true ∧ y = .zero ∧ (real (.finite negative x)).display heap = "0") := by
  obtain ⟨cs, places, n, htext, hfixed, hplaces, hnearest⟩ := displayText_spec negative x
  have hdisplay : (real (.finite negative x)).display heap = String.ofList (signed (negative && !x.isZero) cs) :=
    congrArg String.ofList htext
  have hread := number?_of_isFixed (negative && !x.isZero) hfixed (by rw [hnearest]; rfl)
  rw [hnearest] at hread
  rw [hdisplay, String.toList_ofList]
  obtain ⟨whole, fraction, rfl, hlength, hne, -, hn⟩ := hfixed
  refine ⟨whole, fraction, _, rfl, hne, (digits_of_ofNumeral? hn).2, ?_, hread, equals_and_not_isZero negative x, ?_⟩
  · rw [← Magnitude.isIntegral_iff, ← hplaces, ← hlength, List.length_eq_zero_iff]
  -- Only zero is shown without its sign.
  · by_cases hlost : negative = true ∧ x.isZero = true
    · obtain ⟨rfl, hzero⟩ := hlost
      have hx : x = .zero := Magnitude.units_injective ((Magnitude.isZero_iff_units.mp hzero).trans rfl)
      refine .inr ⟨rfl, hzero, by rw [hzero, hx]; rfl, ?_⟩
      rw [← htext]
      exact congrArg String.ofList (if_pos hzero)
    · have hsign : (negative && !x.isZero) = negative := by cases negative <;> simp_all
      exact .inl (by rw [hsign])

end Value

end Stencil
