import Stencil.Proofs.Number.Closest
import Stencil.Proofs.Number.Exponent
import Stencil.Proofs.Number.Layout
import Stencil.Proofs.Number.Literal
import Stencil.Proofs.Number.ReadBack

/-!
# Numbers read from texts

* `DecimalLiteral.nearest_of_encloses`: a literal that reads back as a magnitude denotes it.
* `number?_eq`: a text that is marked as no hexadecimal integer denotes the number of its literal.
* `number?_of_isFixed`: a numeral with a sign and a point denotes the number of its literal.
-/

namespace Stencil.Number

variable {negative : Bool} {cs ws fs : List Char} {c : Char} {n : ℕ} {y : Binary64}

/-! ## The nearest number -/

namespace DecimalLiteral

theorem nearest_zero (negative : Bool) (e : ℤ) : nearest ⟨negative, 0, e⟩ = .finite negative .zero := by
  rw [nearest, if_pos rfl]

variable {x : Magnitude} {d : Decimal}

/-- What reads back is not much smaller or greater than the magnitude. -/
theorem value_bounds_of_encloses (h : x.isZero = false) {v : ℚ} (hv : x.Encloses v) :
    x.value / 2 ≤ v ∧ v ≤ x.value * 2 := by
  have hunit : (0 : ℚ) < unitsPerOne := by exact_mod_cast Magnitude.unitsPerOne_pos
  have hle : ((2 ^ x.scale : ℕ) : ℚ) ≤ x.units := by exact_mod_cast Magnitude.two_pow_scale_le_units h
  have hbounds := hv.bounds
  rw [← x.unitsPerOne_mul_value] at hle hbounds
  constructor
  · exact le_of_mul_le_mul_left (by linarith) hunit
  · exact le_of_mul_le_mul_left (by linarith) hunit

/-- A decimal is between the power of ten of its first digit and the next one. -/
theorem decimal_bounds (h : d.coefficient ≠ 0) :
    (10 : ℚ) ^ (d.exponent + digitCount d.coefficient - 1) ≤ d.value ∧
      d.value < 10 ^ (d.exponent + digitCount d.coefficient) := by
  have hpos : (0 : ℚ) < 10 ^ d.exponent := by positivity
  have hcount := digitCount_pos d.coefficient
  have hlow := pow_digitCount_le (Nat.pos_of_ne_zero h)
  have hhigh := lt_pow_digitCount d.coefficient
  constructor
  · have hexponent : d.exponent + digitCount d.coefficient - 1 =
        (digitCount d.coefficient - 1 : ℕ) + d.exponent := by omega
    rw [hexponent, zpow_add₀ (by norm_num), ← natCast_pow, Decimal.value]
    exact mul_le_mul_of_nonneg_right (by exact_mod_cast hlow) hpos.le
  · rw [add_comm, zpow_add₀ (by norm_num), ← natCast_pow, Decimal.value]
    exact mul_lt_mul_of_pos_right (by exact_mod_cast hhigh) hpos

/-- The power of ten of the first digit of a decimal that reads back. -/
theorem leading_bounds (h : x.isZero = false) (hd : x.Encloses d.value) (hne : d.coefficient ≠ 0) :
    -400 ≤ d.exponent + digitCount d.coefficient ∧ d.exponent + digitCount d.coefficient ≤ 400 := by
  have hten : (1 : ℚ) < 10 := by norm_num
  obtain ⟨hlow, hhigh⟩ := Magnitude.exponent_bounds h
  obtain ⟨hexponent, hexponent'⟩ := Magnitude.exponent_spec h
  obtain ⟨hdecimal, hdecimal'⟩ := decimal_bounds hne
  obtain ⟨hvalue, hvalue'⟩ := value_bounds_of_encloses h hd
  constructor
  · have hlt : (10 : ℚ) ^ (x.exponent - 1) < 10 ^ (d.exponent + digitCount d.coefficient) := by
      have hpos : (0 : ℚ) < 10 ^ (x.exponent - 1) := by positivity
      rw [← sub_add_cancel x.exponent 1, zpow_add_one₀ (by norm_num)] at hexponent
      linarith
    have := (zpow_lt_zpow_iff_right₀ hten).mp hlt
    omega
  · have hlt : (10 : ℚ) ^ (d.exponent + digitCount d.coefficient - 1) < 10 ^ (x.exponent + 1 + 1) := by
      have hpos : (0 : ℚ) < 10 ^ (x.exponent + 1) := by positivity
      rw [zpow_add_one₀ (by norm_num) (x.exponent + 1)]
      linarith
    have := (zpow_lt_zpow_iff_right₀ hten).mp hlt
    omega

/-- A literal that reads back as a magnitude denotes it. -/
theorem nearest_of_encloses (negative : Bool) (h : x.isZero = false) (hd : x.Encloses d.value) :
    nearest ⟨negative, d.coefficient, d.exponent⟩ = .finite negative x := by
  have hne : d.coefficient ≠ 0 := by
    intro hzero
    have hpos := hd.pos h
    rw [Decimal.value, hzero, Nat.cast_zero, zero_mul] at hpos
    exact lt_irrefl _ hpos
  obtain ⟨hlow, hhigh⟩ := leading_bounds h hd hne
  rw [Decimal.value_eq_div] at hd
  have hnearest := Magnitude.nearest?_of_encloses (Magnitude.denominator_pos d) hd
  rw [Decimal.numerator, Decimal.denominator] at hnearest
  simp only [nearest]
  rw [if_neg hne, if_neg (by omega), if_neg (by omega)]
  split
  · rw [if_pos ‹_›, if_pos ‹_›] at hnearest
    exact Binary64.ofRatio_of_nearest? hnearest
  · rw [if_neg ‹_›, if_neg ‹_›] at hnearest
    exact Binary64.ofRatio_of_nearest? hnearest

end DecimalLiteral

/-! ## Texts -/

theorem isBlank_of_isDigit (h : c.isDigit = true) : Text.isBlank c = false := by
  have hbounds : 48 ≤ c.toNat ∧ c.toNat ≤ 57 := Char.isDigit_iff_toNat.mp h
  simp [Text.isBlank]
  omega

theorem hexadecimal?_of_mark (h : afterHexMark? (splitSign cs).2 = none) : hexadecimal? cs = none := by
  rw [hexadecimal?]
  generalize splitSign cs = parts at *
  obtain ⟨negative, body⟩ := parts
  simp only [h, Option.bind_none]

/-- The mark is a zero and a letter. -/
theorem afterHexMark?_cases (cs : List Char) :
    afterHexMark? cs = none ∨ ∃ c more, cs = '0' :: c :: more ∧ (c = 'x' ∨ c = 'X') := by
  unfold afterHexMark?
  split
  · exact .inr ⟨_, _, rfl, .inl rfl⟩
  · exact .inr ⟨_, _, rfl, .inr rfl⟩
  · exact .inl rfl

/-- The text is marked as no hexadecimal integer if the letter of the mark is nowhere in it. -/
theorem hexadecimal?_eq_none (h : 'x' ∉ cs) (h' : 'X' ∉ cs) : hexadecimal? cs = none := by
  have hbody : ∀ c ∈ (splitSign cs).2, c ∈ cs := by
    unfold splitSign
    split <;> simp +contextual
  rcases afterHexMark?_cases (splitSign cs).2 with hmark | ⟨c, more, hmark, rfl | rfl⟩
  · exact hexadecimal?_of_mark hmark
  · exact absurd (hbody 'x' (by simp [hmark])) h
  · exact absurd (hbody 'X' (by simp [hmark])) h'

theorem natAbs_toInt_le (i : Int64) : i.toInt.natAbs ≤ 2 ^ 63 := by
  have hlow := i.le_toInt
  have hhigh := i.toInt_lt
  omega

theorem isFinite_ofInt (i : Int64) : (Binary64.ofInt i.toInt).isFinite = true := by
  obtain ⟨x, hx, -⟩ := Binary64.isClosest_ofInt (natAbs_toInt_le i)
  rw [hx]
  rfl

/-- No word stands for a finite number. -/
theorem not_isFinite_of_ofWord? (h : Binary64.ofWord? negative cs = some y) : y.isFinite = false := by
  unfold Binary64.ofWord? at h
  simp only at h
  split at h
  · cases h
    rfl
  · split at h
    · cases h
      rfl
    · cases h

/-- A text that is marked as no hexadecimal integer denotes the number of its literal, if this is finite. -/
theorem number?_eq (hhex : hexadecimal? (Text.trim cs) = none) : number? (String.ofList cs) =
    ((DecimalLiteral.ofText? (Text.trim cs)).map DecimalLiteral.nearest).filter Binary64.isFinite := by
  simp only [number?, String.toList_ofList, hhex]
  cases hl : DecimalLiteral.ofText? (Text.trim cs) with
  | some l =>
    obtain ⟨form, hvalid, htext, -⟩ := DecimalLiteral.ofText?_eq_some_iff.mp hl
    have hletters : (Text.trim cs).any isWordLetter = false := by
      rw [htext, List.any_eq_false]
      exact fun c hc => by simp [hvalid.not_isWordLetter hc]
    rw [if_neg (by simp [hletters]), Binary64.ofText?, hl, Option.map_some]
  | none =>
    -- Without the test of the letters a word would be left out because it stands for no finite number.
    rw [Option.map_none, Option.filter_none, Binary64.ofText?, hl]
    split
    · rfl
    · rw [Option.filter_eq_none_iff]
      exact fun y hy => by simp [not_isFinite_of_ofWord? hy]

/-- What a text denotes is finite. -/
theorem isFinite_of_number? {s : String} (h : number? s = some y) : y.isFinite = true := by
  cases hhex : hexadecimal? (Text.trim s.toList) with
  | some i =>
    simp only [number?, hhex] at h
    obtain rfl := Option.some.inj h
    exact isFinite_ofInt _
  | none =>
    rw [← String.ofList_toList (s := s), number?_eq hhex] at h
    exact (Option.filter_eq_some_iff.mp h).2

theorem number?_of_literal (hhex : hexadecimal? (Text.trim cs) = none) {l : DecimalLiteral}
    (hl : DecimalLiteral.ofText? (Text.trim cs) = some l) :
    number? (String.ofList cs) = if l.nearest.isFinite then some l.nearest else none := by
  rw [number?_eq hhex, hl, Option.map_some, Option.filter_some]

/-- The characters of a numeral with a sign and a point. -/
theorem mem_signed_pointed (hdigits : ∀ c ∈ ws ++ fs, c.isDigit = true)
    (h : c ∈ signed negative (pointed ws fs)) : c = '-' ∨ c = '.' ∨ c.isDigit = true := by
  have hmem : c = '-' ∨ c ∈ pointed ws fs := by
    cases negative with
    | false => exact .inr h
    | true => exact List.mem_cons.mp h
  refine hmem.imp_right fun hmem => ?_
  rw [pointed] at hmem
  split at hmem
  · exact .inr (hdigits c (List.mem_append_left _ hmem))
  · rcases List.mem_append.mp hmem with hmem | hmem
    · exact .inr (hdigits c (List.mem_append_left _ hmem))
    · exact (List.mem_cons.mp hmem).imp_right fun hmem => hdigits c (List.mem_append_right _ hmem)

/-- A numeral with a given number of places is read as the literal with these digits. -/
theorem ofText?_of_isFixed (negative : Bool) {places : ℕ} (h : IsFixed places n cs) :
    DecimalLiteral.ofText? (signed negative cs) = some ⟨negative, n, -places⟩ := by
  obtain ⟨whole, fraction, rfl, rfl, hne, -, hn⟩ := h
  have hend : DecimalLiteral.exponentOf? [] = some 0 := rfl
  rw [pointed]
  split
  · rename_i hfraction
    subst hfraction
    rw [List.append_nil] at hn
    have hread := DecimalLiteral.ofText?_whole negative hn hend
    rwa [List.append_nil] at hread
  · have hread := DecimalLiteral.ofText?_point negative hne hn hend
    rwa [List.append_nil, Int.zero_sub] at hread

/-- It consists of digits, a point and a minus sign. -/
theorem mem_of_isFixed {places : ℕ} (h : IsFixed places n cs) (hc : c ∈ signed negative cs) :
    c = '-' ∨ c = '.' ∨ c.isDigit = true := by
  obtain ⟨whole, fraction, rfl, -, -, -, hn⟩ := h
  exact mem_signed_pointed (digits_of_ofNumeral? hn).2 hc

theorem solid_of_isFixed (negative : Bool) {places : ℕ} (h : IsFixed places n cs) :
    Text.Solid (signed negative cs) := by
  intro c hc
  rcases mem_of_isFixed h hc with rfl | rfl | hdigit
  · decide
  · decide
  · exact isBlank_of_isDigit hdigit

theorem hexadecimal?_of_isFixed (negative : Bool) {places : ℕ} (h : IsFixed places n cs) :
    hexadecimal? (signed negative cs) = none :=
  hexadecimal?_eq_none (fun hx => absurd (mem_of_isFixed h hx) (by decide))
    fun hx => absurd (mem_of_isFixed h hx) (by decide)

/-- A numeral with a given number of places denotes the number of its literal. -/
theorem number?_of_isFixed (negative : Bool) {places : ℕ} (h : IsFixed places n cs)
    (hfinite : (DecimalLiteral.nearest ⟨negative, n, -places⟩).isFinite = true) :
    number? (String.ofList (signed negative cs)) = some (DecimalLiteral.nearest ⟨negative, n, -places⟩) := by
  have htrim := Text.trim_of_solid (solid_of_isFixed negative h)
  have hhex := hexadecimal?_of_isFixed negative h
  rw [number?_of_literal (by rwa [htrim]) (by rw [htrim, ofText?_of_isFixed negative h]), if_pos hfinite]

end Stencil.Number
