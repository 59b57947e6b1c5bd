import Stencil.Number.Decimal
import Stencil.Proofs.Number.Numeral

/-!
# The layout of decimals

What the texts of decimals look like: which digits stand in front of the point and behind it, and that
there is no point without digits behind it.

* `IsFixed`: a numeral with a given number of digits behind the point.
* `IsScientific`: one digit in front of the point, a given number behind it, and an exponent with a sign.
* `isFixed_pointText`, `isScientific_append`: the texts that are written have these forms.
-/

namespace Stencil.Number

/-- Digits with a point in front of the last ones. -/
def pointed (whole fraction : List Char) : List Char :=
  if fraction = [] then whole else whole ++ '.' :: fraction

/-- The text is a numeral of `n / 10 ^ places` with `places` digits behind the point, and no zero in
front that is not needed. -/
def IsFixed (places n : Nat) (cs : List Char) : Prop :=
  ∃ whole fraction, cs = pointed whole fraction ∧ fraction.length = places ∧ whole ≠ [] ∧
    (∀ more, whole = '0' :: more → more = []) ∧ ofNumeral? 10 (whole ++ fraction) = some n

/-- The text is a decimal with one digit in front of the point, which is no zero unless the decimal is,
and with `places` digits behind it. The exponent has a sign. -/
def IsScientific (places : Nat) (d : Decimal) (cs : List Char) : Prop :=
  ∃ first fraction power,
    cs = pointed [first] fraction ++
      'e' :: (if d.exponent + places < 0 then '-' else '+') :: power ∧
    fraction.length = places ∧ ofNumeral? 10 (first :: fraction) = some d.coefficient ∧
    (first = '0' → d.coefficient = 0) ∧
    (∀ more, power = '0' :: more → more = []) ∧
    ofNumeral? 10 power = some (d.exponent + places).natAbs

/-- The digits of a number with zeros in front. -/
def paddedDigits (width n : Nat) : List Nat :=
  List.replicate (width - digitCount n) 0 ++ digits 10 n

theorem paddedNumeral_eq (width n : Nat) :
    paddedNumeral width n = (paddedDigits width n).map Nat.digitChar := by
  rw [paddedNumeral, paddedDigits, List.map_append, List.map_replicate]
  rfl

theorem lt_of_mem_paddedDigits {width n d : Nat} (h : d ∈ paddedDigits width n) : d < 10 := by
  rcases List.mem_append.mp h with h | h
  · rw [(List.mem_replicate.mp h).2]
    decide
  · exact lt_of_mem_digits (by decide) h

theorem ofDigits_paddedDigits (width n : Nat) : ofDigits 10 (paddedDigits width n) = n := by
  rw [paddedDigits, ofDigits_append, ofDigits_replicate_zero, Nat.zero_mul, Nat.zero_add,
    ofDigits_digits]

theorem length_paddedDigits {width n : Nat} (hwidth : 0 < width) (h : n < 10 ^ width) :
    (paddedDigits width n).length = width := by
  have hcount := (digitCount_le_iff hwidth).mpr h
  rw [paddedDigits, List.length_append, List.length_replicate]
  exact Nat.sub_add_cancel hcount

/-- The digits in front of the point and behind it are those of the number. -/
theorem ofDigits_split {places : Nat} (hplaces : 0 < places) (n : Nat) :
    ofDigits 10 (digits 10 (n / 10 ^ places) ++ paddedDigits places (n % 10 ^ places)) = n := by
  rw [ofDigits_append, ofDigits_digits, ofDigits_paddedDigits,
    length_paddedDigits hplaces (Nat.mod_lt _ (Nat.pow_pos (by decide))), Nat.mul_comm, Nat.div_add_mod]

/-- The text with a given number of places has the form that it should have. -/
theorem isFixed_pointText (places n : Nat) : IsFixed places n (pointText places n) := by
  have hcanonical : ∀ m more, numeral 10 m = '0' :: more → more = [] :=
    fun m more h => (eq_nil_of_numeral_eq_cons h).2
  by_cases hplaces : places = 0
  · refine ⟨numeral 10 n, [], ?_, hplaces.symm, numeral_ne_nil 10 n, hcanonical n, ?_⟩
    · rw [pointText, if_pos hplaces, pointed, if_pos rfl]
    · rw [List.append_nil, ofNumeral?_numeral]
  · have hlen : (paddedNumeral places (n % 10 ^ places)).length = places := by
      rw [paddedNumeral_eq, List.length_map, length_paddedDigits (by omega)]
      exact Nat.mod_lt _ (Nat.pow_pos (by decide))
    have hne : paddedNumeral places (n % 10 ^ places) ≠ [] := by
      rw [← List.length_pos_iff, hlen]
      omega
    refine ⟨numeral 10 (n / 10 ^ places), _, ?_, hlen, numeral_ne_nil 10 _, hcanonical _, ?_⟩
    · rw [pointText, if_neg hplaces, pointed, if_neg hne]
    · rw [paddedNumeral_eq, numeral, ← List.map_append, ofNumeral?_map, ofDigits_split (by omega)]
      · exact List.append_ne_nil_of_left_ne_nil (digits_ne_nil 10 _) _
      · intro d hd
        rcases List.mem_append.mp hd with hd | hd
        · exact lt_of_mem_digits (by decide) hd
        · exact lt_of_mem_paddedDigits hd

theorem mantissaText_eq (first : Char) (rest : List Char) :
    mantissaText (first :: rest) = pointed [first] rest := by
  cases rest <;> rfl

/-- The text with an exponent has the form that it should have. -/
theorem isScientific_append {places : Nat} {d : Decimal}
    (h : d.coefficient = 0 ∨ 10 ^ places ≤ d.coefficient) (hlt : d.coefficient < 10 ^ (places + 1)) :
    IsScientific places d
      (mantissaText (paddedNumeral (places + 1) d.coefficient) ++ exponentText (d.exponent + places)) := by
  have hlen := length_paddedDigits (Nat.succ_pos places) hlt
  obtain ⟨first, rest, hdigits⟩ :=
    List.exists_cons_of_ne_nil (List.length_pos_iff.mp (hlen ▸ Nat.succ_pos places))
  have hfirst : first < 10 := lt_of_mem_paddedDigits (hdigits ▸ List.mem_cons_self)
  refine ⟨first.digitChar, rest.map Nat.digitChar, numeral 10 (d.exponent + places).natAbs, ?_, ?_, ?_,
    ?_, fun more h => (eq_nil_of_numeral_eq_cons h).2, ofNumeral?_numeral _⟩
  · rw [paddedNumeral_eq, hdigits, List.map_cons, mantissaText_eq]
    rfl
  · rw [List.length_map]
    rw [hdigits, List.length_cons] at hlen
    exact Nat.succ.inj hlen
  · rw [← List.map_cons, ← hdigits, ofNumeral?_map (by rw [hdigits]; exact List.cons_ne_nil _ _)
      fun d => lt_of_mem_paddedDigits, ofDigits_paddedDigits]
  · intro hzero
    rw [digitChar_eq_zero hfirst hzero] at hdigits
    rcases h with h | h
    · exact h
    -- Without zeros in front the first digit is the first one of the coefficient.
    have hcount : places + 1 - digitCount d.coefficient = 0 := by
      rcases Nat.eq_zero_or_pos places with hplaces | hplaces
      · have := digitCount_pos d.coefficient
        omega
      · have := (lt_digitCount_iff hplaces).mpr h
        omega
    rw [paddedDigits, hcount, List.replicate_zero, List.nil_append] at hdigits
    exact eq_zero_of_digits_eq_cons (by decide) hdigits

end Stencil.Number
