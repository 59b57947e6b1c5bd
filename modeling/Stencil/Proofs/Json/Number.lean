import Stencil.Json.Token
import Stencil.Number.Shortest
import Stencil.Proofs.Number.Layout

/-!
# Written numbers, scanned

A number that is written as digits, perhaps with a point among them and an exponent, is scanned as the
literal with these parts.

* `NumberEnds`: what may follow a number.
* `scanNumber?_literal`: a number is scanned as its parts.
* `NumberLiteral.value?_of_lt`: what the parts denote if their digits fit in 64 bits.
* `scanNumber?_intNumeral`: the numeral of an integer is scanned as the integer.
-/

namespace Stencil.Json

open Number

/-! ## Digits -/

/-- No digit comes first. -/
def DigitsEnd : List Char → Prop
  | [] => True
  | c :: _ => c.isDigit = false

theorem digitChar_sub : ∀ d < 10, (Nat.digitChar d).toNat - '0'.toNat = d := by decide

theorem scanDigits_map {ds : List Nat} (hds : ∀ d ∈ ds, d < 10) {rest : List Char}
    (hrest : DigitsEnd rest) : scanDigits (ds.map Nat.digitChar ++ rest) = (ds, rest) := by
  induction ds with
  | nil =>
    cases rest with
    | nil => rfl
    | cons c rest =>
      rw [List.map_nil, List.nil_append, scanDigits, if_neg (by rw [show c.isDigit = false from hrest]; decide)]
  | cons d ds ih =>
    have hd : d < 10 := hds d List.mem_cons_self
    have hdigit : (Nat.digitChar d).isDigit = true := by
      rw [Nat.isDigit_digitChar]
      exact decide_eq_true hd
    rw [List.map_cons, List.cons_append, scanDigits, if_pos hdigit,
      ih fun d hd => hds d (List.mem_cons_of_mem _ hd), digitChar_sub d hd]

theorem scanDigits_numeral (n : Nat) {rest : List Char} (hrest : DigitsEnd rest) :
    scanDigits (numeral 10 n ++ rest) = (digits 10 n, rest) :=
  scanDigits_map (fun _ hd => lt_of_mem_digits (by decide) hd) hrest

/-! ## Literals -/

/-- Nothing that could be a part of a number comes first. -/
def NumberEnds : List Char → Prop
  | [] => True
  | c :: _ => c.isDigit = false ∧ c ≠ '.' ∧ c ≠ 'e' ∧ c ≠ 'E'

theorem numberEnds_cons {c : Char} (h : c = ',' ∨ c = ']' ∨ c = '\x7d') (cs : List Char) :
    NumberEnds (c :: cs) := by
  rcases h with rfl | rfl | rfl <;> exact ⟨rfl, by decide, by decide, by decide⟩

theorem NumberEnds.digitsEnd {rest : List Char} (h : NumberEnds rest) : DigitsEnd rest := by
  cases rest with
  | nil => trivial
  | cons c rest => exact h.1

/-- The exponent of a number, which may be missing. -/
def powerText : Option Int → List Char
  | none => []
  | some e => exponentText e

/-- The digits after a point, with the point; without digits there is none. -/
def fractionText : List Nat → List Char
  | [] => []
  | d :: ds => '.' :: (d :: ds).map Nat.digitChar

theorem pointed_map (ds fs : List Nat) :
    pointed (ds.map Nat.digitChar) (fs.map Nat.digitChar) =
      ds.map Nat.digitChar ++ fractionText fs := by
  cases fs with
  | nil => exact (List.append_nil _).symm
  | cons d fs => rfl

/-- The digits after a point, or none. -/
def fractionOf (fs : List Nat) : Option (List Nat) := if fs = [] then none else some fs

section

variable {ds fs : List Nat} {power : Option Int} {rest : List Char}

theorem digitsEnd_powerText (power : Option Int) (hrest : NumberEnds rest) :
    DigitsEnd (powerText power ++ rest) := by
  cases power with
  | none => exact hrest.digitsEnd
  | some e => exact (rfl : 'e'.isDigit = false)

theorem digitsEnd_fractionText (fs : List Nat) {rest : List Char} (hrest : DigitsEnd rest) :
    DigitsEnd (fractionText fs ++ rest) := by
  cases fs with
  | nil => exact hrest
  | cons d fs => exact (rfl : '.'.isDigit = false)

theorem scanExponent?_powerText (power : Option Int) (hrest : NumberEnds rest) :
    scanExponent? (powerText power ++ rest) = some (power, rest) := by
  cases power with
  | none =>
    rw [powerText, List.nil_append]
    cases rest with
    | nil => rfl
    | cons c rest => rw [Json.scanExponent?, if_neg (not_or.mpr hrest.2.2)]
  | some e =>
    have hscan := scanDigits_numeral e.natAbs hrest.digitsEnd
    have hvalue := ofDigits_digits 10 e.natAbs
    obtain ⟨first, more, hdigits⟩ := List.exists_cons_of_ne_nil (digits_ne_nil 10 e.natAbs)
    rw [hdigits] at hscan hvalue
    by_cases he : e < 0
    · have hsplit : splitSign ('-' :: (numeral 10 e.natAbs ++ rest)) =
          (true, numeral 10 e.natAbs ++ rest) := rfl
      rw [powerText, exponentText, if_pos he, List.cons_append, List.cons_append, scanExponent?,
        if_pos (.inl rfl), hsplit, hscan]
      simp only [if_true, hvalue, Option.some.injEq, Prod.mk.injEq, and_true]
      omega
    · have hsplit : splitSign ('+' :: (numeral 10 e.natAbs ++ rest)) =
          (false, numeral 10 e.natAbs ++ rest) := rfl
      rw [powerText, exponentText, if_neg he, List.cons_append, List.cons_append, scanExponent?,
        if_pos (.inl rfl), hsplit, hscan]
      simp only [Bool.false_eq_true, if_false, hvalue, Option.some.injEq, Prod.mk.injEq, and_true]
      omega

theorem scanFraction?_fractionText (hfs : ∀ d ∈ fs, d < 10) (power : Option Int)
    (hrest : NumberEnds rest) :
    scanFraction? (fractionText fs ++ (powerText power ++ rest)) =
      some (fractionOf fs, powerText power ++ rest) := by
  cases fs with
  | nil =>
    have hpoint : ∀ more, powerText power ++ rest ≠ '.' :: more := by
      intro more h
      cases power with
      | none =>
        rw [powerText, List.nil_append] at h
        rw [h] at hrest
        exact hrest.2.1 rfl
      | some e => exact absurd (List.cons.inj h).1 (by decide)
    rw [fractionText, List.nil_append, Json.scanFraction?]
    · rfl
    · exact hpoint
  | cons d fs =>
    have hscan := scanDigits_map hfs (digitsEnd_powerText power hrest)
    rw [fractionText, List.cons_append, Json.scanFraction?, hscan]
    rfl

/-- The sign of a number is split off. -/
theorem splitMinus_signed (negative : Bool) {cs : List Char} {c : Char} (hc : c.isDigit = true) :
    splitMinus (signed negative (c :: cs)) = (negative, c :: cs) := by
  cases negative with
  | true => rfl
  | false =>
    rw [signed, if_neg Bool.false_ne_true, splitMinus]
    rintro _ ⟨⟩
    exact absurd hc (by decide)

/-- A number is scanned as its parts. -/
theorem scanNumber?_literal (negative : Bool) (hne : ds ≠ [])
    (hlead : ∀ more, ds = 0 :: more → more = []) (hds : ∀ d ∈ ds, d < 10) (hfs : ∀ d ∈ fs, d < 10)
    (power : Option Int) (hrest : NumberEnds rest) :
    scanNumber? (signed negative (pointed (ds.map Nat.digitChar) (fs.map Nat.digitChar) ++
        powerText power) ++ rest) =
      (NumberLiteral.value? ⟨negative, ds, fractionOf fs, power⟩).map fun v => (v, rest) := by
  obtain ⟨first, more, rfl⟩ := List.exists_cons_of_ne_nil hne
  have hfirst : (Nat.digitChar first).isDigit = true := by
    rw [Nat.isDigit_digitChar]
    exact decide_eq_true (hds first List.mem_cons_self)
  have hscan := scanDigits_map hds
    (digitsEnd_fractionText fs (digitsEnd_powerText power hrest))
  have hsigned : ∀ cs, signed negative cs ++ rest = signed negative (cs ++ rest) := by
    intro cs
    cases negative <;> rfl
  have hleading : ¬ (first = 0 ∧ more ≠ []) := by
    rintro ⟨rfl, hmore⟩
    exact hmore (hlead more rfl)
  rw [hsigned, pointed_map, List.append_assoc, List.append_assoc]
  rw [scanNumber?, List.map_cons, List.cons_append, splitMinus_signed negative hfirst,
    ← List.cons_append, ← List.map_cons, hscan]
  simp only [if_neg hleading, scanFraction?_fractionText hfs power hrest,
    scanExponent?_powerText power hrest]

end

/-! ## Values -/

namespace NumberLiteral

theorem append_of_lt {ds : List Nat} {n : Nat} (h : n * 10 ^ ds.length + ofDigits 10 ds < 2 ^ 64) :
    append n ds = (n * 10 ^ ds.length + ofDigits 10 ds, []) := by
  rw [← foldl_ofDigits] at h ⊢
  have hle : ∀ (ds : List Nat) (n : Nat), n ≤ ds.foldl (fun n d => n * 10 + d) n := by
    intro ds
    induction ds with
    | nil => exact Nat.le_refl
    | cons d ds ih => exact fun n => Nat.le_trans (by omega) (ih (n * 10 + d))
  induction ds generalizing n with
  | nil => rfl
  | cons d ds ih =>
    rw [append, if_pos (Nat.lt_of_le_of_lt (hle ds _) h), ih h]
    rfl

/-- Digits that fit in 64 bits are taken whole. -/
theorem append_zero {ds : List Nat} (h : ofDigits 10 ds < 2 ^ 64) :
    append 0 ds = (ofDigits 10 ds, []) := by
  have hlt : 0 * 10 ^ ds.length + ofDigits 10 ds < 2 ^ 64 := by
    rwa [Nat.zero_mul, Nat.zero_add]
  have happend := append_of_lt hlt
  rwa [Nat.zero_mul, Nat.zero_add] at happend

/-- An integer of 64 bits is what its sign and digits denote. -/
theorem value?_integer {i : Int} (hlow : -2 ^ 63 ≤ i) (hhigh : i < 2 ^ 64) :
    value? ⟨decide (i < 0), digits 10 i.natAbs, none, none⟩ = some (.integer i) := by
  have hlt : ofDigits 10 (digits 10 i.natAbs) < 2 ^ 64 := by
    rw [ofDigits_digits]
    omega
  have happend := append_zero hlt
  rw [ofDigits_digits] at happend
  simp only [value?, happend]
  by_cases hneg : i < 0
  · have hsigned : ¬ (i.natAbs = 0 ∨ 2 ^ 63 < i.natAbs) := by omega
    have hvalue : -(i.natAbs : Int) = i := by omega
    simp only [decide_eq_true hneg, Bool.not_true, Bool.false_eq_true, if_false, if_neg hsigned, hvalue]
  · have hvalue : (i.natAbs : Int) = i := by omega
    simp only [decide_eq_false hneg, Bool.not_false, if_true, hvalue]

/-- Digits with a point or an exponent denote a number that is scaled once. -/
theorem value?_of_lt (negative : Bool) {ds fs : List Nat} {power : Option Int}
    (h : ofDigits 10 (ds ++ fs) < 2 ^ 64) (hreal : fs ≠ [] ∨ power.isSome = true) :
    value? ⟨negative, ds, fractionOf fs, power⟩ =
      (scaled? (ofDigits 10 (ds ++ fs)) (power.getD 0 - fs.length)).map fun x =>
        .real (.finite negative x) := by
  rw [ofDigits_append] at h ⊢
  have hwhole : ofDigits 10 ds < 2 ^ 64 :=
    Nat.lt_of_le_of_lt (Nat.le_trans (Nat.le_mul_of_pos_right _ (Nat.pow_pos (by decide)))
      (Nat.le_add_right _ _)) h
  have happend := append_of_lt h
  have hdigits : (fractionOf fs).getD [] = fs := by
    cases fs <;> rfl
  simp only [value?, append_zero hwhole]
  split
  · rename_i hfraction _
    cases fs with
    | nil =>
      rcases hreal with h | h
      · exact absurd rfl h
      · cases h
    | cons d fs =>
      rw [fractionOf, if_neg (List.cons_ne_nil d fs)] at hfraction
      cases hfraction
  · simp only [hdigits, happend]
    congr 2
    simp only [List.length_nil]
    omega

end NumberLiteral

/-- The numeral of an integer is scanned as the integer. -/
theorem scanNumber?_intNumeral {i : Int} (hlow : -2 ^ 63 ≤ i) (hhigh : i < 2 ^ 64) {rest : List Char}
    (hrest : NumberEnds rest) : scanNumber? (intNumeral i ++ rest) = some (integer i, rest) := by
  have htext : intNumeral i = signed (decide (i < 0))
      (pointed ((digits 10 i.natAbs).map Nat.digitChar) ([].map Nat.digitChar) ++ powerText none) := by
    rw [powerText, List.append_nil, List.map_nil, pointed, if_pos rfl, intNumeral, signed]
    simp only [decide_eq_true_eq]
    rfl
  rw [htext, scanNumber?_literal (decide (i < 0)) (digits_ne_nil 10 _)
    (fun _ => eq_nil_of_digits_eq_cons (by decide)) (fun d => lt_of_mem_digits (by decide))
    (fun _ hd => absurd hd List.not_mem_nil) none hrest]
  exact congrArg (Option.map _) (NumberLiteral.value?_integer hlow hhigh)

end Stencil.Json
