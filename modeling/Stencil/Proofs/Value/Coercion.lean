import Mathlib.Data.Rat.Floor
import Stencil.Proofs.Number.Carry
import Stencil.Proofs.Number.Integer
import Stencil.Value.Coercion
import Stencil.Value.Tree

/-!
# Integers that values stand for

A text with a decimal integer in front stands for this integer, and one that is marked as hexadecimal for the
integer behind the mark. The least integer of 64 bits is an exception in decimal, because its digits denote
no integer of 64 bits without the sign; and a mark without an integer of 64 bits behind it is read as zero.
A number stands for the integer without its fraction.

* `Value.exists_isDecimal_display`: the default text of an integer is a decimal integer.
* `Value.integer?_decimal`, `Value.integer?_hexadecimal`: the main results on texts.
* `towardZero`, `Value.integer?_real`: numbers with a fraction.
-/

namespace Stencil

namespace Number

/-- The number without its fraction. -/
def towardZero (v : ℚ) : ℤ := if v < 0 then ⌈v⌉ else ⌊v⌋

theorem floor_value (x : Magnitude) : ⌊x.value⌋ = x.floor := by
  rw [Int.floor_eq_iff]
  exact ⟨x.floor_le_value, x.value_lt_floor_add_one⟩

theorem towardZero_signedValue (negative : Bool) (x : Magnitude) :
    towardZero (x.signedValue negative) = if negative then -(x.floor : ℤ) else x.floor := by
  have hfloor := floor_value x
  have hnonneg := x.value_nonneg
  cases negative with
  | false =>
    rw [Magnitude.signedValue, if_neg Bool.false_ne_true, if_neg Bool.false_ne_true, towardZero,
      if_neg (not_lt.mpr hnonneg), hfloor]
  | true =>
    rw [Magnitude.signedValue, if_pos rfl, if_pos rfl, towardZero]
    by_cases hneg : -x.value < 0
    · rw [if_pos hneg, Int.ceil_neg, hfloor]
    · have hzero : x.value = 0 := by linarith
      rw [hzero, Int.floor_zero] at hfloor
      rw [if_neg hneg, hzero, neg_zero, Int.floor_zero, ← hfloor, Int.neg_zero]

end Number

namespace Value

open Number

variable {s : String} {ds : List ℕ} {rest : List Char} {sign : Sign}

/-! ## Decimal integers -/

/-- The default text of an integer is a decimal integer. -/
theorem exists_isDecimal_display (i : Int64) (heap : Heap) :
    ∃ sign ds, IsDecimal sign ds ((integer i).display heap) ∧ sign.apply (ofDigits 10 ds) = i.toInt := by
  have htext : ((integer i).display heap).toList = intNumeral i.toInt := String.toList_ofList
  -- A zero in front stands alone, so no mark of a hexadecimal integer follows it.
  have hmark : ∀ c more, (digits 10 i.toInt.natAbs).map Nat.digitChar ++ [] = '0' :: c :: more →
      c ≠ 'x' ∧ c ≠ 'X' := by
    intro c more h
    rw [List.append_nil] at h
    exact absurd (eq_nil_of_numeral_eq_cons h).2 (List.cons_ne_nil c more)
  have hdecimal : ∀ sign : Sign, intNumeral i.toInt = sign.text ++ numeral 10 i.toInt.natAbs →
      IsDecimal sign (digits 10 i.toInt.natAbs) ((integer i).display heap) := by
    intro sign h
    refine ⟨[], [], ?_, nofun, digits_ne_nil 10 _, fun _ => lt_of_mem_digits (by decide), nofun, hmark⟩
    rw [htext, h, List.nil_append, List.append_nil]
    rfl
  by_cases hneg : i.toInt < 0
  · refine ⟨.minus, _, hdecimal .minus (if_pos hneg), ?_⟩
    rw [ofDigits_digits, Sign.apply_minus]
    omega
  · refine ⟨.bare, _, hdecimal .bare (if_neg hneg), ?_⟩
    rw [ofDigits_digits, Sign.apply_bare]
    omega

theorem toInt_ofInt_of_lt {n : ℕ} (h : n < 2 ^ 63) : (Int64.ofInt n).toInt = n :=
  Int64.toInt_ofInt_of_le (by omega) (by omega)

/-- What a text with a decimal integer in front stands for. -/
theorem integer?_eq_some_iff (h : IsDecimal sign ds s) {i : Int64} :
    (text s).integer? = some i ↔ i.toInt = sign.apply (ofDigits 10 ds) ∧ i.toInt ≠ -2 ^ 63 := by
  have hread : (text s).integer? = Number.integer? s := rfl
  rw [hread, integer?_of_decimal h]
  generalize ofDigits 10 ds = n
  have hlow := i.le_toInt
  have hhigh := i.toInt_lt
  by_cases hn : n < 2 ^ 63
  · have hbound : sign.apply (Int64.ofInt n).toInt < 2 ^ 63 := by
      rw [toInt_ofInt_of_lt hn]
      rcases sign.apply_eq_or n with h | h <;> omega
    have hvalue := toInt_apply sign hbound
    rw [toInt_ofInt_of_lt hn] at hvalue
    rw [if_pos hn, Option.some.injEq, ← Int64.toInt_inj, hvalue]
    constructor
    · intro heq
      refine ⟨heq.symm, ?_⟩
      rw [← heq]
      rcases sign.apply_eq_or n with h | h <;> omega
    · exact fun heq => heq.1.symm
  · -- With `2 ^ 63` and a minus sign only the least integer would be left.
    rw [if_neg hn]
    refine ⟨nofun, ?_⟩
    rintro ⟨heq, hne⟩
    rcases sign.apply_eq_or n with h | h <;> omega

/-- **Decimal integers in texts.** A text that has blanks, a sign and decimal digits in front, and is not marked
as hexadecimal, stands for the integer of these digits with this sign, if it has 64 bits and is not the least
integer with so many; otherwise it stands for no integer. What follows the digits does not count. So the
default text of every integer but the least one stands for this integer. -/
theorem integer?_decimal (s : String) (i : Int64) (heap : Heap) :
    (∀ sign ds, IsDecimal sign ds s →
      ((text s).integer? = some i ↔ i.toInt = sign.apply (ofDigits 10 ds) ∧ i.toInt ≠ -2 ^ 63)) ∧
    (text ((integer i).display heap)).integer? = if i = Int64.minValue then none else some i := by
  refine ⟨fun sign ds h => integer?_eq_some_iff h, ?_⟩
  obtain ⟨sign, ds, hdecimal, hvalue⟩ := exists_isDecimal_display i heap
  have hleast : Int64.minValue.toInt = -2 ^ 63 := Int64.toInt_minValue
  by_cases hi : i = Int64.minValue
  · rw [if_pos hi, Option.eq_none_iff_forall_ne_some]
    intro j hj
    obtain ⟨heq, hne⟩ := (integer?_eq_some_iff hdecimal).mp hj
    rw [hvalue, hi, hleast] at heq
    exact hne heq
  · rw [if_neg hi, integer?_eq_some_iff hdecimal]
    refine ⟨hvalue.symm, fun heq => hi ?_⟩
    rw [← Int64.toInt_inj, hleast, heq]

/-- The digits end in front of a letter, and zeros in front of them do not count. -/
theorem integer?_decimal_ordinal :
    IsDecimal .minus [0, 4, 2] " -042nd" ∧ (-42 : Int64).toInt = Sign.minus.apply (ofDigits 10 [0, 4, 2]) ∧
      (-42 : Int64).toInt ≠ -2 ^ 63 ∧ (text " -042nd").integer? = some (-42) := by
  have hdecimal : IsDecimal .minus [0, 4, 2] " -042nd" := by
    have hblank : Text.Blank [' '] := fun c hc => List.mem_singleton.mp hc ▸ rfl
    refine ⟨[' '], "nd".toList, by decide, hblank, by decide, by decide, ?_, ?_⟩
    · rintro c more ⟨⟩
      decide
    · rintro c more ⟨⟩
      decide
  have hvalue : (-42 : Int64).toInt = Sign.minus.apply (ofDigits 10 [0, 4, 2]) := by decide
  have hne : (-42 : Int64).toInt ≠ -2 ^ 63 := by decide
  have hread := (integer?_decimal " -042nd" (-42) Heap.empty).1 .minus [0, 4, 2] hdecimal
  exact ⟨hdecimal, hvalue, hne, hread.mpr ⟨hvalue, hne⟩⟩

/-- The text of the least integer of 64 bits stands for no integer. -/
theorem integer?_decimal_least :
    let ds := [9, 2, 2, 3, 3, 7, 2, 0, 3, 6, 8, 5, 4, 7, 7, 5, 8, 0, 8]
    IsDecimal .minus ds "-9223372036854775808" ∧ Sign.minus.apply (ofDigits 10 ds) = -2 ^ 63 ∧
      (integer Int64.minValue).display Heap.empty = "-9223372036854775808" ∧
      (text "-9223372036854775808").integer? = none := by
  intro ds
  refine ⟨⟨[], [], by decide, nofun, by decide, by decide, nofun, ?_⟩, by decide, by decide +kernel,
    by decide +kernel⟩
  rintro c more ⟨⟩

/-! ## Hexadecimal integers -/

/-- **Hexadecimal integers in texts.** A text that is, without the blanks around it, a sign, the mark of a
hexadecimal integer and hexadecimal digits, in front of which another sign may stand, stands for the
integer of these digits with both signs, and for the nearest number to it, if the integer with the inner
sign has 64 bits. If it has more, or the rest behind the mark is anything else, the text stands for no
number, but for the integer zero. Nothing is said about the opposite of the least integer, which does not
have 64 bits. -/
theorem integer?_hexadecimal (h : IsHexadecimal sign rest s) :
    (∀ inner n, IsSignedNumeral 16 inner n rest → InInt64 (inner.apply n) →
      sign.apply (inner.apply n) < 2 ^ 63 →
        ∃ i y, (text s).integer? = some i ∧ i.toInt = sign.apply (inner.apply n) ∧
          (text s).number? = some y ∧ y.IsClosest (sign.apply (inner.apply n) : ℤ)) ∧
    ((¬ ∃ inner n, IsSignedNumeral 16 inner n rest ∧ InInt64 (inner.apply n)) →
      (text s).integer? = some 0 ∧ (text s).number? = none) := by
  constructor
  · intro inner n hnumeral hrange hbound
    have hread := signedNumeral?_eq (by decide) hnumeral
    rw [if_pos hrange] at hread
    have hinner : (Int64.ofInt (inner.apply n)).toInt = inner.apply n :=
      Int64.toInt_ofInt_of_le hrange.1 hrange.2
    have hvalue := toInt_apply (i := .ofInt (inner.apply n)) sign (by rwa [hinner])
    rw [hinner] at hvalue
    have hhex := hexadecimal?_marked h
    rw [hread, Option.map_some] at hhex
    generalize (if sign.isMinus then -Int64.ofInt (inner.apply n) else .ofInt (inner.apply n)) = i at *
    refine ⟨i, .ofInt i.toInt, ?_, hvalue, ?_, ?_⟩
    · simp only [integer?, Number.integer?, hhex]
    · simp only [number?, Number.number?, hhex]
    · rw [← hvalue]
      exact Binary64.isClosest_ofInt (natAbs_toInt_le i)
  · intro hnone
    apply integer?_of_not_hexadecimal h
    -- The rest is a numeral with too many bits, or it is none.
    by_cases hnumeral : ∃ inner n, IsSignedNumeral 16 inner n rest
    · obtain ⟨inner, n, hnumeral⟩ := hnumeral
      rw [signedNumeral?_eq (by decide) hnumeral, if_neg]
      exact fun hrange => hnone ⟨inner, n, hnumeral, hrange⟩
    · apply signedNumeral?_eq_none (by decide)
      exact fun inner n hread => hnumeral ⟨inner, n, hread⟩

/-- The greatest integer of 64 bits, which is not exact as a number, with a sign in front of the mark; and the
next one, which has more bits. -/
theorem integer?_hexadecimal_greatest :
    let greatest := "7fffffffffffffff".toList
    let next := "8000000000000000".toList
    IsHexadecimal .minus greatest "-0x7fffffffffffffff" ∧ IsSignedNumeral 16 .bare (2 ^ 63 - 1) greatest ∧
      InInt64 (Sign.bare.apply (2 ^ 63 - 1 : ℕ)) ∧ Sign.minus.apply (Sign.bare.apply (2 ^ 63 - 1 : ℕ)) < 2 ^ 63 ∧
      (∃ i y, (text "-0x7fffffffffffffff").integer? = some i ∧ i.toInt = -(2 ^ 63 - 1) ∧
        (text "-0x7fffffffffffffff").number? = some y ∧ y.IsClosest ((-(2 ^ 63 - 1) : ℤ) : ℚ)) ∧
      IsHexadecimal .bare next "0x8000000000000000" ∧
      (¬ ∃ inner n, IsSignedNumeral 16 inner n next ∧ InInt64 (inner.apply n)) ∧
      (text "0x8000000000000000").integer? = some 0 ∧ (text "0x8000000000000000").number? = none := by
  intro greatest next
  have hhex : IsHexadecimal .minus greatest "-0x7fffffffffffffff" := ⟨'x', .inl rfl, by decide +kernel⟩
  have hnumeral : IsSignedNumeral 16 .bare (2 ^ 63 - 1) greatest :=
    (isSignedNumeral_iff (by decide)).mpr ⟨greatest, rfl, by decide +kernel⟩
  have hrange : InInt64 (Sign.bare.apply (2 ^ 63 - 1 : ℕ)) := by decide
  have hbound : Sign.minus.apply (Sign.bare.apply (2 ^ 63 - 1 : ℕ)) < 2 ^ 63 := by decide
  have hhex' : IsHexadecimal .bare next "0x8000000000000000" := ⟨'x', .inl rfl, by decide +kernel⟩
  have hnone : ¬ ∃ inner n, IsSignedNumeral 16 inner n next ∧ InInt64 (inner.apply n) := by
    rintro ⟨inner, n, hnumeral, hrange⟩
    have hread := signedNumeral?_eq (by decide) hnumeral
    rw [if_pos hrange] at hread
    have hunread : signedNumeral? 16 next = none := by decide +kernel
    rw [hunread] at hread
    cases hread
  exact ⟨hhex, hnumeral, hrange, hbound, (integer?_hexadecimal hhex).1 _ _ hnumeral hrange hbound, hhex', hnone,
    (integer?_hexadecimal hhex').2 hnone⟩

/-- An integer that is too large is read as zero, and an inner sign is read. -/
theorem integer?_hexadecimal_overflow :
    let large := "8000000000000000".toList
    let signed := "-5".toList
    IsHexadecimal .bare large "0x8000000000000000" ∧ IsSignedNumeral 16 .bare (2 ^ 63) large ∧
      ¬ InInt64 (2 ^ 63) ∧ (text "0x8000000000000000").integer? = some 0 ∧
      IsHexadecimal .bare signed "0x-5" ∧ (¬ ∃ ds, Spells 16 ds signed) ∧
      (text "0x-5").integer? = some (-5) := by
  intro large signed
  have hnumeral : IsSignedNumeral 16 .bare (2 ^ 63) large :=
    (isSignedNumeral_iff (by decide)).mpr ⟨large, rfl, by decide +kernel⟩
  refine ⟨⟨'x', .inl rfl, by decide +kernel⟩, hnumeral, by decide, by decide +kernel,
    ⟨'x', .inl rfl, by decide +kernel⟩, ?_, by decide +kernel⟩
  rintro ⟨ds, hspells⟩
  have hread := (ofNumeral?_eq_some_iff (by decide)).mpr ⟨ds, hspells, rfl⟩
  have hnone : ofNumeral? 16 signed = none := by decide +kernel
  rw [hnone] at hread
  cases hread

/-! ## Numbers with a fraction -/

/-- A number with a fraction stands for the integer without it, if this has 64 bits. -/
theorem integer?_real (negative : Bool) (x : Magnitude) :
    (real (.finite negative x)).integer? =
      if InInt64 (towardZero (x.signedValue negative)) then
        some (.ofInt (towardZero (x.signedValue negative)))
      else none := by
  rw [towardZero_signedValue]
  simp only [integer?, Binary64.toInt64?, Binary64.truncate?, inInt64_iff]

end Value

end Stencil
