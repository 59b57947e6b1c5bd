import Mathlib.Data.Set.Basic
import Stencil.Proofs.Number.Overflow
import Stencil.Value.Embedding
import Stencil.Value.Json

/-!
# Integers as values

Integers of every type become integers of 64 bits with a sign. So the numbers of the types without a sign are
kept only below `2 ^ 63`: from there on they become negative, although the same number in JSON stays positive.

* `IsNumeralOf`: the decimal numeral of an integer.
* `KeepsNumbers`: a conversion of integers to values that keeps the numbers, their numerals and their order.
* `embed_integers`: the main result.
-/

namespace Stencil

open Number

/-- The text is the decimal numeral of the integer: digits without a zero in front that is not needed, after a
minus sign if the integer is negative. -/
def Number.IsNumeralOf (i : ℤ) (cs : List Char) : Prop :=
  ∃ ds, IsCanonical 10 i.natAbs ds ∧ cs = signed (decide (i < 0)) (ds.map Nat.digitChar)

theorem Number.isNumeralOf_intNumeral (i : ℤ) : IsNumeralOf i (intNumeral i) := by
  refine ⟨_, isCanonical_digits (by decide) _, ?_⟩
  simp [intNumeral, numeral, signed]

/-- A text is the numeral of one integer only. -/
theorem Number.IsNumeralOf.unique {i j : ℤ} {cs : List Char} (h : IsNumeralOf i cs) (h' : IsNumeralOf j cs) :
    i = j := by
  have hsplit : ∀ {i}, IsNumeralOf i cs →
      (splitSign cs).1 = decide (i < 0) ∧ ofNumeral? 10 (splitSign cs).2 = some i.natAbs := by
    rintro i ⟨ds, hds, rfl⟩
    obtain ⟨d, more, rfl⟩ := List.exists_cons_of_ne_nil hds.ne_nil
    have hdigit := isDigit_of_mem_map hds.lt List.mem_cons_self
    have hread := ofNumeral?_map hds.ne_nil hds.lt
    rw [hds.value] at hread
    rw [List.map_cons, splitSign_signed _ (ne_of_isDigit hdigit rfl) (ne_of_isDigit hdigit rfl)]
    exact ⟨rfl, hread⟩
  obtain ⟨hsign, habs⟩ := hsplit h
  obtain ⟨hsign', habs'⟩ := hsplit h'
  have hsign : i < 0 ↔ j < 0 := by rw [← decide_eq_decide, ← hsign, hsign']
  have habs : i.natAbs = j.natAbs := Option.some.inj (habs.symm.trans habs')
  omega

namespace Value

/-- The sign of a number. -/
def sign? : Value → Option ℤ
  | integer i => some i.toInt.sign
  | real (.finite negative x) => some (if x.isZero then 0 else if negative then -1 else 1)
  | _ => none

/-- These data become integers that are shown as the numerals of the numbers; they are different for different
data, and ordered as the numbers are. Nothing else changes. -/
structure KeepsNumbers {α : Type} [Embeds α] (number : α → ℤ) (data : Set α) : Prop where
  shown : ∀ a ∈ data, ∀ store, ∃ i, (embed a).run store = (.integer i, store) ∧
    IsNumeralOf (number a) ((integer i).display store.heap).toList
  injective : ∀ a ∈ data, ∀ b ∈ data, ∀ store, (embed a).run store = (embed b).run store → a = b
  ordered : ∀ a ∈ data, ∀ b ∈ data, ∀ store i j, (embed a).run store = (.integer i, store) →
    (embed b).run store = (.integer j, store) → (i ≤ j ↔ number a ≤ number b)

/-- A conversion keeps the numbers of different data that it gives the integers of. -/
theorem keepsNumbers_of_toInt {α : Type} [Embeds α] {number : α → ℤ} {data : Set α} (converted : α → Int64)
    (hembed : ∀ a store, (embed a).run store = (.integer (converted a), store))
    (hconverted : ∀ a ∈ data, (converted a).toInt = number a)
    (hnumber : Function.Injective number) : KeepsNumbers number data where
  shown a ha store := by
    refine ⟨_, hembed a store, ?_⟩
    have htext : ((integer (converted a)).display store.heap).toList = intNumeral (converted a).toInt :=
      String.toList_ofList
    rw [htext, hconverted a ha]
    exact isNumeralOf_intNumeral _
  injective a ha b hb store hsame := by
    rw [hembed, hembed, Prod.mk.injEq, integer.injEq] at hsame
    apply hnumber
    rw [← hconverted a ha, hsame.1, hconverted b hb]
  ordered a ha b hb store i j hi hj := by
    rw [hembed, Prod.mk.injEq, integer.injEq] at hi hj
    rw [← hi.1, ← hj.1, Int64.le_iff_toInt_le, hconverted a ha, hconverted b hb]

/-- From `2 ^ 63` on the highest bit counts as the sign. -/
theorem toInt_toInt64 (n : UInt64) :
    n.toInt64.toInt = if n.toNat < 2 ^ 63 then (n.toNat : ℤ) else n.toNat - 2 ^ 64 := by
  have hcond : n.toInt64.toInt = if 2 * n.toNat < 2 ^ 64 then (n.toNat : ℤ) else n.toNat - (2 ^ 64 : ℕ) :=
    BitVec.toInt_eq_toNat_cond n.toBitVec
  rw [hcond]
  split <;> split <;> omega

/-- A word is shown as its numeral below `2 ^ 63` only. -/
theorem isNumeralOf_display_iff (n : UInt64) (heap : Heap) :
    IsNumeralOf n.toNat ((integer n.toInt64).display heap).toList ↔ n.toNat < 2 ^ 63 := by
  have htext : ((integer n.toInt64).display heap).toList = intNumeral n.toInt64.toInt := String.toList_ofList
  have hconverted := toInt_toInt64 n
  have hnumeral := isNumeralOf_intNumeral n.toInt64.toInt
  rw [htext]
  by_cases hn : n.toNat < 2 ^ 63
  · rw [if_pos hn] at hconverted
    rw [hconverted] at hnumeral ⊢
    exact iff_of_true hnumeral hn
  · refine iff_of_false (fun h => ?_) hn
    have hsame := h.unique hnumeral
    rw [hconverted, if_neg hn] at hsame
    omega

/-! ## The same number in JSON -/

/-- A number that is not below one is not rounded to zero. -/
theorem isZero_of_isClosest {v : ℚ} {x : Magnitude} (h : x.IsClosest v) (hv : 1 ≤ v) : x.isZero = false := by
  obtain ⟨one, hone⟩ := Magnitude.exists_units_eq (n := 1) (by decide)
  have hvalue : one.value = 1 := by
    have hunit : (unitsPerOne : ℚ) ≠ 0 := by exact_mod_cast Magnitude.unitsPerOne_pos.ne'
    rw [Magnitude.value, hone, Nat.one_mul, div_self hunit]
  by_contra hzero
  have hnear := h.nearest one
  rw [Magnitude.isZero_iff_value.mp (by simpa using hzero), hvalue, abs_sub_comm, abs_sub_comm 1,
    abs_of_nonneg (by linarith), abs_of_nonneg (by linarith)] at hnear
  linarith

theorem sign?_finite {x : Magnitude} (hzero : x.isZero = false) : sign? (real (.finite false x)) = some 1 := by
  simp [sign?, hzero]

/-- A positive number of 64 bits stays positive as a floating-point number. -/
theorem sign?_ofInt {n : ℕ} (hpos : 1 ≤ n) (h : n ≤ 2 ^ 64) : sign? (real (.ofInt n)) = some 1 := by
  obtain ⟨x, hx⟩ := Magnitude.exists_nearest?_of_le h
  have hclosest := Magnitude.isClosest_of_nearest? Nat.one_pos hx
  rw [Nat.cast_one, div_one] at hclosest
  have hzero := isZero_of_isClosest hclosest (by exact_mod_cast hpos)
  have hreal : Binary64.ofInt n = .finite false x := by
    rw [Binary64.ofInt, Int.natAbs_natCast, Binary64.ofRatio_of_nearest? hx, decide_eq_false (by omega)]
  rw [hreal]
  exact sign?_finite hzero

theorem run_ofJson_integer (i : ℤ) (store : Store) : (ofJson (.integer i)).run store =
    (if i < 2 ^ 63 then integer (.ofInt i) else real (.ofInt i), store) := by
  rw [ofJson, StateT.run_pure]
  exact rfl

/-- The sign of a word is that of the same number in JSON below `2 ^ 63` only. -/
theorem sign?_embed_iff (n : UInt64) (store : Store) :
    sign? ((embed n).run store).1 = sign? ((ofJson (.integer n.toNat)).run store).1 ↔ n.toNat < 2 ^ 63 := by
  have hembed : ((embed n).run store).1 = integer n.toInt64 := rfl
  have hconverted := toInt_toInt64 n
  rw [hembed, run_ofJson_integer]
  by_cases hn : n.toNat < 2 ^ 63
  · rw [if_pos hn] at hconverted
    rw [if_pos (by omega), sign?, sign?, hconverted, Int64.toInt_ofInt_of_le (by omega) (by omega)]
    exact iff_of_true rfl hn
  · rw [if_neg hn] at hconverted
    have hlt := n.toNat_lt
    rw [if_neg (by omega), sign?_ofInt (by omega) (by omega), sign?, hconverted, Int.sign_eq_neg_one_of_neg (by omega)]
    exact iff_of_false (by decide) hn

/-! ## All types -/

/-- **Integers as values.** Integers with a sign, and words of 32 bits without one, become integers that are shown
as the numerals of these numbers; they are different for different numbers, and in the same order. For words
of 64 bits and sizes this is true below `2 ^ 63` only: from there on they become the numbers that are less by
`2 ^ 64`, and so different words still become different integers, but they are shown as other numbers, and
the sign is not that of the same number in JSON. -/
theorem embed_integers (n : UInt64) (size : USize) (store : Store) :
    KeepsNumbers Int32.toInt Set.univ ∧ KeepsNumbers Int64.toInt Set.univ ∧
    KeepsNumbers (fun n : UInt32 => (n.toNat : ℤ)) Set.univ ∧
    KeepsNumbers (fun n : UInt64 => (n.toNat : ℤ)) {n | n.toNat < 2 ^ 63} ∧
    KeepsNumbers (fun n : USize => (n.toNat : ℤ)) {n | n.toNat < 2 ^ 63} ∧
    KeepsNumbers (fun n : UInt64 => (n.toNat : ℤ) - 2 ^ 64) {n | 2 ^ 63 ≤ n.toNat} ∧
    KeepsNumbers (fun n : USize => (n.toNat : ℤ) - 2 ^ 64) {n | 2 ^ 63 ≤ n.toNat} ∧
    (∀ m : UInt64, (embed m).run store = (embed n).run store → m = n) ∧
    (∀ m : USize, (embed m).run store = (embed size).run store → m = size) ∧
    (IsNumeralOf n.toNat (((embed n).run store).1.display store.heap).toList ↔ n.toNat < 2 ^ 63) ∧
    (IsNumeralOf size.toNat (((embed size).run store).1.display store.heap).toList ↔ size.toNat < 2 ^ 63) ∧
    (sign? ((embed n).run store).1 = sign? ((ofJson (.integer n.toNat)).run store).1 ↔ n.toNat < 2 ^ 63) := by
  have hinjective : ∀ n m : UInt64, n.toInt64 = m.toInt64 → n = m := fun n m h => congrArg Int64.toUInt64 h
  have hword : Function.Injective fun n : UInt64 => (n.toNat : ℤ) := fun n m h =>
    UInt64.toNat_inj.mp (Int.ofNat.inj h)
  have hsize : Function.Injective fun n : USize => (n.toNat : ℤ) := fun n m h => USize.toNat_inj.mp (Int.ofNat.inj h)
  refine ⟨?_, ?_, ?_, ?_, ?_, ?_, ?_, ?_, ?_, isNumeralOf_display_iff n store.heap, ?_, sign?_embed_iff n store⟩
  · exact keepsNumbers_of_toInt Int32.toInt64 (fun _ _ => rfl) (fun n _ => n.toInt_toInt64)
      fun _ _ => Int32.toInt_inj.mp
  · exact keepsNumbers_of_toInt id (fun _ _ => rfl) (fun _ _ => rfl) fun _ _ => Int64.toInt_inj.mp
  -- Every word of 32 bits is below `2 ^ 63`.
  · refine keepsNumbers_of_toInt (fun n => .ofNat n.toNat) (fun _ _ => rfl) (fun n _ => ?_)
      fun n m h => UInt32.toNat_inj.mp (Int.ofNat.inj h)
    exact Int64.toInt_ofNat_of_lt (n.toNat_lt.trans (by decide))
  · refine keepsNumbers_of_toInt UInt64.toInt64 (fun _ _ => rfl) (fun n hn => ?_) hword
    exact (toInt_toInt64 n).trans (if_pos hn)
  · refine keepsNumbers_of_toInt (fun n => n.toUInt64.toInt64) (fun _ _ => rfl) (fun n hn => ?_) hsize
    rw [toInt_toInt64, USize.toNat_toUInt64]
    exact if_pos hn
  -- The same words from `2 ^ 63` on, where the cast takes `2 ^ 64` away.
  · refine keepsNumbers_of_toInt UInt64.toInt64 (fun _ _ => rfl) (fun n hn => ?_) (sub_left_injective.comp hword)
    exact (toInt_toInt64 n).trans (if_neg (not_lt.mpr hn))
  · refine keepsNumbers_of_toInt (fun n => n.toUInt64.toInt64) (fun _ _ => rfl) (fun n hn => ?_)
      (sub_left_injective.comp hsize)
    rw [toInt_toInt64, USize.toNat_toUInt64]
    exact if_neg (not_lt.mpr hn)
  · intro m h
    exact hinjective m n (integer.inj (congrArg Prod.fst h))
  · intro m h
    have hsame := hinjective _ _ (integer.inj (congrArg Prod.fst h))
    rw [← USize.toNat_inj, ← m.toNat_toUInt64, hsame, size.toNat_toUInt64]
  · rw [← size.toNat_toUInt64]
    exact isNumeralOf_display_iff size.toUInt64 store.heap

/-- The greatest word that stays positive. -/
theorem embed_integers_greatest :
    let n : UInt64 := 9223372036854775807
    n ∈ {n : UInt64 | n.toNat < 2 ^ 63} ∧
      (∃ i, (embed n).run Store.empty = (.integer i, Store.empty) ∧
        IsNumeralOf n.toNat ((integer i).display Store.empty.heap).toList) ∧
      sign? ((embed n).run Store.empty).1 = sign? ((ofJson (.integer n.toNat)).run Store.empty).1 := by
  intro n
  have hn : n.toNat < 2 ^ 63 := by decide
  obtain ⟨-, -, -, hkeeps, -, -, -, -, -, -, -, hsign⟩ := embed_integers n 0 Store.empty
  exact ⟨hn, hkeeps.shown n hn Store.empty, hsign.mpr hn⟩

/-- The next word becomes the least integer, which is below the one before it, although in JSON the same number
stays positive. -/
theorem embed_integers_wrapped :
    let before : UInt64 := 9223372036854775807
    let n : UInt64 := 9223372036854775808
    (embed before).run Store.empty = (.integer Int64.maxValue, Store.empty) ∧
      (embed n).run Store.empty = (.integer Int64.minValue, Store.empty) ∧
      before < n ∧ Int64.minValue < Int64.maxValue ∧
      (integer Int64.minValue).display Store.empty.heap = "-9223372036854775808" ∧
      ¬ IsNumeralOf n.toNat ((integer Int64.minValue).display Store.empty.heap).toList ∧
      sign? (integer Int64.minValue) = some (-1) ∧
      sign? ((ofJson (.integer n.toNat)).run Store.empty).1 = some 1 := by
  intro before n
  have hdisplay : (integer Int64.minValue).display Store.empty.heap = "-9223372036854775808" := by decide +kernel
  refine ⟨rfl, rfl, by decide, by decide, hdisplay, ?_, by decide, ?_⟩
  · exact (isNumeralOf_display_iff n Store.empty.heap).not.mpr (by decide)
  · rw [run_ofJson_integer, if_neg (by decide)]
    exact sign?_ofInt (by decide) (by decide)

end Value

end Stencil
