import Mathlib.Algebra.Ring.Int.Parity
import Mathlib.Tactic.FieldSimp
import Stencil.Number.Fixed
import Stencil.Proofs.Number.Exact
import Stencil.Proofs.Number.Nearest

/-!
# Ties

Halfway between two multiples of a power of ten there are few magnitudes, and they have few digits. The
next magnitude is one step away; this step can be longer than the distance of the multiples.

* `Magnitude.value`, `Magnitude.step`: a magnitude and the distance to the next one, as rational numbers.
* `Magnitude.signedValue`: the value of a number with this magnitude.
* `IsHalfway`: a number is halfway between two multiples of a power of ten.
* `Magnitude.isTie_iff`: the test for ties is exact.
* `Magnitude.value_offTie`: a tie moves by one step, and any other magnitude stays.
* `Magnitude.Oversteps`: a tie with a step longer than the distance of the multiples.
* `IsMiddle`, `Binary64.isTie`: the same for numbers of both signs, and for those that are not finite.
* `Binary64.isTie_exact`: which numbers are ties.
-/

namespace Stencil.Number

/-! ## Powers of two -/

theorem ten_zpow_eq (e : ℤ) : (10 : ℚ) ^ e = 2 ^ e * 5 ^ e := by
  rw [← mul_zpow]
  norm_num

/-- A positive number is an odd one, doubled some times. -/
theorem oddPart_spec {n : ℕ} (hn : n ≠ 0) :
    n = (oddPart n).1 * 2 ^ (oddPart n).2 ∧ (oddPart n).1 % 2 = 1 := by
  fun_induction oddPart n with
  | case1 n h part ih =>
    obtain ⟨hprod, hodd⟩ := ih (by omega)
    refine ⟨?_, hodd⟩
    rw [Nat.pow_succ, ← Nat.mul_assoc, ← hprod]
    omega
  | case2 n h =>
    exact ⟨(Nat.mul_one n).symm, by omega⟩

/-- An odd number is no other odd number times a power of two. -/
theorem eq_zero_of_odd_mul_zpow {a b : ℕ} (ha : a % 2 = 1) (hb : b % 2 = 1) {e : ℤ}
    (h : (a : ℚ) * 2 ^ e = b) : e = 0 := by
  have hne : (2 : ℚ) ^ e ≠ 0 := by positivity
  rcases Int.lt_trichotomy e 0 with he | he | he
  · obtain ⟨k, rfl⟩ : ∃ k : ℕ, e = -(k + 1 : ℕ) := ⟨e.natAbs - 1, by omega⟩
    rw [zpow_neg, ← natCast_pow, mul_inv_eq_iff_eq_mul₀ (by positivity)] at h
    have h : a = b * 2 ^ (k + 1) := by exact_mod_cast h
    rw [h, Nat.pow_succ, ← Nat.mul_assoc, Nat.mul_mod_left] at ha
    omega
  · exact he
  · obtain ⟨k, rfl⟩ : ∃ k : ℕ, e = (k + 1 : ℕ) := ⟨e.natAbs - 1, by omega⟩
    rw [← natCast_pow] at h
    have h : a * 2 ^ (k + 1) = b := by exact_mod_cast h
    rw [← h, Nat.pow_succ, ← Nat.mul_assoc, Nat.mul_mod_left] at hb
    omega

/-! ## Values -/

namespace Magnitude

/-- The exact value. -/
def value (x : Magnitude) : ℚ := x.units / unitsPerOne

/-- The distance to the next magnitude. -/
def step (x : Magnitude) : ℚ := (2 ^ x.scale : ℕ) / unitsPerOne

variable {x : Magnitude} {place : ℤ}

theorem step_eq (x : Magnitude) : x.step = 2 ^ ((x.scale : ℤ) - 1074) := by
  rw [step, unitsPerOne, natCast_pow, natCast_pow, zpow_sub₀ (by norm_num)]
  rfl

theorem value_eq (x : Magnitude) : x.value = x.mantissa * x.step := by
  rw [value, units, Nat.cast_mul, step, mul_div_assoc]

theorem unitsPerOne_mul_value (x : Magnitude) : unitsPerOne * x.value = x.units := by
  have hunit : (unitsPerOne : ℚ) ≠ 0 := by exact_mod_cast unitsPerOne_pos.ne'
  rw [value, mul_div_cancel₀ _ hunit]

theorem step_pos (x : Magnitude) : 0 < x.step := by
  rw [step_eq]
  positivity

theorem value_nonneg (x : Magnitude) : 0 ≤ x.value := by
  rw [value_eq]
  have := x.step_pos
  positivity

theorem mantissa_ne_zero (h : x.isZero = false) : x.mantissa ≠ 0 := by
  simpa [isZero] using h

theorem units_pos (h : x.isZero = false) : 0 < x.units := by
  rw [Nat.pos_iff_ne_zero, Ne, ← isZero_iff_units, h]
  decide

theorem isZero_iff_value : x.isZero = true ↔ x.value = 0 := by
  have hpos : (unitsPerOne : ℚ) ≠ 0 := by
    exact_mod_cast unitsPerOne_pos.ne'
  rw [isZero_iff_units, value, div_eq_zero_iff, or_iff_left hpos, Nat.cast_eq_zero]

/-- The exact value with a sign. -/
def signedValue (negative : Bool) (x : Magnitude) : ℚ := if negative then -x.value else x.value

theorem signedValue_neg_iff (negative : Bool) (x : Magnitude) :
    signedValue negative x < 0 ↔ (negative && !x.isZero) = true := by
  have hnonneg := x.value_nonneg
  have hzero := isZero_iff_value (x := x)
  cases negative with
  | false => simpa [signedValue] using hnonneg
  | true =>
    cases h : x.isZero with
    | true =>
      rw [signedValue, if_pos rfl, hzero.mp h]
      decide
    | false =>
      have hpos : 0 < x.value := lt_of_le_of_ne hnonneg fun hv => by
        rw [hzero.mpr hv.symm] at h
        cases h
      simpa [signedValue] using hpos

theorem decide_signedValue_neg (negative : Bool) (x : Magnitude) :
    decide (x.signedValue negative < 0) = (negative && !x.isZero) := by
  rw [Bool.eq_iff_iff, decide_eq_true_iff, signedValue_neg_iff]

/-- A magnitude as an odd number times a power of two. -/
theorem value_eq_odd (h : x.isZero = false) :
    x.value = (oddPart x.mantissa).1 *
      2 ^ ((x.scale : ℤ) + (oddPart x.mantissa).2 - 1074) := by
  rw [value_eq, step_eq]
  conv_lhs => rw [(oddPart_spec (mantissa_ne_zero h)).1]
  rw [Nat.cast_mul, natCast_pow, mul_assoc, ← zpow_add₀ (by norm_num)]
  congr 2
  omega

end Magnitude

/-! ## The test for ties -/

/-- The number is halfway between two neighbouring multiples of `10 ^ -place`. -/
def IsHalfway (place : ℤ) (v : ℚ) : Prop := ∃ k : ℕ, v * 10 ^ place = k + 1 / 2

theorem isHalfway_iff {place : ℤ} {v : ℚ} :
    IsHalfway place v ↔ ∃ r : ℕ, r % 2 = 1 ∧ v * 10 ^ place * 2 = r := by
  constructor
  · rintro ⟨k, hk⟩
    refine ⟨2 * k + 1, by omega, ?_⟩
    rw [hk]
    push_cast
    ring
  · rintro ⟨r, hodd, hr⟩
    refine ⟨r / 2, ?_⟩
    have hdiv : 2 * (r / 2) + 1 = r := by omega
    have hdiv : (2 : ℚ) * (r / 2 : ℕ) + 1 = r := by exact_mod_cast hdiv
    linarith

/-- An odd number times powers of two and of five is an odd number only without the power of two. -/
theorem exists_odd_eq_iff {m : ℕ} (hm : m % 2 = 1) (e place : ℤ) :
    (∃ r : ℕ, r % 2 = 1 ∧ (m : ℚ) * 2 ^ e * 5 ^ place = r) ↔
      e = 0 ∧ (place < 0 → 5 ^ place.natAbs ∣ m) := by
  have hfive : ∀ k : ℕ, 5 ^ k % 2 = 1 := fun k => by rw [Nat.pow_mod]; simp
  have hodd : ∀ a b : ℕ, a % 2 = 1 → b % 2 = 1 → a * b % 2 = 1 := fun a b ha hb => by
    rw [Nat.mul_mod, ha, hb]
  -- A negative power of five has to divide the odd number; any other one keeps it odd.
  rcases Int.lt_or_le place 0 with hplace | hplace
  · obtain ⟨q, rfl⟩ : ∃ q : ℕ, place = -q := ⟨place.natAbs, by omega⟩
    have hpos : (0 : ℚ) < 5 ^ (q : ℤ) := by positivity
    rw [Int.natAbs_neg, Int.natAbs_natCast, zpow_neg]
    constructor
    · rintro ⟨r, hr, heq⟩
      rw [mul_inv_eq_iff_eq_mul₀ hpos.ne', ← natCast_pow, ← Nat.cast_mul] at heq
      obtain rfl := eq_zero_of_odd_mul_zpow hm (hodd _ _ hr (hfive q)) heq
      rw [zpow_zero, mul_one, Nat.cast_inj] at heq
      exact ⟨rfl, fun _ => heq ▸ Nat.dvd_mul_left _ _⟩
    · rintro ⟨rfl, hdvd⟩
      obtain ⟨r, rfl⟩ := hdvd hplace
      refine ⟨r, ?_, ?_⟩
      · rw [Nat.mul_mod, hfive, Nat.one_mul, Nat.mod_mod] at hm
        exact hm
      · rw [zpow_zero, mul_one, mul_inv_eq_iff_eq_mul₀ hpos.ne', Nat.cast_mul, natCast_pow,
          mul_comm]
  · obtain ⟨q, rfl⟩ : ∃ q : ℕ, place = q := ⟨place.natAbs, by omega⟩
    constructor
    · rintro ⟨r, hr, heq⟩
      rw [mul_right_comm, ← natCast_pow, ← Nat.cast_mul] at heq
      exact ⟨eq_zero_of_odd_mul_zpow (hodd _ _ hm (hfive q)) hr heq, fun h => absurd h (by omega)⟩
    · rintro ⟨rfl, -⟩
      refine ⟨m * 5 ^ q, hodd _ _ hm (hfive q), ?_⟩
      rw [zpow_zero, mul_one, Nat.cast_mul, natCast_pow]

namespace Magnitude

variable {x : Magnitude} {place : ℤ}

/-- Twice the value of a magnitude at a place, by powers of two and of five. -/
theorem value_mul_two (h : x.isZero = false) (place : ℤ) :
    x.value * 10 ^ place * 2 = (oddPart x.mantissa).1 *
      2 ^ ((x.scale : ℤ) + (oddPart x.mantissa).2 - 1074 + (place + 1)) * 5 ^ place := by
  rw [value_eq_odd h, ten_zpow_eq, zpow_add₀ (by norm_num) _ (place + 1), zpow_add_one₀ (by norm_num)]
  ring

theorem oddPart_lt (h : x.isZero = false) : (oddPart x.mantissa).1 < 2 ^ 53 := by
  obtain ⟨hprod, -⟩ := oddPart_spec (mantissa_ne_zero h)
  have hle : (oddPart x.mantissa).1 ≤ x.mantissa := by
    conv_rhs => rw [hprod]
    exact Nat.le_mul_of_pos_right _ (Nat.two_pow_pos _)
  exact lt_of_le_of_lt hle x.mantissa_lt

theorem isTie_iff_of_ne_zero (h : x.isZero = false) :
    x.isTie place = true ↔ (x.scale : ℤ) + (oddPart x.mantissa).2 - 1074 + (place + 1) = 0 ∧
      (place < 0 → 5 ^ place.natAbs ∣ (oddPart x.mantissa).1) := by
  obtain ⟨-, hodd⟩ := oddPart_spec (mantissa_ne_zero h)
  have hlt := oddPart_lt h
  -- A power of five that divides the odd part has 64 bits.
  have hdvd : 5 ^ place.natAbs ∣ (oddPart x.mantissa).1 → 5 ^ place.natAbs < 2 ^ 64 := fun hdvd =>
    lt_of_le_of_lt (Nat.le_of_dvd (by omega) hdvd) (hlt.trans (by decide))
  simp only [isTie, h, Bool.false_eq_true, if_false]
  split
  · rename_i hplace
    split
    · exact iff_of_true rfl ⟨by omega, fun hneg => absurd hneg (by omega)⟩
    · rw [Bool.and_eq_true, decide_eq_true_eq, beq_iff_eq, ← Nat.dvd_iff_mod_eq_zero]
      exact ⟨fun h => ⟨by omega, fun _ => h.2⟩, fun h =>
        have h := h.2 (by omega)
        ⟨hdvd h, h⟩⟩
  · exact iff_of_false Bool.false_ne_true fun h => absurd h.1 (by omega)

theorem isZero_of_isTie (h : x.isTie place = true) : x.isZero = false := by
  cases hz : x.isZero with
  | false => rfl
  | true => simp [isTie, hz] at h

/-- In front of the point only a small power of five leaves a tie. -/
theorem five_pow_lt_of_isTie (h : x.isTie place = true) (hplace : place < 0) :
    5 ^ place.natAbs < 2 ^ 53 := by
  have hzero := isZero_of_isTie h
  obtain ⟨-, hdvd⟩ := (isTie_iff_of_ne_zero hzero).mp h
  have hodd := (oddPart_spec (mantissa_ne_zero hzero)).2
  exact lt_of_le_of_lt (Nat.le_of_dvd (by omega) (hdvd hplace)) (oddPart_lt hzero)

/-- The test for ties is exact. -/
theorem isTie_iff (x : Magnitude) (place : ℤ) : x.isTie place = true ↔ IsHalfway place x.value := by
  rw [isHalfway_iff]
  cases h : x.isZero with
  | true =>
    refine iff_of_false (by simp [isTie, h]) ?_
    rintro ⟨r, hodd, hr⟩
    rw [isZero_iff_value.mp h, zero_mul, zero_mul, eq_comm, Nat.cast_eq_zero] at hr
    omega
  | false =>
    simp only [value_mul_two h]
    rw [isTie_iff_of_ne_zero h, exists_odd_eq_iff (oddPart_spec (mantissa_ne_zero h)).2]

/-! ## One step -/

theorem value_next? {y : Magnitude} (h : x.next? = some y) : y.value = x.value + x.step := by
  have hunits : y.units = x.units + 2 ^ x.scale := by
    simp only [next?] at h
    split at h
    · obtain rfl := Option.some.inj h
      simp only [units]
      rw [Nat.succ_mul]
    · split at h
      · obtain rfl := Option.some.inj h
        have hlt := x.mantissa_lt
        have hmantissa : x.mantissa = 2 ^ 53 - 1 := by omega
        simp only [units, hmantissa]
        rw [Nat.pow_succ]
        omega
      · cases h
  rw [value, hunits, Nat.cast_add, add_div]
  rfl

/-- The greatest magnitude is no tie. -/
theorem exists_next? (h : x.isTie place = true) : ∃ y, x.next? = some y := by
  obtain ⟨hplace, -⟩ := (isTie_iff_of_ne_zero (isZero_of_isTie h)).mp h
  have hlt := x.mantissa_lt
  simp only [next?]
  split
  · exact ⟨_, rfl⟩
  rename_i hmantissa
  split
  · exact ⟨_, rfl⟩
  rename_i hscale
  have hpow := five_pow_lt_of_isTie h (by omega)
  have hfive : 5 ^ 27 ≤ 5 ^ place.natAbs := Nat.pow_le_pow_right (by decide) (by omega)
  have hbig : 2 ^ 53 < 5 ^ 27 := by decide
  omega

/-- A tie moves by one step. -/
theorem value_offTie_of_isHalfway (h : IsHalfway place x.value) :
    (x.offTie place).value = x.value + x.step := by
  have htie := (isTie_iff x place).mpr h
  obtain ⟨y, hy⟩ := exists_next? htie
  rw [offTie, if_pos htie, hy, Option.getD_some, value_next? hy]

/-- What is no tie stays. -/
theorem offTie_of_not_isHalfway (h : ¬ IsHalfway place x.value) : x.offTie place = x := by
  rw [offTie, if_neg (by rwa [isTie_iff])]

/-- The magnitude is a tie, and its step is longer than the distance of the multiples. -/
def Oversteps (place : ℤ) (x : Magnitude) : Prop :=
  IsHalfway place x.value ∧ 1 < x.step * 10 ^ place

end Magnitude

/-! ## Numbers with a sign -/

/-- The number is in the middle between two consecutive multiples of `10 ^ -place`. -/
def IsMiddle (place : ℤ) (v : ℚ) : Prop :=
  ∃ k : ℤ, v = (k * 10 ^ (-place) + (k + 1) * 10 ^ (-place)) / 2

/-- The sign decides on which side of zero the multiples are. -/
theorem isMiddle_iff {place : ℤ} {v : ℚ} : IsMiddle place v ↔ IsHalfway place |v| := by
  have hscale : ∀ k : ℤ, v = (k * 10 ^ (-place) + (k + 1) * 10 ^ (-place)) / 2 ↔
      v * 10 ^ place = k + 1 / 2 := fun k => by
    have hpos : (10 : ℚ) ^ place ≠ 0 := by positivity
    rw [zpow_neg, ← eq_div_iff hpos]
    constructor <;> intro h <;> rw [h] <;> field_simp <;> ring
  have hpos : (0 : ℚ) < 10 ^ place := by positivity
  simp only [IsMiddle, IsHalfway, hscale]
  -- Below zero the two multiples change places, which shifts the number by one.
  rcases le_total 0 v with hv | hv
  · rw [abs_of_nonneg hv]
    constructor
    · rintro ⟨k, hk⟩
      have hnonneg : (-1 : ℚ) < k := by
        have := mul_nonneg hv hpos.le
        linarith
      have hnonneg : -1 < k := by exact_mod_cast hnonneg
      obtain ⟨n, rfl⟩ := Int.eq_ofNat_of_zero_le (show 0 ≤ k by omega)
      exact ⟨n, hk⟩
    · rintro ⟨n, hn⟩
      exact ⟨n, hn⟩
  · rw [abs_of_nonpos hv, neg_mul]
    constructor
    · rintro ⟨k, hk⟩
      have hneg : (k : ℚ) < 0 := by
        have := mul_nonpos_of_nonpos_of_nonneg hv hpos.le
        linarith
      have hneg : k < 0 := by exact_mod_cast hneg
      obtain ⟨n, rfl⟩ : ∃ n : ℕ, k = -(n + 1) := ⟨(-k - 1).toNat, by omega⟩
      refine ⟨n, ?_⟩
      rw [hk]
      push_cast
      ring
    · rintro ⟨n, hn⟩
      refine ⟨-(n + 1), ?_⟩
      push_cast
      linarith

theorem exists_odd_abs_iff {place : ℤ} {v : ℚ} :
    (∃ r : ℤ, Odd r ∧ 2 * |v| * 10 ^ place = r) ↔ IsHalfway place |v| := by
  rw [isHalfway_iff]
  constructor
  · rintro ⟨r, hodd, hr⟩
    have hnonneg : (0 : ℚ) ≤ r := hr ▸ by positivity
    obtain ⟨n, rfl⟩ := Int.eq_ofNat_of_zero_le (show 0 ≤ r by exact_mod_cast hnonneg)
    refine ⟨n, ?_, ?_⟩
    · rw [Int.odd_iff] at hodd
      omega
    · rw [mul_comm, ← mul_assoc, hr]
      rfl
  · rintro ⟨n, hodd, hn⟩
    refine ⟨n, ?_, ?_⟩
    · rw [Int.odd_iff]
      omega
    · rw [mul_assoc, mul_comm, hn]
      rfl

theorem Magnitude.abs_signedValue (negative : Bool) (x : Magnitude) :
    |x.signedValue negative| = x.value := by
  cases negative with
  | false => exact abs_of_nonneg x.value_nonneg
  | true =>
    show |-x.value| = x.value
    rw [abs_neg, abs_of_nonneg x.value_nonneg]

namespace Binary64

/-- The exact value of a finite number. -/
def value? : Binary64 → Option ℚ
  | finite negative x => some (x.signedValue negative)
  | _ => none

/-- The test for ties. A number that is not finite is no tie. -/
def isTie (place : ℤ) : Binary64 → Bool
  | finite _ x => x.isTie place
  | _ => false

theorem isTie_eq_true_iff {y : Binary64} {place : ℤ} :
    y.isTie place = true ↔ ∃ v, y.value? = some v ∧ IsHalfway place |v| := by
  cases y with
  | finite negative x =>
    have hsome : ∀ v, (finite negative x).value? = some v ↔ x.signedValue negative = v :=
      fun v => Option.some_inj
    simp only [hsome, exists_eq_left', Magnitude.abs_signedValue]
    exact Magnitude.isTie_iff x place
  | _ => exact iff_of_false Bool.false_ne_true (by rintro ⟨v, hv, -⟩; cases hv)

theorem ne_zero_of_isHalfway {place : ℤ} {v : ℚ} (h : IsHalfway place |v|) : v ≠ 0 := by
  rintro rfl
  obtain ⟨k, hk⟩ := h
  rw [abs_zero, zero_mul] at hk
  have : (0 : ℚ) ≤ k := Nat.cast_nonneg k
  linarith

/-- **Ties.** The test holds exactly for the finite numbers that are in the middle between two consecutive
multiples of `10 ^ -place`. These are the numbers of which twice the absolute value, at this place, is
an odd integer, and zero is none of them. A power of five with more than 64 bits, for which the test does
not hold, hides none of them. -/
theorem isTie_exact (y : Binary64) (place : ℤ) :
    (y.isTie place = true ↔ ∃ v, y.value? = some v ∧ v ≠ 0 ∧ IsMiddle place v) ∧
    (y.isTie place = true ↔
      ∃ v, y.value? = some v ∧ ∃ r : ℤ, Odd r ∧ 2 * |v| * 10 ^ place = r) ∧
    (place < 0 → 2 ^ 64 ≤ 5 ^ place.natAbs → ∀ v, y.value? = some v → ¬ IsMiddle place v) := by
  have hiff : y.isTie place = true ↔ ∃ v, y.value? = some v ∧ IsHalfway place |v| := isTie_eq_true_iff
  refine ⟨?_, ?_, fun hplace hpow v hv hmiddle => ?_⟩
  · simp only [hiff, isMiddle_iff]
    exact exists_congr fun v => and_congr_right fun _ =>
      ⟨fun h => ⟨ne_zero_of_isHalfway h, h⟩, And.right⟩
  · simp only [hiff, exists_odd_abs_iff]
  · have htie := hiff.mpr ⟨v, hv, isMiddle_iff.mp hmiddle⟩
    cases y with
    | finite negative x =>
      have hlt := Magnitude.five_pow_lt_of_isTie htie hplace
      exact absurd (hpow.trans_lt hlt) (by decide)
    | _ => cases hv

/-- The number -250 is a tie at the hundreds. The power of five for the 28th digit in front of the point has
more than 64 bits, and even the number next to `5 * 10 ^ 27` is no tie there. -/
theorem isTie_exact_fives :
    let x : Magnitude := ⟨250 * 2 ^ 45, 1029, by decide, by decide, .inr (by decide)⟩
    let wide : Magnitude := ⟨4547473508864641, 1114, by decide, by decide, .inr (by decide)⟩
    (finite true x).value? = some (-250) ∧ (finite true x).isTie (-2) = true ∧ IsMiddle (-2) (-250) ∧
      (-28 : ℤ) < 0 ∧ 2 ^ 64 ≤ 5 ^ (-28 : ℤ).natAbs ∧
      (finite false wide).value? = some 4999999999999999791559868416 ∧
      ¬ IsMiddle (-28) 4999999999999999791559868416 := by
  intro x wide
  have hvalue : (finite true x).value? = some (-250) := by
    rw [value?, Magnitude.signedValue, Magnitude.value_eq, Magnitude.step_eq]
    norm_num [x]
  have hwide : (finite false wide).value? = some 4999999999999999791559868416 := by
    rw [value?, Magnitude.signedValue, Magnitude.value_eq, Magnitude.step_eq]
    norm_num [wide]
  have hmiddle : IsMiddle (-2) (-250) := ⟨-3, by norm_num⟩
  have htie := (isTie_exact (finite true x) (-2)).1.mpr ⟨-250, hvalue, by norm_num, hmiddle⟩
  have hpow : 2 ^ 64 ≤ 5 ^ (-28 : ℤ).natAbs := by decide
  exact ⟨hvalue, htie, hmiddle, by decide, hpow, hwide,
    (isTie_exact (finite false wide) (-28)).2.2 (by decide) hpow _ hwide⟩

end Binary64

end Stencil.Number
