import Stencil.Number.Binary64

/-!
# Exact numbers

A finite number is a whole number of units of `2 ^ -1074`, and rounding leaves such a number as it is.

* `Magnitude.ofUnits?_units`: a magnitude is the nearest one to its own value.
* `Binary64.equals_iff_units?`: two finite numbers are equal if their values are.
* `Binary64.units?_ofInt`: an integer of at most `2 ^ 53` keeps its value.
-/

namespace Stencil.Number

namespace Magnitude

/-! ## Rounding what needs no rounding -/

/-- The scale of a magnitude is the one at which its value has 53 bits. -/
theorem scaleOf_units (x : Magnitude) : scaleOf x.units 1 = x.scale := by
  have hlt := x.mantissa_lt
  rcases x.normal with hscale | hnormal
  · have hlog : x.mantissa.log2 ≤ 52 := by
      by_cases h0 : x.mantissa = 0
      · simp [h0]
      · have := (Nat.log2_lt h0).mpr hlt
        omega
    simp only [scaleOf, units, hscale, Nat.pow_zero, Nat.mul_one, Nat.div_one]
    omega
  · have hpos := Nat.two_pow_pos x.scale
    have hne : x.units ≠ 0 := by
      rw [units]
      exact Nat.mul_ne_zero (by omega) (by omega)
    have hlog : x.units.log2 = 52 + x.scale := by
      rw [Nat.log2_eq_iff hne, units, Nat.add_right_comm, Nat.pow_add, Nat.pow_add]
      exact ⟨Nat.mul_le_mul_right _ hnormal, Nat.mul_lt_mul_of_pos_right hlt hpos⟩
    rw [scaleOf, Nat.div_one, hlog]
    omega

/-- A magnitude is the nearest one to its own value. -/
theorem ofUnits?_units (x : Magnitude) : ofUnits? x.units 1 = some x := by
  have hround : roundDiv .even x.units (1 * 2 ^ x.scale) = x.mantissa := by
    rw [Nat.one_mul, units]
    exact roundDiv_mul_left .even _ _ (Nat.two_pow_pos _)
  simp only [ofUnits?, scaleOf_units, hround, x.scale_le, x.mantissa_lt, dif_pos]

theorem units_injective {x y : Magnitude} (h : x.units = y.units) : x = y := by
  have hx := ofUnits?_units x
  rw [h, ofUnits?_units] at hx
  exact (Option.some.inj hx).symm

theorem unitsPerOne_pos : 0 < unitsPerOne := by
  have hpow : ∀ k, 0 < 2 ^ k := Nat.two_pow_pos
  exact hpow 1074

theorem nearest?_of_units {x : Magnitude} {n : Nat} (h : x.units = n * unitsPerOne) :
    nearest? n 1 = some x := by
  rw [nearest?, ← h, ofUnits?_units]

theorem isZero_iff_units {x : Magnitude} : x.isZero = true ↔ x.units = 0 := by
  have hpos := Nat.two_pow_pos x.scale
  rw [isZero, beq_iff_eq, units, Nat.mul_eq_zero]
  omega

/-- A magnitude without a fraction is its integer part. -/
theorem units_of_isIntegral {x : Magnitude} (h : x.isIntegral = true) :
    x.units = x.floor * unitsPerOne := by
  rw [isIntegral, beq_iff_eq] at h
  exact (Nat.div_mul_cancel (Nat.dvd_of_mod_eq_zero h)).symm

/-- Integers of 53 bits are exact, and so is the next one. -/
theorem exists_units_eq {n : Nat} (h : n ≤ 2 ^ 53) : ∃ x : Magnitude, x.units = n * unitsPerOne := by
  by_cases hmax : n = 2 ^ 53
  · refine ⟨⟨2 ^ 52, 1075, by decide, by decide, .inr (Nat.le_refl _)⟩, ?_⟩
    have hpow : ∀ k, 2 ^ 52 * 2 ^ (k + 1) = 2 ^ 53 * 2 ^ k := by
      intro k
      rw [Nat.pow_add_one]
      omega
    rw [units, hmax, unitsPerOne, ← hpow]
  by_cases hzero : n = 0
  · refine ⟨zero, ?_⟩
    rw [hzero, Nat.zero_mul]
    rfl
  -- The mantissa is the integer, shifted until it has 53 bits.
  have hlog : n.log2 ≤ 52 := by
    have := (Nat.log2_lt hzero).mpr (show n < 2 ^ 53 by omega)
    omega
  have hshift : 2 ^ (n.log2 + 1) * 2 ^ (52 - n.log2) = 2 ^ 53 := by
    rw [← Nat.pow_add]
    congr 1
    omega
  have hshift' : 2 ^ n.log2 * 2 ^ (52 - n.log2) = 2 ^ 52 := by
    rw [← Nat.pow_add]
    congr 1
    omega
  have hlt : n * 2 ^ (52 - n.log2) < 2 ^ 53 :=
    hshift ▸ Nat.mul_lt_mul_of_pos_right Nat.lt_log2_self (Nat.two_pow_pos _)
  have hle : 2 ^ 52 ≤ n * 2 ^ (52 - n.log2) :=
    hshift' ▸ Nat.mul_le_mul_right _ (Nat.log2_self_le hzero)
  refine ⟨⟨n * 2 ^ (52 - n.log2), 1022 + n.log2, hlt, by omega, .inr hle⟩, ?_⟩
  simp only [units, unitsPerOne]
  rw [Nat.mul_assoc, ← Nat.pow_add]
  congr 2
  omega

end Magnitude

namespace Binary64

/-! ## Values -/

/-- The exact value of a finite number, in units of `2 ^ -1074`. -/
def units? : Binary64 → Option Int
  | finite negative x => some (if negative then -(x.units : Int) else x.units)
  | _ => none

theorem units?_eq_none_iff {x : Binary64} : x.units? = none ↔ x.isFinite = false := by
  cases x <;> simp [units?, isFinite]

/-- A finite number equals exactly the numbers of the same value. -/
theorem equals_iff_units? {x y : Binary64} (hx : x.isFinite = true) :
    x.equals y = true ↔ x.units? = y.units? := by
  cases x with
  | nan => cases hx
  | infinite => cases hx
  | finite a x =>
    cases y with
    | nan => simp [equals, units?]
    | infinite => simp [equals, units?]
    | finite b y =>
      have hunits : x = y ↔ x.units = y.units := ⟨congrArg _, Magnitude.units_injective⟩
      have hzero := Magnitude.isZero_iff_units (x := x)
      simp only [equals, units?, Bool.and_eq_true, beq_iff_eq, Bool.or_eq_true, hunits, hzero,
        Option.some.injEq]
      cases a <;> cases b <;> simp <;> omega

theorem equals_comm (x y : Binary64) : x.equals y = y.equals x := by
  cases x <;> cases y <;> try rfl
  · simp only [equals]
    exact Bool.beq_comm
  · next a x b y =>
    simp only [equals]
    by_cases h : x = y
    · subst h
      rw [Bool.beq_comm (a := a)]
    · rw [beq_eq_false_iff_ne.mpr h, beq_eq_false_iff_ne.mpr (Ne.symm h), Bool.false_and,
        Bool.false_and]

theorem equals_trans {x y z : Binary64} (hxy : x.equals y = true) (hyz : y.equals z = true) :
    x.equals z = true := by
  cases hx : x.isFinite with
  | true =>
    have hu := (equals_iff_units? hx).mp hxy
    have hy : y.isFinite = true := by
      rw [← Bool.not_eq_false, ← units?_eq_none_iff, ← hu, units?_eq_none_iff, hx]
      decide
    rw [equals_iff_units? hx, hu]
    exact (equals_iff_units? hy).mp hyz
  | false =>
    cases x with
    | nan => cases hxy
    | finite => cases hx
    | infinite a =>
      cases y with
      | infinite b => rwa [beq_iff_eq.mp (show (a == b) = true from hxy)]
      | _ => cases hxy

theorem equals_self {x : Binary64} (h : x ≠ nan) : x.equals x = true := by
  cases x <;> simp [equals] at h ⊢

theorem exists_of_isFinite {x : Binary64} (h : x.isFinite = true) : ∃ negative m, x = finite negative m := by
  cases x with
  | finite negative m => exact ⟨negative, m, rfl⟩
  | _ => cases h

theorem equals_self_of_isFinite {x : Binary64} (h : x.isFinite = true) : x.equals x = true := by
  obtain ⟨negative, m, rfl⟩ := exists_of_isFinite h
  exact equals_self nofun

/-! ## Integers -/

theorem ofRatio_of_nearest? {negative : Bool} {a b : Nat} {x : Magnitude}
    (h : Magnitude.nearest? a b = some x) : ofRatio negative a b = finite negative x := by
  rw [ofRatio, h, Option.elim_some]

theorem ofInt_of_units {x : Magnitude} {i : Int} (h : x.units = i.natAbs * unitsPerOne) :
    ofInt i = finite (decide (i < 0)) x := by
  rw [ofInt, ofRatio_of_nearest? (Magnitude.nearest?_of_units h)]

/-- An integer keeps its value if a number has it. -/
theorem units?_ofInt_of_units {x : Magnitude} {i : Int} (h : x.units = i.natAbs * unitsPerOne) :
    (ofInt i).units? = some (i * unitsPerOne) := by
  rw [ofInt_of_units h, units?, h]
  rcases Int.lt_or_le i 0 with hi | hi
  · rw [decide_eq_true hi, if_pos rfl, Int.natCast_mul, ← Int.neg_mul]
    congr 2
    omega
  · rw [decide_eq_false (by omega), if_neg Bool.false_ne_true, Int.natCast_mul]
    congr 2
    omega

/-- An integer of at most `2 ^ 53` keeps its value. -/
theorem units?_ofInt {i : Int} (h : i.natAbs ≤ 2 ^ 53) :
    (ofInt i).units? = some (i * unitsPerOne) := by
  obtain ⟨x, hx⟩ := Magnitude.exists_units_eq h
  exact units?_ofInt_of_units hx

/-- A number without a fraction is its integer part. -/
theorem units?_of_isIntegral (negative : Bool) {x : Magnitude} (h : x.isIntegral = true) :
    (finite negative x).units? =
      some ((if negative then -(x.floor : Int) else x.floor) * unitsPerOne) := by
  rw [units?, Magnitude.units_of_isIntegral h]
  cases negative with
  | false => rw [if_neg Bool.false_ne_true, if_neg Bool.false_ne_true, Int.natCast_mul]
  | true => rw [if_pos rfl, if_pos rfl, Int.natCast_mul, Int.neg_mul]

/-- Two integers that equal one number, and need not be rounded, are equal. -/
theorem eq_of_equals_ofInt {i j : Int} {x : Binary64} (hi : i.natAbs ≤ 2 ^ 53)
    (hj : j.natAbs ≤ 2 ^ 53) (hix : (ofInt i).equals x = true) (hjx : (ofInt j).equals x = true) :
    i = j := by
  have hfinite : ∀ {k : Int}, k.natAbs ≤ 2 ^ 53 → (ofInt k).isFinite = true := by
    intro k hk
    rw [← Bool.not_eq_false, ← units?_eq_none_iff, units?_ofInt hk]
    exact Option.some_ne_none _
  have hij : (ofInt i).units? = (ofInt j).units? := by
    rw [(equals_iff_units? (hfinite hi)).mp hix, (equals_iff_units? (hfinite hj)).mp hjx]
  rw [units?_ofInt hi, units?_ofInt hj] at hij
  have hpos : (unitsPerOne : Int) ≠ 0 := by
    have := Magnitude.unitsPerOne_pos
    omega
  exact Int.eq_of_mul_eq_mul_right hpos (Option.some.inj hij)

end Binary64

end Stencil.Number
