import Stencil.Json.Printer
import Stencil.Proofs.Json.Number
import Stencil.Proofs.Number.Closest
import Stencil.Proofs.Number.Exponent
import Stencil.Proofs.Number.Magnitude
import Stencil.Proofs.Number.Shortest

/-!
# Finite numbers in JSON texts, read back

A finite number is written with at most 17 digits. What is read may be another number, since the digits
are scaled with a rounded power of ten, but it is a finite number again. Close to the greatest magnitude
this has to be checked decimal by decimal: one more in the 17th digit, and the text would be refused.

* `scaled?_isSome_of_lt`: decimals below the greatest magnitude can be scaled.
* `scaled?_isSome_of_near`: so can the 18 decimals of 17 digits that are next to it.
* `scaled?_shortest`: and so can the shortest decimal of every magnitude.
* `scansAsFinite_render`: the text of a finite number is scanned as a finite number.
-/

namespace Stencil.Json

open Number Number.Magnitude Number.Decimal

namespace NumberLiteral

/-! ## Scaling -/

theorem two_pow_le_mul_unitsPerOne {n : ℕ} (hn : 0 < n) : 2 ^ 52 * 1 ≤ n * unitsPerOne := by
  have hunit : 2 ^ 52 ≤ unitsPerOne := by
    rw [unitsPerOne]
    gcongr <;> decide
  rw [Nat.mul_one]
  exact hunit.trans (Nat.le_mul_of_pos_left _ hn)

theorem nearest?_le {n : ℕ} (hn : 0 < n) {x : Magnitude} (h : nearest? n 1 = some x) :
    (x.units : ℚ) ≤ n * unitsPerOne * (1 + 1 / 2 ^ 53) := by
  have hle := ofUnits?_le Nat.one_pos (two_pow_le_mul_unitsPerOne hn) h
  rwa [Nat.cast_one, div_one, Nat.cast_mul] at hle

/-- A power of ten is rounded up by at most one part in `2 ^ 53`. -/
theorem powerOfTen_le (k : ℕ) :
    ((powerOfTen k).units : ℚ) ≤ (10 ^ k : ℕ) * unitsPerOne * (1 + 1 / 2 ^ 53) := by
  rw [powerOfTen]
  cases h : nearest? (10 ^ k) 1 with
  | some x => exact nearest?_le (Nat.pow_pos (by decide)) h
  | none =>
    have hzero : Magnitude.zero.units = 0 := rfl
    have hunit : (0 : ℚ) < unitsPerOne := by exact_mod_cast unitsPerOne_pos
    rw [Option.getD_none, hzero, Nat.cast_zero]
    exact mul_nonneg (mul_nonneg (Nat.cast_nonneg _) hunit.le) (by norm_num)

theorem scaled?_zero (e : ℤ) : scaled? 0 e = some .zero := by
  have hzero : nearest? 0 1 = some .zero := nearest?_of_units (Nat.zero_mul _).symm
  rw [scaled?, hzero]
  rfl

/-- Dividing by a power of ten gives a magnitude. -/
theorem scaled?_isSome_of_neg {n : ℕ} (hn : n < 2 ^ 64) {e : ℤ} (he : e < 0) :
    (scaled? n e).isSome = true := by
  obtain ⟨x, hx⟩ := exists_nearest?_of_le hn.le
  rw [scaled?, hx, Option.bind_some, scale?, if_pos he]
  split <;> rfl

/-- Two factors that are rounded up by at most one part in `2 ^ 53` each have a product below a bound, if
the exact product is so much below it. -/
theorem mul_lt_of_rounded {bound limit unit n p x y : ℕ} (hunit : 0 < unit)
    (hgap : bound * unit * (2 ^ 53 + 1) ^ 2 ≤ limit * 2 ^ 106) (h : n * p < bound)
    (hx : (x : ℚ) ≤ n * unit * (1 + 1 / 2 ^ 53)) (hy : (y : ℚ) ≤ p * unit * (1 + 1 / 2 ^ 53)) :
    x * y * unit < limit * (unit * unit) := by
  have hunit' : (0 : ℚ) < unit := by exact_mod_cast hunit
  have hlt : (n : ℚ) * p + 1 ≤ bound := by exact_mod_cast h
  have hgap : (bound : ℚ) * unit * (2 ^ 53 + 1) ^ 2 ≤ limit * 2 ^ 106 := by exact_mod_cast hgap
  have hstep : (n : ℚ) * p * unit * (2 ^ 53 + 1) ^ 2 < bound * unit * (2 ^ 53 + 1) ^ 2 :=
    mul_lt_mul_of_pos_right (mul_lt_mul_of_pos_right (by linarith) hunit') (by norm_num)
  have hsquare : (n : ℚ) * unit * (1 + 1 / 2 ^ 53) * (p * unit * (1 + 1 / 2 ^ 53)) =
      n * p * unit * (2 ^ 53 + 1) ^ 2 / 2 ^ 106 * unit := by
    field_simp
  have hproduct : (x : ℚ) * y < limit * unit := by
    calc (x : ℚ) * y ≤ n * unit * (1 + 1 / 2 ^ 53) * (p * unit * (1 + 1 / 2 ^ 53)) :=
          mul_le_mul hx hy (Nat.cast_nonneg _) (by positivity)
      _ = n * p * unit * (2 ^ 53 + 1) ^ 2 / 2 ^ 106 * unit := hsquare
      _ < limit * unit := by
          refine mul_lt_mul_of_pos_right ?_ hunit'
          rw [div_lt_iff₀ (by positivity)]
          exact lt_of_lt_of_le hstep hgap
  have hgoal : (x : ℚ) * y * unit < limit * (unit * unit) := by
    rw [← mul_assoc]
    exact mul_lt_mul_of_pos_right hproduct hunit'
  exact_mod_cast hgoal

/-- The greatest magnitude but one, in units. -/
def secondUnits : ℕ := (2 ^ 53 - 2) * 2 ^ 2045

/-- How the decimals of 17 digits lie around the greatest magnitudes: up to the first one nothing overflows, not
even with two rounded factors, and from the last one on everything is above the greatest magnitude but one. -/
theorem bounds_near_greatest :
    17976931348623140 * 10 ^ 292 * unitsPerOne * (2 ^ 53 + 1) ^ 2 ≤ overflowUnits * 2 ^ 106 ∧
      10 ^ 308 * unitsPerOne + overflowGap ≤ 17976931348623140 * 10 ^ 292 * unitsPerOne ∧
      secondUnits + overflowGap < 17976931348623158 * 10 ^ 292 * unitsPerOne ∧
      2 ^ 53 * 2 ^ 2045 + overflowGap ≤ 10 ^ 309 * unitsPerOne := by
  decide +kernel

/-- Multiplying by a power of ten gives a magnitude if the exact product is not next to the greatest
one. -/
theorem scaled?_isSome_of_lt {n k : ℕ} (hn : n < 2 ^ 64) (hk : k ≤ 308)
    (h : n * 10 ^ k < 17976931348623140 * 10 ^ 292) : (scaled? n k).isSome = true := by
  rcases Nat.eq_zero_or_pos n with rfl | hpos
  · rw [scaled?_zero]
    rfl
  obtain ⟨x, hx⟩ := exists_nearest?_of_le hn.le
  have hproduct : ∃ y, nearest? (x.units * (powerOfTen k).units) (unitsPerOne * unitsPerOne) = some y := by
    have hlt := mul_lt_of_rounded unitsPerOne_pos bounds_near_greatest.1 h (nearest?_le hpos hx)
      (powerOfTen_le k)
    exact exists_ofUnits? (Nat.mul_pos unitsPerOne_pos unitsPerOne_pos) hlt
  obtain ⟨y, hy⟩ := hproduct
  have hneg : ¬ (k : ℤ) < 0 := by omega
  have hle : (k : ℤ) ≤ 308 := by omega
  rw [scaled?, hx, Option.bind_some, scale?, if_neg hneg, if_pos hle]
  split
  · rfl
  · rw [Magnitude.product, Int.natAbs_natCast, Binary64.ofRatio, hy]
    rfl

/-- The 18 decimals of 17 digits next to the greatest magnitude can be scaled. -/
theorem scaled?_isSome_of_near {m : ℕ} (hlow : 17976931348623140 ≤ m) (hhigh : m < 17976931348623158) :
    (scaled? (trimZeros ⟨m, 292⟩).coefficient (trimZeros ⟨m, 292⟩).exponent).isSome = true := by
  have hall : ∀ k < 18, (scaled? (trimZeros ⟨17976931348623140 + k, 292⟩).coefficient
      (trimZeros ⟨17976931348623140 + k, 292⟩).exponent).isSome = true := by
    decide +kernel
  obtain ⟨k, rfl⟩ := Nat.exists_eq_add_of_le hlow
  exact hall k (by omega)

/-! ## The shortest decimals -/

/-- The greatest magnitude. -/
def greatest : Magnitude := ⟨2 ^ 53 - 1, 2045, by decide, by decide, .inr (by decide)⟩

theorem scaled?_shortest_greatest :
    (scaled? (greatest.shortest .even).coefficient (greatest.shortest .even).exponent).isSome = true := by
  decide +kernel

theorem units_le_secondUnits {x : Magnitude} (h : x ≠ greatest) : x.units ≤ secondUnits := by
  have hbound : ∀ k, x.scale ≤ k → ¬ (x.mantissa = 2 ^ 53 - 1 ∧ x.scale = k) →
      x.units ≤ (2 ^ 53 - 2) * 2 ^ k := by
    intro k hk hne
    have hlt := x.mantissa_lt
    rcases Nat.lt_or_ge x.scale k with hscale | hscale
    · calc x.units ≤ (2 ^ 53 - 1) * 2 ^ x.scale := Nat.mul_le_mul_right _ (by omega)
        _ ≤ (2 ^ 53 - 2) * 2 ^ (x.scale + 1) := by
            rw [Nat.pow_succ 2 x.scale]
            omega
        _ ≤ (2 ^ 53 - 2) * 2 ^ k := Nat.mul_le_mul_left _ (Nat.pow_le_pow_right (by decide) hscale)
    · obtain rfl : x.scale = k := by omega
      exact Nat.mul_le_mul_right _ (by omega)
  refine hbound 2045 x.scale_le fun ⟨hmantissa, hscale⟩ => h ?_
  cases x
  simp only at hmantissa hscale
  subst hmantissa hscale
  rfl

theorem lt_of_mul_pow_lt {c k m : ℕ} (hc : 0 < c) (h : c * 10 ^ k < 10 ^ m) : k < m :=
  (Nat.pow_lt_pow_iff_right (by decide)).mp ((Nat.le_mul_of_pos_left _ hc).trans_lt h)

theorem exponent_eq_of_le {x : Magnitude} (h : x.isZero = false) (hle : 10 ^ 308 * unitsPerOne ≤ x.units) :
    x.exponent = 308 := by
  have hunit : (0 : ℚ) < unitsPerOne := by exact_mod_cast unitsPerOne_pos
  have hlow : (10 : ℚ) ^ ((308 : ℕ) : ℤ) ≤ x.value := by
    rw [Magnitude.value, le_div_iff₀ hunit, ← natCast_pow]
    exact_mod_cast hle
  have hlt := (zpow_lt_zpow_iff_right₀ (show (1 : ℚ) < 10 by norm_num)).mp
    (lt_of_le_of_lt hlow (exponent_spec h).2)
  exact le_antisymm (exponent_bounds h).2 (Int.lt_add_one_iff.mp hlt)

/-- Next to the greatest magnitude, the shortest decimal is one of 17 digits, up to zeros at its end. -/
theorem exists_shortest_near {x : Magnitude} (h : x.isZero = false) (hexponent : x.exponent = 308) :
    ∃ m : ℕ, 0 < m ∧ x.shortest .even = trimZeros ⟨m, 292⟩ := by
  obtain ⟨n, c, hn, hn', hc, -, hd, -⟩ := exists_shortest .even h
  refine ⟨c * 10 ^ (17 - n), Nat.mul_pos hc (Nat.pow_pos (by decide)), ?_⟩
  have hplace : (308 : ℤ) - (n - 1 : ℕ) = 292 + (17 - n : ℕ) := by omega
  rw [hd, trimZeros_mul hc.ne', hexponent, hplace]

theorem coefficient_mul_pow {d : Decimal} {m e k : ℕ} (hm : 0 < m) (hd : d = trimZeros ⟨m, e⟩)
    (hk : d.exponent = k) : d.coefficient * 10 ^ k = m * 10 ^ e := by
  have hvalue : d.value = (m * 10 ^ e : ℕ) := by
    rw [hd, value_trimZeros _ hm.ne', Decimal.value, Nat.cast_mul, natCast_pow]
  rw [Decimal.value, hk, ← natCast_pow, ← Nat.cast_mul] at hvalue
  exact Nat.cast_injective hvalue

/-- The shortest decimal, in units, is hardly above the magnitude. -/
theorem shortest_units_le {x : Magnitude} (h : x.isZero = false) {k : ℕ}
    (hk : (x.shortest .even).exponent = k) :
    (x.shortest .even).coefficient * 10 ^ k * unitsPerOne ≤ x.units + overflowGap := by
  have hvalue := (shortest_spec .even h).2.2
  have hunit : (0 : ℚ) < unitsPerOne := by exact_mod_cast unitsPerOne_pos
  rw [Decimal.value, hk, ← natCast_pow, ← Nat.cast_mul, Magnitude.value, ← add_div,
    le_div_iff₀ hunit] at hvalue
  exact_mod_cast hvalue

/-- The shortest decimal of a magnitude can be scaled. -/
theorem scaled?_shortest {x : Magnitude} (h : x.isZero = false) :
    (scaled? (x.shortest .even).coefficient (x.shortest .even).exponent).isSome = true := by
  obtain ⟨-, hfar, hbelow, hmost⟩ := bounds_near_greatest
  obtain ⟨hpos, hle, -⟩ := shortest_spec .even h
  by_cases hneg : (x.shortest .even).exponent < 0
  · exact scaled?_isSome_of_neg (by omega) hneg
  obtain ⟨k, hk⟩ : ∃ k : ℕ, (x.shortest .even).exponent = k := ⟨_, (Int.toNat_of_nonneg (by omega)).symm⟩
  have hunits := shortest_units_le h hk
  have hk308 : k < 309 := by
    have hlt := lt_of_lt_of_le (Nat.add_lt_add_right x.units_lt overflowGap) hmost
    exact lt_of_mul_pow_lt hpos (Nat.lt_of_mul_lt_mul_right (lt_of_le_of_lt hunits hlt))
  by_cases hlt : (x.shortest .even).coefficient * 10 ^ k < 17976931348623140 * 10 ^ 292
  · rw [hk]
    exact scaled?_isSome_of_lt (hle.trans_lt (by decide)) (Nat.lt_succ_iff.mp hk308) hlt
  by_cases hmax : x = greatest
  · rw [hmax]
    exact scaled?_shortest_greatest
  -- The decimal is next to the greatest magnitude, and `x` is below this one.
  have hexponent : x.exponent = 308 := by
    have hle : 10 ^ 308 * unitsPerOne + overflowGap ≤ x.units + overflowGap :=
      hfar.trans ((Nat.mul_le_mul_right unitsPerOne (Nat.not_lt.mp hlt)).trans hunits)
    exact exponent_eq_of_le h (Nat.le_of_add_le_add_right hle)
  obtain ⟨m, hm, htrim⟩ := exists_shortest_near h hexponent
  rw [coefficient_mul_pow (e := 292) hm htrim hk] at hlt hunits
  have hlow : 17976931348623140 ≤ m :=
    Nat.le_of_mul_le_mul_right (Nat.not_lt.mp hlt) (by positivity)
  have hhigh : m < 17976931348623158 := by
    have hlt := lt_of_le_of_lt
      (hunits.trans (Nat.add_le_add_right (units_le_secondUnits hmax) overflowGap)) hbelow
    exact Nat.lt_of_mul_lt_mul_right (Nat.lt_of_mul_lt_mul_right hlt)
  rw [htrim]
  exact scaled?_isSome_of_near hlow hhigh

end NumberLiteral

/-! ## Texts -/

section

open NumberLiteral

/-- With its sign and in front of anything that does not go on with a number, the text is scanned as a finite
number of this sign. -/
def ScansAsFinite (negative : Bool) (cs : List Char) : Prop :=
  ∃ y, ∀ rest, NumberEnds rest →
    scanNumber? (signed negative cs ++ rest) = some (.real (.finite negative y), rest)

/-- Digits with a point or an exponent are scanned as a finite number if they can be scaled. -/
theorem scansAsFinite_literal (negative : Bool) {ds fs : List ℕ} (hne : ds ≠ [])
    (hlead : ∀ more, ds = 0 :: more → more = []) (hds : ∀ d ∈ ds, d < 10) (hfs : ∀ d ∈ fs, d < 10)
    {power : Option ℤ} (hreal : fs ≠ [] ∨ power.isSome = true) (hlt : ofDigits 10 (ds ++ fs) < 2 ^ 64)
    (hscaled : (scaled? (ofDigits 10 (ds ++ fs)) (power.getD 0 - fs.length)).isSome = true) :
    ScansAsFinite negative (pointed (ds.map Nat.digitChar) (fs.map Nat.digitChar) ++ powerText power) := by
  obtain ⟨y, hy⟩ := Option.isSome_iff_exists.mp hscaled
  refine ⟨y, fun rest hrest => ?_⟩
  rw [scanNumber?_literal negative hne hlead hds hfs power hrest, value?_of_lt negative hlt hreal, hy]
  rfl

variable {d : Decimal}

/-- A decimal with digits behind the point. -/
theorem scansAsFinite_pointText (negative : Bool) (he : d.exponent < 0) (hc : d.coefficient < 2 ^ 64) :
    ScansAsFinite negative d.positional := by
  have hplaces : 0 < d.exponent.natAbs := by omega
  have hlength := length_paddedDigits hplaces
    (Nat.mod_lt d.coefficient (Nat.pow_pos (show 0 < 10 by decide)))
  have hne : paddedDigits d.exponent.natAbs (d.coefficient % 10 ^ d.exponent.natAbs) ≠ [] :=
    List.length_pos_iff.mp (hplaces.trans_eq hlength.symm)
  have htext : d.positional = pointed
      ((digits 10 (d.coefficient / 10 ^ d.exponent.natAbs)).map Nat.digitChar)
      ((paddedDigits d.exponent.natAbs (d.coefficient % 10 ^ d.exponent.natAbs)).map Nat.digitChar) ++
        powerText none := by
    rw [positional, if_pos he, pointText, if_neg hplaces.ne', pointed, if_neg (by simpa using hne),
      paddedNumeral_eq, powerText, List.append_nil]
    rfl
  have hexponent : (0 : ℤ) - d.exponent.natAbs = d.exponent := by omega
  rw [htext]
  refine scansAsFinite_literal negative (digits_ne_nil 10 _) (fun _ => eq_nil_of_digits_eq_cons (by decide))
    (fun _ => lt_of_mem_digits (by decide)) (fun _ => lt_of_mem_paddedDigits) (.inl hne) ?_ ?_
  · rwa [ofDigits_split hplaces]
  · rw [ofDigits_split hplaces, hlength, Option.getD_none, hexponent]
    exact scaled?_isSome_of_neg hc he

/-- An integer with a zero behind the point. -/
theorem scansAsFinite_pointZero (negative : Bool) (he : 0 ≤ d.exponent)
    (hc : d.coefficient * 10 ^ d.exponent.natAbs < 10 ^ 17) :
    ScansAsFinite negative (d.positional ++ ['.', '0']) := by
  have htext : d.positional ++ ['.', '0'] =
      pointed ((digits 10 (d.coefficient * 10 ^ d.exponent.natAbs)).map Nat.digitChar)
        ([0].map Nat.digitChar) ++ powerText none := by
    rw [positional, if_neg (by omega), powerText, List.append_nil]
    rfl
  have hvalue : ofDigits 10 (digits 10 (d.coefficient * 10 ^ d.exponent.natAbs) ++ [0]) =
      d.coefficient * 10 ^ d.exponent.natAbs * 10 := by
    rw [ofDigits_append, ofDigits_digits]
    rfl
  have hlt : d.coefficient * 10 ^ d.exponent.natAbs * 10 < 2 ^ 64 := by omega
  rw [htext]
  refine scansAsFinite_literal negative (digits_ne_nil 10 _) (fun _ => eq_nil_of_digits_eq_cons (by decide))
    (fun _ => lt_of_mem_digits (by decide)) (by decide) (.inl (List.cons_ne_nil _ _)) ?_ ?_
  · rwa [hvalue]
  · rw [hvalue]
    exact scaled?_isSome_of_neg hlt (by decide)

/-- A decimal with an exponent. -/
theorem scansAsFinite_scientific (negative : Bool) (hc : d.coefficient < 2 ^ 64)
    (hscaled : (scaled? d.coefficient d.exponent).isSome = true) :
    ScansAsFinite negative d.scientific := by
  obtain ⟨first, fs, hdigits⟩ := List.exists_cons_of_ne_nil (digits_ne_nil 10 d.coefficient)
  have hlt : ∀ i ∈ first :: fs, i < 10 := fun i hi => lt_of_mem_digits (by decide) (hdigits ▸ hi)
  have htext : d.scientific =
      pointed ([first].map Nat.digitChar) (fs.map Nat.digitChar) ++ powerText (some d.leading) := by
    rw [scientific, numeral, hdigits, List.map_cons, mantissaText_eq]
    rfl
  have hvalue : ofDigits 10 ([first] ++ fs) = d.coefficient := by
    rw [List.singleton_append, ← hdigits, ofDigits_digits]
  have hexponent : d.leading - fs.length = d.exponent := by
    rw [leading, digitCount, hdigits, List.length_cons]
    omega
  rw [htext]
  refine scansAsFinite_literal negative (List.cons_ne_nil _ _) ?_ ?_ ?_ (.inr rfl) ?_ ?_
  · exact fun more h => (List.cons.inj h).2.symm
  · exact fun i hi => hlt i (List.mem_singleton.mp hi ▸ List.mem_cons_self)
  · exact fun i hi => hlt i (List.mem_cons_of_mem _ hi)
  · rwa [hvalue]
  · rw [hvalue, Option.getD_some, hexponent]
    exact hscaled

/-- The coefficient and the power of ten of the number that is written. -/
theorem shortest_bounds (x : Magnitude) :
    (x.shortest .even).coefficient < 2 ^ 64 ∧
      (scaled? (x.shortest .even).coefficient (x.shortest .even).exponent).isSome = true := by
  by_cases h : x.isZero = true
  · rw [shortest, if_pos h]
    exact ⟨by decide, by rw [scaled?_zero]; rfl⟩
  · have h : x.isZero = false := by simpa using h
    exact ⟨(shortest_spec .even h).2.1.trans_lt (by decide), scaled?_shortest h⟩

/-- An integer that is written without an exponent has at most 16 digits. -/
theorem lt_of_leading_le (he : 0 ≤ d.exponent) (h : d.leading ≤ 15) :
    d.coefficient * 10 ^ d.exponent.natAbs < 10 ^ 16 := by
  rw [leading] at h
  calc d.coefficient * 10 ^ d.exponent.natAbs
      < 10 ^ digitCount d.coefficient * 10 ^ d.exponent.natAbs :=
        Nat.mul_lt_mul_of_pos_right (lt_pow_digitCount _) (Nat.pow_pos (by decide))
    _ = 10 ^ (digitCount d.coefficient + d.exponent.natAbs) := (Nat.pow_add _ _ _).symm
    _ ≤ 10 ^ 16 := Nat.pow_le_pow_right (by decide) (by omega)

theorem numberStyle_render (x : Magnitude) :
    numberStyle.render x =
      if -5 ≤ (x.shortest .even).leading ∧ (x.shortest .even).leading ≤ 15 then
        (x.shortest .even).positional ++ (if 0 ≤ (x.shortest .even).exponent then ['.', '0'] else [])
      else (x.shortest .even).scientific := by
  have htie : numberStyle.tie = .even := rfl
  have hpoint : numberStyle.pointZero = true := rfl
  have hposition : ∀ e, numberStyle.isPositional e = (decide (-5 ≤ e) && decide (e ≤ 15)) := fun _ => rfl
  simp only [ShortestStyle.render, htie, hpoint, hposition, Bool.true_and, Bool.and_eq_true,
    decide_eq_true_eq]

/-- The text of a finite number is scanned as a finite number of the same sign. -/
theorem scansAsFinite_render (negative : Bool) (x : Magnitude) :
    ScansAsFinite negative (numberStyle.render x) := by
  obtain ⟨hc, hscaled⟩ := shortest_bounds x
  rw [numberStyle_render]
  by_cases hposition : -5 ≤ (x.shortest .even).leading ∧ (x.shortest .even).leading ≤ 15
  · rw [if_pos hposition]
    by_cases he : 0 ≤ (x.shortest .even).exponent
    · have hlt := lt_of_leading_le he hposition.2
      rw [if_pos he]
      exact scansAsFinite_pointZero negative he (by omega)
    · rw [if_neg he, List.append_nil]
      exact scansAsFinite_pointText negative (by omega) hc
  · rw [if_neg hposition]
    exact scansAsFinite_scientific negative hc hscaled

end

end Stencil.Json
