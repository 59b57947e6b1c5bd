import Mathlib.Tactic.Ring
import Stencil.Proofs.Number.Decimal

/-!
# Nearest decimals

What it means that a decimal is nearest to a number, among the decimals with so many places or so many
significant digits. Of two equally near ones the greater one counts.

* `Decimal.IsNearest`: the decimal is nearest to a number among those of a kind.
* `IsNearest.value_eq`: all nearest decimals have the same value.
* `isNearest_hasPlaces`, `isNearest_hasDigits`: rounding half up gives the nearest decimal.
* `le_abs_sub_of_hasDigits`: so does rounding any tie either way, if only the distance counts.
-/

namespace Stencil.Number

namespace Decimal

/-- The exact value. -/
def value (d : Decimal) : ℚ := d.coefficient * 10 ^ d.exponent

theorem value_mk (c : ℕ) (e : ℤ) : value ⟨c, e⟩ = c * 10 ^ e := rfl

/-- Among the decimals of a kind this one is nearest to a number; it is the greater of two equally near
ones. -/
structure IsNearest (kind : Decimal → Prop) (v : ℚ) (d : Decimal) : Prop where
  mem : kind d
  nearest : ∀ d', kind d' → |d.value - v| ≤ |d'.value - v|
  greater : ∀ d', kind d' → |d'.value - v| = |d.value - v| → d'.value ≤ d.value

/-- All nearest decimals have the same value. -/
theorem IsNearest.value_eq {kind : Decimal → Prop} {v : ℚ} {d d' : Decimal}
    (h : IsNearest kind v d) (h' : IsNearest kind v d') : d.value = d'.value := by
  have hdist := le_antisymm (h.nearest d' h'.mem) (h'.nearest d h.mem)
  exact le_antisymm (h'.greater d h.mem hdist) (h.greater d' h'.mem hdist.symm)

/-- A decimal with `places` digits after the point. -/
def HasPlaces (places : ℕ) (d : Decimal) : Prop := d.exponent = -places

/-- A decimal with `digits` significant digits. -/
def HasDigits (digits : ℕ) (d : Decimal) : Prop :=
  10 ^ (digits - 1) ≤ d.coefficient ∧ d.coefficient < 10 ^ digits

end Decimal

open Decimal

variable {v g : ℚ} {n places : ℕ} {e : ℤ}

/-! ## Multiples -/

/-- No multiple of `g` is nearer to a number than one that is at most half of `g` away from it. -/
theorem le_abs_sub_of_multiple (hg : 0 < g) (hlow : (n : ℚ) - 1 / 2 ≤ v / g)
    (hhigh : v / g ≤ n + 1 / 2) (m : ℕ) : |n * g - v| ≤ |m * g - v| := by
  rw [le_div_iff₀ hg] at hlow
  rw [div_le_iff₀ hg] at hhigh
  have hnear : |n * g - v| ≤ g / 2 := abs_le.mpr (by constructor <;> linarith)
  rcases Nat.lt_trichotomy m n with hm | rfl | hm
  · have hm : (m : ℚ) + 1 ≤ n := by exact_mod_cast hm
    have hle : (m : ℚ) * g + g ≤ n * g := by nlinarith
    refine hnear.trans ?_
    rw [abs_sub_comm]
    exact le_trans (by linarith) (le_abs_self _)
  · exact le_refl _
  · have hm : (n : ℚ) + 1 ≤ m := by exact_mod_cast hm
    have hle : (n : ℚ) * g + g ≤ m * g := by nlinarith
    exact hnear.trans (le_trans (by linarith) (le_abs_self _))

/-- All other multiples of `g` are farther from a number than one that is less than half of `g` away. -/
theorem abs_sub_lt_of_multiple (hg : 0 < g) (hlow : (n : ℚ) - 1 / 2 < v / g) (hhigh : v / g < n + 1 / 2)
    {m : ℕ} (hne : m ≠ n) : |n * g - v| < |m * g - v| := by
  rw [lt_div_iff₀ hg] at hlow
  rw [div_lt_iff₀ hg] at hhigh
  have hnear : |n * g - v| < g / 2 := abs_lt.mpr (by constructor <;> linarith)
  rcases Nat.lt_or_gt_of_ne hne with hm | hm
  · have hm : (m : ℚ) + 1 ≤ n := by exact_mod_cast hm
    have hle : (m : ℚ) * g + g ≤ n * g := by nlinarith
    refine hnear.trans_le ?_
    rw [abs_sub_comm]
    exact le_trans (by linarith) (le_abs_self _)
  · have hm : (n : ℚ) + 1 ≤ m := by exact_mod_cast hm
    have hle : (n : ℚ) * g + g ≤ m * g := by nlinarith
    exact hnear.trans_le (le_trans (by linarith) (le_abs_self _))

/-- Of two equally near multiples the greater one is half of `g` above the number. -/
theorem le_of_abs_sub_eq (hg : 0 < g) (hhigh : v / g < n + 1 / 2) (m : ℕ)
    (hdist : |m * g - v| = |n * g - v|) : m * g ≤ n * g := by
  rw [div_lt_iff₀ hg] at hhigh
  by_contra hlt
  have hm : (n : ℚ) + 1 ≤ m := by
    have hlt : (n : ℚ) < m := lt_of_mul_lt_mul_right (not_le.mp hlt) hg.le
    exact_mod_cast hlt
  have hle : (n : ℚ) * g + g ≤ m * g := by nlinarith
  rw [abs_of_nonneg (show (0 : ℚ) ≤ m * g - v by linarith)] at hdist
  rcases abs_choice ((n : ℚ) * g - v) with h | h <;> linarith

/-- Past the middle between two multiples the greater one is nearer. -/
theorem abs_sub_succ_lt (hg : 0 < g) (h : (n : ℚ) + 1 / 2 < v / g) :
    |(n + 1 : ℕ) * g - v| < |n * g - v| := by
  rw [lt_div_iff₀ hg] at h
  rw [abs_sub_comm ((n : ℚ) * g), abs_of_nonneg (show (0 : ℚ) ≤ v - n * g by linarith), abs_lt]
  push_cast
  constructor <;> linarith

/-- Rounding half up to `places` digits after the point gives the nearest decimal. -/
theorem isNearest_hasPlaces (hlow : (n : ℚ) - 1 / 2 ≤ v / 10 ^ (-(places : ℤ)))
    (hhigh : v / 10 ^ (-(places : ℤ)) < n + 1 / 2) :
    IsNearest (HasPlaces places) v ⟨n, -places⟩ := by
  have hg : (0 : ℚ) < 10 ^ (-(places : ℤ)) := by positivity
  have hvalue : ∀ d, HasPlaces places d → d.value = d.coefficient * 10 ^ (-(places : ℤ)) :=
    fun d hd => by rw [value, show d.exponent = -places from hd]
  refine ⟨rfl, fun d hd => ?_, fun d hd => ?_⟩
  · rw [hvalue d hd]
    exact le_abs_sub_of_multiple hg hlow hhigh.le d.coefficient
  · rw [hvalue d hd]
    exact le_of_abs_sub_eq hg hhigh d.coefficient

/-! ## Significant digits -/

theorem ten_zpow_eq_mul (e : ℤ) (places : ℕ) :
    (10 : ℚ) ^ e = (10 ^ places : ℕ) * 10 ^ (e - places) := by
  rw [natCast_pow, ← zpow_add₀ (by norm_num)]
  congr 1
  omega

/-- A decimal with at most `places + 1` significant digits is a multiple of the last one's weight at the
exponent `e`, unless it is below `10 ^ e`. -/
theorem multiple_or_lt {d : Decimal} (hd : d.coefficient < 10 ^ (places + 1)) (e : ℤ) :
    (∃ k : ℕ, d.value = k * 10 ^ (e - places)) ∨ d.value < 10 ^ e := by
  by_cases he : e - places ≤ d.exponent
  · obtain ⟨k, hk⟩ : ∃ k : ℕ, d.exponent = k + (e - places) :=
      ⟨(d.exponent - (e - places)).toNat, by omega⟩
    refine .inl ⟨d.coefficient * 10 ^ k, ?_⟩
    rw [value, hk, zpow_add₀ (by norm_num), Nat.cast_mul, natCast_pow, mul_assoc]
  · have hcoefficient : (d.coefficient : ℚ) < 10 ^ ((places + 1 : ℕ) : ℤ) := by
      rw [← natCast_pow]
      exact_mod_cast hd
    have hpow : (10 : ℚ) ^ d.exponent ≤ 10 ^ (e - places - 1) :=
      zpow_le_zpow_right₀ (by norm_num) (by omega)
    refine .inr ?_
    calc d.value < 10 ^ ((places + 1 : ℕ) : ℤ) * 10 ^ d.exponent :=
          mul_lt_mul_of_pos_right hcoefficient (by positivity)
      _ ≤ 10 ^ ((places + 1 : ℕ) : ℤ) * 10 ^ (e - places - 1) :=
          mul_le_mul_of_nonneg_left hpow (by positivity)
      _ = 10 ^ e := by
          rw [← zpow_add₀ (by norm_num)]
          congr 1
          push_cast
          ring

/-- A decimal that is below the power of ten of a number is further away from the number than this
power. -/
theorem abs_sub_lt_of_lt (hv : (10 : ℚ) ^ e ≤ v) {w : ℚ} (hw : w < 10 ^ e) :
    |(10 ^ places : ℕ) * (10 : ℚ) ^ (e - places) - v| < |w - v| := by
  rw [← ten_zpow_eq_mul, abs_sub_comm, abs_of_nonneg (by linarith), abs_sub_comm w,
    abs_of_nonneg (by linarith)]
  linarith

/-- No decimal with `places + 1` significant digits is nearer to a number than the one that the number is
rounded to at its last digit. -/
theorem le_abs_sub_of_hasDigits (hv : (10 : ℚ) ^ e ≤ v)
    (hlow : (n : ℚ) - 1 / 2 ≤ v / 10 ^ (e - places)) (hhigh : v / 10 ^ (e - places) ≤ n + 1 / 2)
    {d : Decimal} (hd : HasDigits (places + 1) d) :
    |n * 10 ^ (e - places) - v| ≤ |d.value - v| := by
  have hmultiple := le_abs_sub_of_multiple (by positivity) hlow hhigh
  rcases multiple_or_lt hd.2 e with ⟨k, hk⟩ | hlt
  · rw [hk]
    exact hmultiple k
  · exact (hmultiple (10 ^ places)).trans (abs_sub_lt_of_lt hv hlt).le

/-- A decimal with `places + 1` significant digits that is as near to a number as an integer less than one
half away from it has the value of this integer. -/
theorem value_eq_of_le_abs_sub (hv : (10 : ℚ) ^ e ≤ v)
    (hlow : (n : ℚ) - 1 / 2 < v / 10 ^ (e - places)) (hhigh : v / 10 ^ (e - places) < n + 1 / 2)
    {d : Decimal} (hd : HasDigits (places + 1) d)
    (hle : |d.value - v| ≤ |n * 10 ^ (e - places) - v|) : d.value = n * 10 ^ (e - places) := by
  have hg : (0 : ℚ) < 10 ^ (e - places) := by positivity
  rcases multiple_or_lt hd.2 e with ⟨k, hk⟩ | hlt
  · rw [lt_div_iff₀ hg] at hlow
    rw [div_lt_iff₀ hg] at hhigh
    rw [hk] at hle ⊢
    have hnear : |(n : ℚ) * 10 ^ (e - places) - v| < 10 ^ (e - places) / 2 :=
      abs_lt.mpr (by constructor <;> linarith)
    obtain ⟨hleft, hright⟩ := abs_lt.mp (lt_of_le_of_lt hle hnear)
    have hkn : (k : ℚ) < n + 1 := lt_of_mul_lt_mul_right (by linarith) hg.le
    have hnk : (n : ℚ) < k + 1 := lt_of_mul_lt_mul_right (by linarith) hg.le
    have hkn : k < n + 1 := by exact_mod_cast hkn
    have hnk : n < k + 1 := by exact_mod_cast hnk
    rw [show k = n by omega]
  · have hbest := le_abs_sub_of_multiple hg hlow.le hhigh.le (10 ^ places)
    exact absurd hle (not_le.mpr (lt_of_le_of_lt hbest (abs_sub_lt_of_lt hv hlt)))

/-- Rounding half up at the last of `places + 1` significant digits gives the nearest decimal with so
many digits. -/
theorem isNearest_hasDigits (hv : (10 : ℚ) ^ e ≤ v)
    (hlow : (n : ℚ) - 1 / 2 ≤ v / 10 ^ (e - places)) (hhigh : v / 10 ^ (e - places) < n + 1 / 2)
    {d : Decimal} (hd : HasDigits (places + 1) d) (hvalue : d.value = n * 10 ^ (e - places)) :
    IsNearest (HasDigits (places + 1)) v d := by
  refine ⟨hd, fun d' hd' => ?_, fun d' hd' hdist => ?_⟩
  · rw [hvalue]
    exact le_abs_sub_of_hasDigits hv hlow hhigh.le hd'
  · rw [hvalue] at hdist ⊢
    rcases multiple_or_lt hd'.2 e with ⟨k, hk⟩ | hlt
    · rw [hk] at hdist ⊢
      exact le_of_abs_sub_eq (by positivity) hhigh k hdist
    · have hle := le_abs_sub_of_multiple (by positivity) hlow hhigh.le (10 ^ places)
      exact absurd hdist (ne_of_gt (lt_of_le_of_lt hle (abs_sub_lt_of_lt hv hlt)))

end Stencil.Number
