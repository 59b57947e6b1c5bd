import Stencil.Number.Numeral

/-!
# Floating-point numbers of 64 bits

The binary64 numbers of IEEE 754, without the payloads of NaN. A finite magnitude is an exact
rational number, `mantissa * 2 ^ scale / 2 ^ 1074`, and every operation here is exact integer
arithmetic on it.

* `roundDiv`: the integer nearest to a quotient; of two equally near ones `Tie` takes one.
* `Magnitude.nearest?`: the magnitude nearest to a quotient of integers.
* `Binary64.ofBits`, `toBits`: the interchange form.
* `Binary64.ofInt`, `ofRatio`: the number nearest to an exact one.
* `Binary64.equals`: numeric equality, in which NaN equals nothing and the zeros are equal.
* `Binary64.truncate?`: the integer part of a finite number.
-/

namespace Stencil.Number

/-! ## Rounding a quotient -/

/-- Which of two equally near neighbours is taken. -/
inductive Tie where
  | even
  | away
  deriving DecidableEq, Repr

/-- The integer nearest to `a / b`. -/
def roundDiv (tie : Tie) (a b : Nat) : Nat :=
  let q := a / b
  let r := a % b
  if 2 * r < b then q
  else if b < 2 * r then q + 1
  else match tie with
    | .even => q + q % 2
    | .away => q + 1

theorem le_roundDiv (tie : Tie) (a b : Nat) : a / b ≤ roundDiv tie a b := by
  cases tie <;> grind [roundDiv]

theorem roundDiv_le (tie : Tie) (a b : Nat) : roundDiv tie a b ≤ a / b + 1 := by
  cases tie <;> grind [roundDiv]

/-- An exact quotient needs no rounding. -/
theorem roundDiv_mul_left (tie : Tie) (q b : Nat) (hb : 0 < b) : roundDiv tie (q * b) b = q := by
  simp [roundDiv, Nat.mul_div_cancel q hb, hb]

/-! ## Magnitudes -/

/-- Every finite number is an integer multiple of `1 / unitsPerOne`. -/
def unitsPerOne : Nat := 2 ^ 1074

/-- The absolute value of a finite number, `mantissa * 2 ^ scale` units of `2 ^ -1074`. -/
structure Magnitude where
  mantissa : Nat
  scale : Nat
  mantissa_lt : mantissa < 2 ^ 53
  scale_le : scale ≤ 2045
  normal : scale = 0 ∨ 2 ^ 52 ≤ mantissa
  deriving DecidableEq

namespace Magnitude

instance : Inhabited Magnitude := ⟨⟨0, 0, by decide, by decide, .inl rfl⟩⟩

def zero : Magnitude := ⟨0, 0, by decide, by decide, .inl rfl⟩

/-- The exact value, in units of `2 ^ -1074`. -/
def units (x : Magnitude) : Nat := x.mantissa * 2 ^ x.scale

def isZero (x : Magnitude) : Bool := x.mantissa == 0

/-- The integer part. -/
def floor (x : Magnitude) : Nat := x.units / unitsPerOne

/-- No fraction follows the integer part. -/
def isIntegral (x : Magnitude) : Bool := x.units % unitsPerOne == 0

/-- The next larger magnitude, if it is finite. -/
def next? (x : Magnitude) : Option Magnitude :=
  if h : x.mantissa + 1 < 2 ^ 53 then
    some ⟨x.mantissa + 1, x.scale, h, x.scale_le, x.normal.imp_right (by omega)⟩
  else if h : x.scale + 1 ≤ 2045 then
    some ⟨2 ^ 52, x.scale + 1, by decide, h, .inr (Nat.le_refl _)⟩
  else none

/-- The scale at which `a / b` units have a mantissa of 53 bits, or 0 if they need fewer. -/
def scaleOf (a b : Nat) : Nat := (a / b).log2 - 52

/-- Below the scale that fits, a mantissa would have too many bits. -/
theorem div_lt_of_scaleOf (a b : Nat) : a / b / 2 ^ scaleOf a b < 2 ^ 53 := by
  rw [Nat.div_lt_iff_lt_mul (Nat.two_pow_pos _), ← Nat.pow_add]
  refine Nat.lt_of_lt_of_le Nat.lt_log2_self (Nat.pow_le_pow_right (by decide) ?_)
  simp only [scaleOf]; omega

/-- A scale above 0 leaves all 53 bits. -/
theorem le_div_of_scaleOf {a b : Nat} (h : scaleOf a b ≠ 0) :
    2 ^ 52 ≤ a / b / 2 ^ scaleOf a b := by
  have hlog : (a / b).log2 = 52 + scaleOf a b := by simp only [scaleOf] at h ⊢; omega
  have hne : a / b ≠ 0 := by intro h0; simp [h0] at hlog; omega
  rw [Nat.le_div_iff_mul_le (Nat.two_pow_pos _), ← Nat.pow_add, ← hlog]
  exact Nat.log2_self_le hne

/-- The magnitude nearest to `a / b` units, ties to the even mantissa; none if it is not finite. -/
def ofUnits? (a b : Nat) : Option Magnitude :=
  let s := scaleOf a b
  if hs : s ≤ 2045 then
    let m := roundDiv .even a (b * 2 ^ s)
    if hm : m < 2 ^ 53 then
      some ⟨m, s, hm, hs, by
        by_cases h0 : scaleOf a b = 0
        · exact .inl h0
        · exact .inr (Nat.le_trans (le_div_of_scaleOf h0)
            (Nat.div_div_eq_div_mul a b _ ▸ le_roundDiv .even a _))⟩
    else if hs' : s + 1 ≤ 2045 then some ⟨2 ^ 52, s + 1, by decide, hs', .inr (Nat.le_refl _)⟩
    else none
  else none

/-- The magnitude nearest to `a / b`, ties to the even mantissa; none if it is not finite. -/
def nearest? (a b : Nat) : Option Magnitude := ofUnits? (a * unitsPerOne) b

end Magnitude

/-! ## Numbers -/

/-- A binary64 number. -/
inductive Binary64 where
  | nan
  | infinite (negative : Bool)
  | finite (negative : Bool) (magnitude : Magnitude)
  deriving DecidableEq

namespace Binary64

def zero : Binary64 := .finite false .zero

instance : Inhabited Binary64 := ⟨zero⟩

/-- The number with the given sign and 63 further bits. -/
def ofParts (negative : Bool) (exponent fraction : Nat) : Binary64 :=
  if exponent = 0x7FF then
    if fraction = 0 then .infinite negative else .nan
  else if h : fraction < 2 ^ 52 ∧ exponent ≤ 2046 then
    if exponent = 0 then .finite negative ⟨fraction, 0, by omega, by decide, .inl rfl⟩
    else .finite negative ⟨2 ^ 52 + fraction, exponent - 1, by omega, by omega, .inr (by omega)⟩
  else .nan

/-- The number with these bits. -/
def ofBits (bits : UInt64) : Binary64 :=
  let n := bits.toNat
  ofParts (decide (2 ^ 63 ≤ n)) (n / 2 ^ 52 % 2 ^ 11) (n % 2 ^ 52)

/-- The bits of a number; NaN has one form. -/
def toBits : Binary64 → UInt64
  | .nan => 0x7FF8000000000000
  | .infinite negative => UInt64.ofNat ((if negative then 2 ^ 63 else 0) + 0x7FF * 2 ^ 52)
  | .finite negative x =>
    let rest := if x.mantissa < 2 ^ 52 then x.mantissa else x.scale * 2 ^ 52 + x.mantissa
    UInt64.ofNat ((if negative then 2 ^ 63 else 0) + rest)

/-- The number nearest to `a / b` with the given sign. -/
def ofRatio (negative : Bool) (a b : Nat) : Binary64 :=
  (Magnitude.nearest? a b).elim (.infinite negative) (.finite negative)

/-- The number nearest to an integer. -/
def ofInt (i : Int) : Binary64 := ofRatio (decide (i < 0)) i.natAbs 1

/-- The number with the value of the 32-bit number with these bits. -/
def ofBits32 (bits : UInt32) : Binary64 :=
  let n := bits.toNat
  let negative := decide (2 ^ 31 ≤ n)
  let exponent := n / 2 ^ 23 % 2 ^ 8
  let fraction := n % 2 ^ 23
  if exponent = 0xFF then if fraction = 0 then .infinite negative else .nan
  else if exponent = 0 then ofRatio negative fraction (2 ^ 149)
  else ofRatio negative ((2 ^ 23 + fraction) * 2 ^ (exponent - 1)) (2 ^ 149)

/-- Numeric equality. -/
def equals : Binary64 → Binary64 → Bool
  | .nan, _ => false
  | .infinite a, .infinite b => a == b
  | .finite a x, .finite b y => x == y && (a == b || x.isZero)
  | _, _ => false

def isFinite : Binary64 → Bool
  | .finite _ _ => true
  | _ => false

/-- The integer part of a finite number, rounded toward zero. -/
def truncate? : Binary64 → Option Int
  | .finite negative x => some (if negative then -(x.floor : Int) else x.floor)
  | _ => none

end Binary64

end Stencil.Number
