import Stencil.Number.Numeral

/-!
# Decimal numbers as texts

* `Decimal`: an integer times a power of ten.
* `pointText places n`: the numeral of `n / 10 ^ places` with `places` digits after the point.
* `Decimal.positional`, `Decimal.scientific`: the two layouts of a decimal.
* `leadingExponent a b`: the power of ten of the first significant digit of `a / b`.
-/

namespace Stencil.Number

/-- The number `coefficient * 10 ^ exponent`. -/
structure Decimal where
  coefficient : Nat
  exponent : Int
  deriving DecidableEq, Repr

/-- The decimal digits of `n`, with zeros in front up to `width` digits. -/
def paddedNumeral (width n : Nat) : List Char :=
  List.replicate (width - digitCount n) '0' ++ numeral 10 n

/-- The numeral of `n / 10 ^ places`, with all its `places` digits after the point. -/
def pointText (places n : Nat) : List Char :=
  if places = 0 then numeral 10 n
  else numeral 10 (n / 10 ^ places) ++ '.' :: paddedNumeral places (n % 10 ^ places)

/-- An exponent with its sign, which is never left out. -/
def exponentText (e : Int) : List Char :=
  'e' :: (if e < 0 then '-' else '+') :: numeral 10 e.natAbs

/-- Digits with a point after the first one, and no point if there is only one. -/
def mantissaText : List Char → List Char
  | [] => []
  | [d] => [d]
  | d :: rest => d :: '.' :: rest

namespace Decimal

/-- The number is `numerator / denominator`. -/
def numerator (d : Decimal) : Nat :=
  if d.exponent < 0 then d.coefficient else d.coefficient * 10 ^ d.exponent.natAbs

/-- The number is `numerator / denominator`. -/
def denominator (d : Decimal) : Nat := if d.exponent < 0 then 10 ^ d.exponent.natAbs else 1

/-- The power of ten of the first digit. -/
def leading (d : Decimal) : Int := d.exponent + digitCount d.coefficient - 1

/-- The same number without zeros at the end of the coefficient. -/
def trimZeros (d : Decimal) : Decimal :=
  if h : d.coefficient ≠ 0 ∧ d.coefficient % 10 = 0 then
    trimZeros ⟨d.coefficient / 10, d.exponent + 1⟩
  else d
termination_by d.coefficient
decreasing_by exact Nat.div_lt_self (by omega) (by decide)

/-- The layout without an exponent. -/
def positional (d : Decimal) : List Char :=
  if d.exponent < 0 then pointText d.exponent.natAbs d.coefficient
  else numeral 10 (d.coefficient * 10 ^ d.exponent.natAbs)

/-- The layout with one digit before the point, and an exponent. -/
def scientific (d : Decimal) : List Char :=
  mantissaText (numeral 10 d.coefficient) ++ exponentText d.leading

end Decimal

/-- The quotient `a / b` divided by a power of ten, as a quotient. -/
def scaleDown (a b : Nat) (e : Int) : Nat × Nat :=
  if e < 0 then (a * 10 ^ e.natAbs, b) else (a, b * 10 ^ e.natAbs)

/-- The power of ten of the first significant digit of `a / b`. -/
def leadingExponent (a b : Nat) : Int :=
  if b ≤ a then (digitCount (a / b) : Int) - 1 else -(digitCount ((b - 1) / a) : Int)

end Stencil.Number
