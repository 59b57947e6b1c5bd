import Stencil.Number.Binary64
import Stencil.Number.Decimal

/-!
# Decimals of a given length

The exact value of a magnitude, rounded to a given number of places or of significant digits. Both
round an exact tie to the even neighbour.

* `Magnitude.fixed`: a given number of digits after the point.
* `Magnitude.exponential`: a given number of digits after the first one, with an exponent.
* `Magnitude.isTie`: the value is halfway between two neighbouring multiples of a power of ten.
* `Magnitude.offTie`: a magnitude that is a tie, moved away from zero by one step.
-/

namespace Stencil.Number

/-- A positive number as an odd number and the number of times it was halved. -/
def oddPart (n : Nat) : Nat × Nat :=
  if h : n ≠ 0 ∧ n % 2 = 0 then
    let part := oddPart (n / 2)
    (part.1, part.2 + 1)
  else (n, 0)
termination_by n
decreasing_by exact Nat.div_lt_self (by omega) (by decide)

namespace Magnitude

/-- The value with `places` digits after the point. -/
def fixed (places : Nat) (x : Magnitude) : List Char :=
  pointText places (roundDiv .even (x.units * 10 ^ places) unitsPerOne)

/-- The decimal with `places` digits after the first one. -/
def roundSignificant (places : Nat) (x : Magnitude) : Decimal :=
  if x.isZero then ⟨0, -places⟩
  else
    let exponent := leadingExponent x.units unitsPerOne - places
    let (a, b) := scaleDown x.units unitsPerOne exponent
    let coefficient := roundDiv .even a b
    if coefficient = 10 ^ (places + 1) then ⟨10 ^ places, exponent + 1⟩
    else ⟨coefficient, exponent⟩

/-- The value with `places` digits after the first one, and an exponent. -/
def exponential (places : Nat) (x : Magnitude) : List Char :=
  let d := x.roundSignificant places
  mantissaText (paddedNumeral (places + 1) d.coefficient) ++ exponentText (d.exponent + places)

/-- The power of ten of the first digit when 25 significant digits are shown. -/
def shownExponent (x : Magnitude) : Int := (x.roundSignificant 24).exponent + 24

/-- The value is halfway between two neighbouring multiples of `10 ^ -place`, that is, twice its
product with `10 ^ place` is an odd integer. -/
def isTie (place : Int) (x : Magnitude) : Bool :=
  if x.isZero then false
  else
    let (odd, halvings) := oddPart x.mantissa
    if (x.scale + halvings : Int) - 1074 = -(place + 1) then
      if 0 ≤ place then true
      else 5 ^ place.natAbs < 2 ^ 64 && odd % 5 ^ place.natAbs == 0
    else false

/-- A tie at `place` moves to the next larger magnitude; any other value stays. -/
def offTie (place : Int) (x : Magnitude) : Magnitude :=
  if x.isTie place then x.next?.getD x else x

end Magnitude

end Stencil.Number
