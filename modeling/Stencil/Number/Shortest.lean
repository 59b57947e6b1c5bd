import Stencil.Number.Binary64
import Stencil.Number.Decimal

/-!
# Shortest decimals and displayed numbers

The shortest decimal that reads back as a given binary64 magnitude, and of those the nearest one.
Reading rounds to the nearest magnitude, so what reads back as `x` is the interval between the
midpoints to its neighbours; the midpoints belong to it if the mantissa is even.

* `Magnitude.readsBack`: membership in this interval.
* `Magnitude.shortest`: the decimal.
* `ShortestStyle`: what a kind of output decides about its layout.
* `Binary64.displayText`: the default text of a number, which never has an exponent.
-/

namespace Stencil.Number

namespace Magnitude

/-- The lower end of the interval, in quarters of a unit. The gap below a power of two is half as
wide as the gap above it. -/
def lowEnd (x : Magnitude) : Nat :=
  4 * x.units - (if x.mantissa = 2 ^ 52 ∧ x.scale ≠ 0 then 2 ^ x.scale else 2 * 2 ^ x.scale)

/-- The upper end of the interval, in quarters of a unit. -/
def highEnd (x : Magnitude) : Nat := 4 * x.units + 2 * 2 ^ x.scale

/-- The decimal is in the interval that rounds to `x`. -/
def readsBack (x : Magnitude) (d : Decimal) : Bool :=
  let value := 4 * unitsPerOne * d.numerator
  if x.mantissa % 2 = 0 then
    x.lowEnd * d.denominator ≤ value && value ≤ x.highEnd * d.denominator
  else x.lowEnd * d.denominator < value && value < x.highEnd * d.denominator

/-- The nearest decimal of `n` digits that reads back as `x`. -/
def shortestOf? (tie : Tie) (x : Magnitude) (n : Nat) : Option Decimal :=
  let exponent := leadingExponent x.units unitsPerOne - (n - 1 : Nat)
  let (a, b) := scaleDown x.units unitsPerOne exponent
  let low : Decimal := ⟨a / b, exponent⟩
  let high : Decimal := ⟨a / b + 1, exponent⟩
  match x.readsBack low, x.readsBack high with
  | true, true => some ⟨roundDiv tie a b, exponent⟩
  | true, false => some low
  | false, true => some high
  | false, false => none

/-- The decimal of `n` digits nearest to `x`. -/
def nearestOf (tie : Tie) (x : Magnitude) (n : Nat) : Decimal :=
  let exponent := leadingExponent x.units unitsPerOne - (n - 1 : Nat)
  let (a, b) := scaleDown x.units unitsPerOne exponent
  ⟨roundDiv tie a b, exponent⟩

/-- The shortest decimal that reads back as `x`, nearest to it among those of its length. No
magnitude needs more than 17 digits. -/
def shortest (tie : Tie) (x : Magnitude) : Decimal :=
  if x.isZero then ⟨0, 0⟩
  else (((List.range' 1 17).findSome? (x.shortestOf? tie)).getD (x.nearestOf tie 17)).trimZeros

end Magnitude

/-- How a kind of output lays out the shortest decimal of a number. -/
structure ShortestStyle where
  /-- Which of two equally near decimals is taken. -/
  tie : Tie
  /-- The powers of ten of the first digit for which no exponent is written. -/
  isPositional : Int → Bool
  /-- A `.0` follows the digits of an integer that has no exponent. -/
  pointZero : Bool

/-- The text of a magnitude in a style. -/
def ShortestStyle.render (style : ShortestStyle) (x : Magnitude) : List Char :=
  let d := x.shortest style.tie
  if style.isPositional d.leading then
    d.positional ++ (if style.pointZero && decide (0 ≤ d.exponent) then ['.', '0'] else [])
  else d.scientific

/-! ## Displayed numbers -/

/-- The shortest decimal, written without an exponent; the larger of two equally near ones. -/
def plainStyle : ShortestStyle := ⟨.away, fun _ => true, false⟩

/-- A minus sign in front of a negative number. -/
def signed (negative : Bool) (cs : List Char) : List Char := if negative then '-' :: cs else cs

namespace Binary64

/-- The shortest decimal of a number. -/
def plainText : Binary64 → List Char
  | .nan => "NaN".toList
  | .infinite negative => signed negative "Infinity".toList
  | .finite negative x => signed negative (plainStyle.render x)

/-- The display text: all digits of an integer, the shortest decimal of any other number. Both zeros
show as `0`. -/
def displayText : Binary64 → List Char
  | .finite negative x =>
    if x.isZero then ['0']
    else if x.isIntegral then signed negative (numeral 10 x.floor)
    else signed negative (plainStyle.render x)
  | x => x.plainText

end Binary64

end Stencil.Number
