import Stencil.Json
import Stencil.Number.Numeral

/-!
# Numbers in JSON texts

An integer that fits in 64 bits is read exactly. For any other number, as many digits as fit in 64
bits are taken as an integer, which is rounded and then scaled by a power of ten in one
multiplication or division of binary64 numbers. The result may therefore differ from the nearest
number in its last place. A number that is too large is refused.

* `NumberLiteral`: the parts of a number as it is written.
* `NumberLiteral.value?`: the number.
-/

namespace Stencil.Number

/-- The number nearest to the product of two magnitudes, with the given sign. -/
def Magnitude.product (negative : Bool) (x y : Magnitude) : Binary64 :=
  .ofRatio negative (x.units * y.units) (unitsPerOne * unitsPerOne)

/-- The number nearest to the quotient of two magnitudes, with the given sign. -/
def Magnitude.quotient (negative : Bool) (x y : Magnitude) : Binary64 :=
  .ofRatio negative x.units y.units

/-- The magnitude of a finite number. -/
def Binary64.magnitude? : Binary64 → Option Magnitude
  | .finite _ x => some x
  | _ => none

end Stencil.Number

namespace Stencil.Json

open Number

/-- A number as it is written: a sign, digits, perhaps a point and digits, perhaps an exponent. -/
structure NumberLiteral where
  negative : Bool
  whole : List Nat
  fraction : Option (List Nat)
  exponent : Option Int

namespace NumberLiteral

/-- Appends digits to a number as long as it fits in 64 bits; gives it and the digits left over. -/
def append (n : Nat) : List Nat → Nat × List Nat
  | [] => (n, [])
  | d :: rest => if n * 10 + d < 2 ^ 64 then append (n * 10 + d) rest else (n, d :: rest)

/-- The magnitude nearest to `10 ^ k`, for a power that is finite. -/
def powerOfTen (k : Nat) : Magnitude := (Magnitude.nearest? (10 ^ k) 1).getD .zero

/-- The magnitude nearest to `x / 10 ^ k`, for a power that is finite. -/
def divideOnce (x : Magnitude) (k : Nat) : Magnitude :=
  (x.quotient false (powerOfTen k)).magnitude?.getD x

/-- Divides an integer of 64 bits by `10 ^ k`, by at most `10 ^ 308` at a time. Nothing is left of it
after two such divisions. -/
def divide (x : Magnitude) (k : Nat) : Magnitude :=
  if k ≤ 308 then divideOnce x k
  else if k ≤ 616 then divideOnce (divideOnce x 308) (k - 308)
  else .zero

/-- The magnitude times `10 ^ exponent`, if it is finite. -/
def scale? (x : Magnitude) (exponent : Int) : Option Magnitude :=
  if x.isZero then some x
  else if exponent < 0 then some (divide x exponent.natAbs)
  else if exponent ≤ 308 then (x.product false (powerOfTen exponent.natAbs)).magnitude?
  else none

/-- The rounded integer `n` times `10 ^ exponent`, if it is finite. -/
def scaled? (n : Nat) (exponent : Int) : Option Magnitude :=
  (Magnitude.nearest? n 1).bind (scale? · exponent)

/-- The number that a literal denotes. -/
def value? (l : NumberLiteral) : Option Json :=
  let (n, dropped) := append 0 l.whole
  match l.fraction, l.exponent, dropped with
  | none, none, [] =>
    if !l.negative then some (.integer n)
    else if n = 0 ∨ 2 ^ 63 < n then some (.real (Binary64.ofRatio true n 1))
    else some (.integer (-n))
  | fraction, exponent, dropped =>
    let digits := fraction.getD []
    let (n, left) := append n digits
    let places : Int := (digits.length - left.length : Nat)
    (scaled? n (dropped.length - places + exponent.getD 0)).map fun x =>
      .real (.finite l.negative x)

end NumberLiteral

end Stencil.Json
