import Stencil.Number.Shortest
import Stencil.Number.Fixed

/-!
# Numbers in fixed-point and exponential fields

All functions take the sign and the magnitude of a finite number. An exact tie is moved away from
zero before it is rounded.

* `fixedText`, `exponentialText`: with a given number of places.
* `fitFixed?`, `fitExponential?`: with as many places as a width leaves room for; none if there is
  none.
-/

namespace Stencil.Real

open Number

/-- A number with `places` digits after the point. -/
def fixedText (negative : Bool) (x : Magnitude) (places : Nat) : List Char :=
  signed negative ((x.offTie places).fixed places)

/-- A number with a point and `width` characters in all. A carry into a new digit takes the place of
the last one. -/
def fitFixed? (negative : Bool) (x : Magnitude) (width : Nat) : Option (List Char) :=
  let whole := (signed negative (numeral 10 x.floor)).length
  if width < whole + 1 then none
  else
    let places := width - (whole + 1)
    let cs := fixedText negative x places
    if width < cs.length ∧ 0 < places then some (fixedText negative x (places - 1)) else some cs

/-- The natural exponential form of a number shows its shortest decimal. -/
def exponentialStyle : ShortestStyle := ⟨.away, fun _ => false, false⟩

/-- A number with an exponent and, if `places` is given, that many digits after the point. -/
def exponentialText (negative : Bool) (x : Magnitude) : Option Nat → List Char
  | some places => signed negative ((x.offTie (places - x.shownExponent)).exponential places)
  | none => signed negative (exponentialStyle.render x)

/-- Drops a point at the end. -/
def dropPoint (cs : List Char) : List Char :=
  if cs.getLast? = some '.' then cs.dropLast else cs

/-- A text with an exponent, in `width` characters: zeros extend its mantissa, or its last digits are
left out. -/
def fitExponential? (cs : List Char) (width : Nat) : Option (List Char) :=
  let mantissa := cs.takeWhile (· ≠ 'e')
  let suffix := cs.dropWhile (· ≠ 'e')
  if cs.length ≤ width then
    let extra := width - cs.length
    if extra = 0 then some cs
    else if '.' ∈ mantissa then some (mantissa ++ List.replicate extra '0' ++ suffix)
    else some (mantissa ++ '.' :: List.replicate (extra - 1) '0' ++ suffix)
  else if width < suffix.length then none
  else
    let kept := dropPoint (mantissa.take (width - suffix.length))
    if kept = [] ∨ kept = ['-'] then none else some (kept ++ suffix)

end Stencil.Real
