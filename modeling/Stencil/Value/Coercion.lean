import Stencil.Number.Reading
import Stencil.Value

/-!
# Numbers in values

* `Value.number?`: the finite number that a value stands for. Integers, finite numbers and texts
  that denote one are such values.
* `Value.integer?`: the 64-bit integer that a value stands for. Numbers are cut at the point.
-/

namespace Stencil

open Number

/-- A number without its fraction, if it is in the range of 64-bit integers. -/
def Number.Binary64.toInt64? (x : Binary64) : Option Int64 :=
  match x.truncate? with
  | some i => if inInt64 i then some (.ofInt i) else none
  | none => none

namespace Value

/-- The finite number that a value stands for. -/
def number? : Value → Option Binary64
  | integer i => some (.ofInt i.toInt)
  | real x => if x.isFinite then some x else none
  | text s => Number.number? s
  | _ => none

/-- The 64-bit integer that a value stands for. -/
def integer? : Value → Option Int64
  | integer i => some i
  | real x => x.toInt64?
  | text s => Number.integer? s
  | _ => none

end Value

end Stencil
