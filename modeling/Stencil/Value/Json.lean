import Stencil.Json.Printer
import Stencil.Value.Tree

/-!
# Values and JSON

* `Tree.toJson`: the JSON form of a value. What JSON lacks becomes `null`, but an entry of a mapping
  without a value is left out.
* `Value.ofJson`: the value of a JSON value; an array becomes a new sequence.
-/

namespace Stencil

open Number

/-- A number in JSON: an integer if it is one below `2 ^ 53`, and `null` if it is not finite. -/
def Number.Binary64.toJson : Binary64 → Json
  | .finite negative x =>
    if x.isIntegral && decide (x.floor < 2 ^ 53) then
      .integer (if negative then -(x.floor : Int) else x.floor)
    else .real (.finite negative x)
  | _ => .null

namespace Tree

/-- An entry with this value has no JSON form. -/
def isUnset : Tree → Bool
  | undefined | callable _ => true
  | _ => false

mutual

/-- The JSON form of a value. -/
def toJson : Tree → Json
  | null | undefined | callable _ => .null
  | bool b => .bool b
  | integer i => .integer i.toInt
  | real x => x.toJson
  | text s => .text s
  | sequence _ items => .array (itemsToJson items)
  | keyed entries => .object (entriesToJson entries)
termination_by structural t => t

/-- The JSON forms of elements. -/
def itemsToJson : List Tree → List Json
  | [] => []
  | t :: rest => t.toJson :: itemsToJson rest
termination_by structural ts => ts

/-- The JSON forms of the entries that have one. -/
def entriesToJson : List (String × Tree) → List (String × Json)
  | [] => []
  | (key, t) :: rest =>
    if t.isUnset then entriesToJson rest else (key, t.toJson) :: entriesToJson rest
termination_by structural entries => entries

end

end Tree

namespace Value

/-- The JSON form of a value. -/
def toJson (heap : Heap) (v : Value) : Json := (v.unfold heap).toJson

mutual

/-- The value of a JSON value. -/
def ofJson : Json → StateM Store Value
  | .null => pure .null
  | .bool b => pure (.bool b)
  | .integer i =>
    pure (if i < 2 ^ 63 then .integer (.ofInt i) else .real (.ofInt i))
  | .real x => pure (.real x)
  | .text s => pure (.text s)
  | .array items => do Store.newSequence (← ofJsonItems items)
  | .object entries => do pure (.keyed (← ofJsonEntries entries))
termination_by structural v => v

/-- The values of the elements of an array, in order. -/
def ofJsonItems : List Json → StateM Store (List Value)
  | [] => pure []
  | v :: rest => do
    let first ← ofJson v
    pure (first :: (← ofJsonItems rest))
termination_by structural items => items

/-- The values of the entries of an object, in order. -/
def ofJsonEntries : List (String × Json) → StateM Store (List (String × Value))
  | [] => pure []
  | (key, v) :: rest => do
    let first ← ofJson v
    pure ((key, first) :: (← ofJsonEntries rest))
termination_by structural entries => entries

end

end Value

end Stencil
