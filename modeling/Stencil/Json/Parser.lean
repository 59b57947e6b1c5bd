import Stencil.Json.Token

/-!
# Reading JSON texts

A text is read token by token. The state between two tokens is the stack of open arrays and objects
together with what may come next.

* `State.step?`: the effect of one token.
* `Json.parse?`: the value of a text.
* `depthLimit`: the number of arrays and objects that may be open at once.
-/

namespace Stencil.Json

/-- An array or object that is open, with what it holds so far. -/
inductive Frame where
  /-- The elements, the last one first. -/
  | array (items : List Json)
  /-- The entries, and the key whose value comes next. -/
  | object (entries : List (String × Json)) (key : String)

/-- What has been read. -/
inductive State where
  /-- A value comes next, or the end of an array that is still empty. -/
  | value (frames : List Frame) (mayClose : Bool)
  /-- A key comes next, or the end of an object that is still empty. -/
  | key (frames : List Frame) (entries : List (String × Json)) (mayClose : Bool)
  /-- The mark between a key and its value comes next. -/
  | colon (frames : List Frame) (entries : List (String × Json)) (key : String)
  /-- A value is complete. -/
  | complete (frames : List Frame) (v : Json)

/-- At most this many arrays and objects may be open at once. -/
def depthLimit : Nat := 127

namespace State

/-- Nothing has been read. -/
def start : State := .value [] false

/-- The effect of a token, if it may come next. -/
def step? : State → Token → Option State
  | value frames _, .scalar v => some (complete frames v)
  | value frames _, .text s => some (complete frames (.text (String.ofList s)))
  | value frames _, .openArray =>
    if frames.length < depthLimit then some (value (.array [] :: frames) true) else none
  | value frames _, .openObject =>
    if frames.length < depthLimit then some (key frames [] true) else none
  | value (.array [] :: frames) true, .closeArray => some (complete frames (.array []))
  | key frames entries _, .text s => some (colon frames entries (String.ofList s))
  | key frames _ true, .closeObject => some (complete frames (.object []))
  | colon frames entries k, .colon => some (value (.object entries k :: frames) false)
  | complete (.array items :: frames) v, .comma => some (value (.array (v :: items) :: frames) false)
  | complete (.array items :: frames) v, .closeArray =>
    some (complete frames (.array (v :: items).reverse))
  | complete (.object entries k :: frames) v, .comma =>
    some (key frames (Entries.insert k v entries) false)
  | complete (.object entries k :: frames) v, .closeObject =>
    some (complete frames (.object (Entries.insert k v entries)))
  | _, _ => none

/-- The value of a text of which everything has been read. -/
def result? : State → Option Json
  | complete [] v => some v
  | _ => none

end State

/-- The value that a text denotes. -/
def parse? (cs : List Char) : Option Json := do
  let tokens ← Token.scan? cs
  let state ← tokens.foldlM State.step? State.start
  state.result?

end Stencil.Json
