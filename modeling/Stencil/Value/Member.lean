import Stencil.Number.Reading
import Stencil.Text.Basic
import Stencil.Text.Case
import Stencil.Value

/-!
# Members of values

One step of a path: `v.member? name` is the member of `v` with that name. A mapping has its entries
as members. The members of a sequence are its elements, by position, its length and its ends, and
`pop` and `shift` remove an element. The members of a text are its characters, its length and
changed forms of it. A member that is callable is called.

* `index?`: the position that a name denotes.
* `Value.member?`: the step.
-/

namespace Stencil

open Number

/-- The position that a name denotes: decimal digits, after an optional plus sign, of a number of at
most 64 bits. -/
def index? (name : String) : Option Nat := unsigned? name.toList

/-- A count as a value. -/
def Value.ofCount (n : Nat) : Value := .integer (.ofNat n)

namespace Store

/-- Removes the last element of a sequence and gives it. -/
def pop (id : SequenceId) : StateM Store Value := do
  let items := (← get).heap.elements id
  match items.getLast? with
  | some v => writeSequence id items.dropLast; pure v
  | none => pure .undefined

/-- Removes the first element of a sequence and gives it. -/
def shift (id : SequenceId) : StateM Store Value := do
  match (← get).heap.elements id with
  | v :: rest => writeSequence id rest; pure v
  | [] => pure .undefined

end Store

namespace Value

/-- The member of a sequence, before it is called. -/
def sequenceMember? (id : SequenceId) (name : String) : StateM Store (Option Value) := do
  let items := (← get).heap.elements id
  match index? name with
  | some i => pure items[i]?
  | none =>
    match name with
    | "len" | "length" => pure (some (ofCount items.length))
    | "first" => pure items.head?
    | "last" => pure items.getLast?
    | "pop" => some <$> Store.pop id
    | "shift" => some <$> Store.shift id
    | _ => pure none

/-- The member of a text. -/
def textMember? (s : String) (name : String) : Option Value :=
  match index? name with
  | some i => s.toList[i]?.map fun c => .text (String.singleton c)
  | none =>
    match name with
    | "len" | "length" => some (ofCount s.toList.length)
    | "to_lowercase" | "toLowerCase" => some (.text (Text.lower s))
    | "to_uppercase" | "toUpperCase" => some (.text (Text.upper s))
    | "trim" => some (.text (Text.trimString s))
    | _ => none

/-- The member of a value, before it is called. -/
def heldMember? : Value → String → StateM Store (Option Value)
  | keyed entries, name => pure (Entries.find? name entries)
  | sequence id, name => sequenceMember? id name
  | text s, name => pure (textMember? s name)
  | _, _ => pure none

/-- The member of a value; a callable member is called once. -/
def member? (v : Value) (name : String) : StateM Store (Option Value) := do
  match ← v.heldMember? name with
  | some found => some <$> found.invoked
  | none => pure none

end Value

end Stencil
