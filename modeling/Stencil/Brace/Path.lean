import Stencil.Text.Basic
import Stencil.Value.Member

/-!
# Paths

A key is a path: segments with points between them. Digits as its first segment choose an argument,
which is otherwise the first one, and every further segment goes to a member.

* `splitPath`: the argument and the members.
* `resolve`: the value at the end of a path, or the empty text if there is none.
-/

namespace Stencil.Brace

open Number

/-- A segment that denotes an argument. -/
def isIndex (segment : List Char) : Bool := !segment.isEmpty && segment.all Char.isDigit

/-- The number of the argument and the members of a path; no number if it has too many bits. -/
def splitPath (key : List Char) : Option Nat × List (List Char) :=
  match Text.splitOn '.' key with
  | [] => (some 0, [])
  | first :: more =>
    if isIndex first then ((ofNumeral? 10 first).filter (· < 2 ^ 64), more)
    else (some 0, first :: more)

/-- Goes from member to member. -/
def walk : Value → List (List Char) → StateM Store (Option Value)
  | v, [] => pure (some v)
  | v, segment :: rest => do
    match ← v.member? (String.ofList segment) with
    | some next => walk next rest
    | none => pure none

/-- The value at the end of a path; the empty text if an argument or a member is missing. -/
def resolve (key : List Char) (args : List Value) : StateM Store Value := do
  let (index, segments) := splitPath key
  match index.bind (args[·]?) with
  | none => pure (.text "")
  | some arg => pure ((← walk (← arg.invoked) segments).getD (.text ""))

end Stencil.Brace
