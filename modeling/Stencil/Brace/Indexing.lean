import Stencil.Error

/-!
# Implicit and explicit indexing

A placeholder with an empty key takes the next argument, and one with a key says which argument it
takes. A template may use one of the two ways only.
-/

namespace Stencil.Brace

/-- The way of choosing arguments that a template has used so far. -/
inductive IndexingMode where
  | undefined
  | implicit
  | explicit
  deriving DecidableEq, Repr

namespace IndexingMode

/-- The way of a placeholder whose key is empty, or not. -/
def ofEmpty (isEmpty : Bool) : IndexingMode := if isEmpty then implicit else explicit

/-- The name of a mode in messages. -/
def name : IndexingMode → String
  | undefined => "undefined"
  | implicit => "implicit"
  | explicit => "explicit"

/-- The mode after one more placeholder. -/
def observe (mode : IndexingMode) (isEmpty : Bool) : Except Error IndexingMode :=
  let next := ofEmpty isEmpty
  if mode = undefined ∨ mode = next then .ok next
  else .error (.indexingConflict mode.name next.name)

end IndexingMode

end Stencil.Brace
