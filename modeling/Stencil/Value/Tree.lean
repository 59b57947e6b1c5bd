import Stencil.Number.Shortest
import Stencil.Value

/-!
# Values as trees

A `Tree` is a value with all the sequences below it unfolded: what a value looks like at one moment.
A sequence keeps its number, so that two handles on one sequence can be told from two equal ones.

* `Value.unfold`: the tree of a value in a heap.
* `Tree.display`: the default text of a tree.
* `Tree.equals`: equality of values.
* `Heap.Acyclic`: every sequence holds earlier sequences only.
-/

namespace Stencil

open Number

/-- A value with its sequences unfolded. -/
inductive Tree where
  | null
  | undefined
  | bool (b : Bool)
  | integer (i : Int64)
  | real (x : Binary64)
  | text (s : String)
  | sequence (id : SequenceId) (items : List Tree)
  | keyed (entries : List (String × Tree))
  | callable (id : CallableId)
  deriving Inhabited

mutual

/-- The tree of a value, given the trees of the sequences. -/
def Value.unfoldWith (sequences : SequenceId → Tree) : Value → Tree
  | .null => .null
  | .undefined => .undefined
  | .bool b => .bool b
  | .integer i => .integer i
  | .real x => .real x
  | .text s => .text s
  | .sequence id => sequences id
  | .keyed entries => .keyed (Value.unfoldEntries sequences entries)
  | .callable id => .callable id
termination_by structural v => v

/-- The trees of the values of entries. -/
def Value.unfoldEntries (sequences : SequenceId → Tree) : List (String × Value) → List (String × Tree)
  | [] => []
  | (key, v) :: rest => (key, v.unfoldWith sequences) :: Value.unfoldEntries sequences rest
termination_by structural entries => entries

end

namespace Heap

/-- The tree of a sequence, down to `depth` sequences below each other. -/
def unfold (heap : Heap) : Nat → SequenceId → Tree
  | 0, id => .sequence id []
  | depth + 1, id => .sequence id ((heap.elements id).map (Value.unfoldWith (heap.unfold depth)))

end Heap

/-- The tree of a value. In an acyclic heap no chain of sequences is longer than the heap. -/
def Value.unfold (heap : Heap) (v : Value) : Tree := v.unfoldWith (heap.unfold heap.size)

namespace Tree

/-- `null` and `undefined`. -/
def isNullish : Tree → Bool
  | null | undefined => true
  | _ => false

mutual

/-- The default text. -/
def display : Tree → List Char
  | null => "null".toList
  | undefined => "undefined".toList
  | bool b => (if b then "true" else "false").toList
  | integer i => intNumeral i.toInt
  | real x => x.displayText
  | text s => s.toList
  | sequence _ items => displayItems items
  | keyed _ => "[object Object]".toList
  | callable _ => "[function]".toList
termination_by structural t => t

/-- The texts of the elements of a sequence with commas between them; `null` and `undefined` show as
nothing. -/
def displayItems : List Tree → List Char
  | [] => []
  | [t] => if t.isNullish then [] else t.display
  | t :: rest => (if t.isNullish then [] else t.display) ++ ',' :: displayItems rest
termination_by structural ts => ts

end

mutual

/-- Equality of values. An integer equals the number it rounds to, and a sequence equals itself
whatever it holds. -/
def equals : Tree → Tree → Bool
  | null, null => true
  | undefined, undefined => true
  | bool a, bool b => a == b
  | integer a, integer b => a == b
  | real a, real b => a.equals b
  | integer a, real b => (Binary64.ofInt a.toInt).equals b
  | real a, integer b => (Binary64.ofInt b.toInt).equals a
  | text a, text b => a == b
  | sequence i as, sequence j bs => i == j || equalsItems as bs
  | keyed as, keyed bs => equalsEntries as bs
  | callable i, callable j => i == j
  | _, _ => false
termination_by structural a => a

/-- Equality of the elements of two sequences. -/
def equalsItems : List Tree → List Tree → Bool
  | [], [] => true
  | a :: as, b :: bs => a.equals b && equalsItems as bs
  | _, _ => false
termination_by structural as => as

/-- Equality of the entries of two mappings. -/
def equalsEntries : List (String × Tree) → List (String × Tree) → Bool
  | [], [] => true
  | (i, a) :: as, (j, b) :: bs => i == j && a.equals b && equalsEntries as bs
  | _, _ => false
termination_by structural as => as

end

end Tree

/-- The default text of a value. -/
def Value.display (heap : Heap) (v : Value) : String := String.ofList (v.unfold heap).display

/-- Equality of values. -/
def Value.equals (heap : Heap) (a b : Value) : Bool := (a.unfold heap).equals (b.unfold heap)

mutual

/-- Every sequence that the value holds directly has a number below `bound`. -/
def Value.RefersBelow (bound : Nat) : Value → Prop
  | .sequence id => id.index < bound
  | .keyed entries => Value.EntriesReferBelow bound entries
  | _ => True
termination_by structural v => v

/-- The same for the values of entries. -/
def Value.EntriesReferBelow (bound : Nat) : List (String × Value) → Prop
  | [] => True
  | (_, v) :: rest => v.RefersBelow bound ∧ Value.EntriesReferBelow bound rest
termination_by structural entries => entries

end

/-- Every sequence holds earlier sequences only. -/
def Heap.Acyclic (heap : Heap) : Prop :=
  ∀ id : SequenceId, ∀ v ∈ heap.elements id, v.RefersBelow id.index

end Stencil
