import Stencil.Number.Binary64
import Stencil.Entries

/-!
# Values and the store they live in

An argument of a template is a `Value`. Sequences and callables are shared: a value holds the
number of the sequence or callable, and its contents are in the `Store`. All holders of a number
see the same removals and the same calls.

* `Value`: what a template can be given.
* `Heap`: the elements of all sequences; a new one gets the next number.
* `Callable`: a function without parameters, which may behave differently at each call.
* `Store`: the heap and the callables.
-/

namespace Stencil

open Number

/-- The number of a sequence in the heap. -/
structure SequenceId where
  index : Nat
  deriving DecidableEq, Repr

/-- The number of a callable in the store. -/
structure CallableId where
  index : Nat
  deriving DecidableEq, Repr

/-- An argument of a template, or a part of one. -/
inductive Value where
  | null
  | undefined
  | bool (b : Bool)
  | integer (i : Int64)
  | real (x : Binary64)
  | text (s : String)
  | sequence (id : SequenceId)
  /-- A mapping; its keys increase. -/
  | keyed (entries : List (String × Value))
  | callable (id : CallableId)
  deriving Inhabited

namespace Value

/-- `null` and `undefined`, which stand for no value. -/
def isNullish : Value → Bool
  | null | undefined => true
  | _ => false

/-- The contents of a text value. -/
def text? : Value → Option String
  | text s => some s
  | _ => none

end Value

/-- The elements of every sequence. -/
structure Heap where
  cells : Array (List Value)

namespace Heap

def empty : Heap := ⟨#[]⟩

/-- The number of sequences. -/
def size (heap : Heap) : Nat := heap.cells.size

/-- The elements of a sequence. -/
def elements (heap : Heap) (id : SequenceId) : List Value := heap.cells[id.index]?.getD []

/-- Adds a sequence with these elements. -/
def allocate (heap : Heap) (items : List Value) : SequenceId × Heap :=
  (⟨heap.cells.size⟩, ⟨heap.cells.push items⟩)

/-- Replaces the elements of a sequence. -/
def write (heap : Heap) (id : SequenceId) (items : List Value) : Heap :=
  ⟨heap.cells.setIfInBounds id.index items⟩

theorem elements_allocate_self (heap : Heap) (items : List Value) :
    (heap.allocate items).2.elements (heap.allocate items).1 = items := by
  simp [elements, allocate]

theorem elements_write_of_ne (heap : Heap) {id other : SequenceId} (items : List Value)
    (h : id ≠ other) : (heap.write id items).elements other = heap.elements other := by
  have h' : id.index ≠ other.index := fun e => h (by cases id; cases other; simp_all)
  simp [elements, write, h']

theorem elements_write_self (heap : Heap) {id : SequenceId} (items : List Value)
    (h : id.index < heap.size) : (heap.write id items).elements id = items := by
  simp only [size] at h
  simp [elements, write, h]

end Heap

/-- A function without parameters: what its calls have been so far, and what call number `n` gives
and does to the sequences. -/
structure Callable where
  calls : Nat
  behaviour : Nat → Heap → Value × Heap

namespace Callable

/-- A function that always gives the same value. -/
def constant (v : Value) : Callable := ⟨0, fun _ heap => (v, heap)⟩

/-- A function that counts up from `first`. -/
def counter (first : Int64) : Callable :=
  ⟨0, fun n heap => (.integer (first + Int64.ofNat n), heap)⟩

end Callable

/-- Everything that values share. -/
structure Store where
  heap : Heap
  callables : Array Callable

namespace Store

def empty : Store := ⟨.empty, #[]⟩

/-- Adds a sequence. -/
def newSequence (items : List Value) : StateM Store Value := fun store =>
  let (id, heap) := store.heap.allocate items
  (.sequence id, { store with heap })

/-- Adds a callable. -/
def newCallable (f : Callable) : StateM Store Value := fun store =>
  (.callable ⟨store.callables.size⟩, { store with callables := store.callables.push f })

/-- Replaces the elements of a sequence. -/
def writeSequence (id : SequenceId) (items : List Value) : StateM Store Unit := fun store =>
  ((), { store with heap := store.heap.write id items })

/-- Calls a callable. -/
def call (id : CallableId) : StateM Store Value := fun store =>
  match store.callables[id.index]? with
  | none => (.undefined, store)
  | some f =>
    let (v, heap) := f.behaviour f.calls store.heap
    (v, { heap, callables := store.callables.setIfInBounds id.index { f with calls := f.calls + 1 } })

end Store

/-- The value itself, or what it gives if it is callable; a callable it gives is not called. -/
def Value.invoked : Value → StateM Store Value
  | .callable id => Store.call id
  | v => pure v

end Stencil
