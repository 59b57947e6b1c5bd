import Mathlib.Data.Finset.Card
import Mathlib.Logic.Relation
import Stencil.Value.Tree

/-!
# Values as trees, at any depth

`Value.unfold` goes down as many sequences as the heap has. That is far enough if no sequence is inside
itself, so that the tree of a value shows all of it.

* `Value.handles`, `Heap.Holds`, `Heap.NoCycle`: which sequences a value and a sequence hold, and that no
  sequence is inside itself.
* `Heap.unfold_eq_of_rank_lt`: the tree of a sequence does not depend on the depth.
* `Heap.unfold_size`: the tree of a sequence shows the trees of its elements.
* `Tree.Agrees`, `Value.unfold_agrees`: in the trees of a heap, a sequence has the same elements wherever
  it stands.
-/

namespace Stencil

/-! ## Sequences inside others -/

mutual

/-- The sequences that a value holds directly. -/
def Value.handles : Value → List SequenceId
  | .sequence id => [id]
  | .keyed entries => Value.entriesHandles entries
  | _ => []
termination_by structural v => v

/-- The sequences that the values of entries hold directly. -/
def Value.entriesHandles : List (String × Value) → List SequenceId
  | [] => []
  | (_, v) :: rest => v.handles ++ Value.entriesHandles rest
termination_by structural entries => entries

end

namespace Heap

/-- One sequence holds another one directly. -/
def Holds (heap : Heap) (outer inner : SequenceId) : Prop :=
  ∃ v ∈ heap.elements outer, inner ∈ v.handles

/-- No sequence is inside itself. -/
def NoCycle (heap : Heap) : Prop := ∀ id, ¬ Relation.TransGen heap.Holds id id

end Heap

mutual

theorem Value.RefersBelow.index_lt {bound : Nat} {id : SequenceId} :
    ∀ {v : Value}, v.RefersBelow bound → id ∈ v.handles → id.index < bound
  | .sequence _, h, hid => by
    rw [List.mem_singleton.mp hid]
    exact h
  | .keyed _, h, hid => Value.EntriesReferBelow.index_lt h hid

theorem Value.EntriesReferBelow.index_lt {bound : Nat} {id : SequenceId} :
    ∀ {entries : List (String × Value)}, Value.EntriesReferBelow bound entries →
      id ∈ Value.entriesHandles entries → id.index < bound
  | (_, _) :: _, h, hid => by
    rcases List.mem_append.mp hid with hid | hid
    · exact Value.RefersBelow.index_lt h.1 hid
    · exact Value.EntriesReferBelow.index_lt h.2 hid

end

/-- Sequences that hold earlier ones only are not inside themselves. -/
theorem Heap.Acyclic.noCycle {heap : Heap} (h : heap.Acyclic) : heap.NoCycle := by
  have hlt : ∀ outer inner, Relation.TransGen heap.Holds outer inner → inner.index < outer.index := by
    intro outer inner hpath
    induction hpath with
    | single hholds =>
      obtain ⟨v, hv, hid⟩ := hholds
      exact (h _ v hv).index_lt hid
    | tail _ hholds ih =>
      obtain ⟨v, hv, hid⟩ := hholds
      exact Nat.lt_trans ((h _ v hv).index_lt hid) ih
  exact fun id hpath => Nat.lt_irrefl _ (hlt id id hpath)

/-! ## Far enough down -/

mutual

/-- The tree of a value depends on the trees of the sequences that it holds. -/
theorem Value.unfoldWith_congr {sequences sequences' : SequenceId → Tree} :
    ∀ {v : Value}, (∀ id ∈ v.handles, sequences id = sequences' id) →
      v.unfoldWith sequences = v.unfoldWith sequences'
  | .sequence id, h => h id List.mem_cons_self
  | .keyed _, h => congrArg Tree.keyed (Value.unfoldEntries_congr h)
  | .null, _ | .undefined, _ | .bool _, _ | .integer _, _ | .real _, _ | .text _, _
  | .callable _, _ => rfl

theorem Value.unfoldEntries_congr {sequences sequences' : SequenceId → Tree} :
    ∀ {entries : List (String × Value)},
      (∀ id ∈ Value.entriesHandles entries, sequences id = sequences' id) →
      Value.unfoldEntries sequences entries = Value.unfoldEntries sequences' entries
  | [], _ => rfl
  | (key, v) :: rest, h => by
    have hv : v.unfoldWith sequences = v.unfoldWith sequences' :=
      Value.unfoldWith_congr fun id hid => h id (List.mem_append_left _ hid)
    have hrest := Value.unfoldEntries_congr fun id hid => h id (List.mem_append_right _ hid)
    rw [Value.unfoldEntries, Value.unfoldEntries, hv, hrest]

end

namespace Heap

variable {heap : Heap}

open Classical in
/-- The numbers of the sequences inside a sequence, at any depth. -/
noncomputable def inside (heap : Heap) (id : SequenceId) : Finset Nat :=
  (Finset.range heap.size).filter fun n => Relation.TransGen heap.Holds id ⟨n⟩

theorem mem_inside {id : SequenceId} {n : Nat} :
    n ∈ heap.inside id ↔ n < heap.size ∧ Relation.TransGen heap.Holds id ⟨n⟩ := by
  simp only [inside, Finset.mem_filter, Finset.mem_range]

/-- How many sequences are inside a sequence. -/
noncomputable def rank (heap : Heap) (id : SequenceId) : Nat := (heap.inside id).card

theorem elements_of_size_le {id : SequenceId} (h : heap.size ≤ id.index) : heap.elements id = [] := by
  rw [elements, Array.getElem?_eq_none h]
  rfl

theorem unfold_of_elements_nil {id : SequenceId} (h : heap.elements id = []) (depth : Nat) :
    heap.unfold depth id = .sequence id [] := by
  cases depth with
  | zero => rfl
  | succ depth => rw [unfold, h, List.map_nil]

theorem rank_lt_size (h : heap.NoCycle) {id : SequenceId} (hid : id.index < heap.size) :
    heap.rank id < heap.size := by
  have hsubset : heap.inside id ⊂ Finset.range heap.size := by
    refine (Finset.ssubset_iff_of_subset fun n hn => ?_).mpr ⟨id.index, ?_, ?_⟩
    · exact Finset.mem_range.mpr (mem_inside.mp hn).1
    · exact Finset.mem_range.mpr hid
    · exact fun hmem => h id (mem_inside.mp hmem).2
  exact Finset.card_range heap.size ▸ Finset.card_lt_card hsubset

/-- Fewer sequences are inside a sequence than inside one that holds it. -/
theorem rank_lt_of_holds (h : heap.NoCycle) {outer inner : SequenceId}
    (hholds : heap.Holds outer inner) (hinner : inner.index < heap.size) :
    heap.rank inner < heap.rank outer := by
  refine Finset.card_lt_card ?_
  refine (Finset.ssubset_iff_of_subset fun n hn => ?_).mpr ⟨inner.index, ?_, ?_⟩
  · obtain ⟨hrange, hpath⟩ := mem_inside.mp hn
    exact mem_inside.mpr ⟨hrange, .head hholds hpath⟩
  · exact mem_inside.mpr ⟨hinner, .single hholds⟩
  · exact fun hmem => h inner (mem_inside.mp hmem).2

/-- The tree of a sequence does not depend on the depth, if that is more than the number of sequences
inside it. -/
theorem unfold_eq_of_rank_lt (h : heap.NoCycle) {id : SequenceId} {depth depth' : Nat}
    (hdepth : heap.rank id < depth) (hdepth' : heap.rank id < depth') :
    heap.unfold depth id = heap.unfold depth' id := by
  induction depth generalizing id depth' with
  | zero => exact absurd hdepth (Nat.not_lt_zero _)
  | succ depth ih =>
    obtain ⟨depth', rfl⟩ := Nat.exists_eq_add_one_of_ne_zero (Nat.ne_zero_of_lt hdepth')
    rw [unfold, unfold, Tree.sequence.injEq]
    refine ⟨rfl, List.map_congr_left fun v hv => Value.unfoldWith_congr fun inner hinner => ?_⟩
    by_cases hsize : inner.index < heap.size
    · have hrank := rank_lt_of_holds h ⟨v, hv, hinner⟩ hsize
      exact ih (by omega) (by omega)
    · have hnil := elements_of_size_le (Nat.le_of_not_lt hsize)
      rw [unfold_of_elements_nil hnil, unfold_of_elements_nil hnil]

/-- The size of the heap is far enough. -/
theorem unfold_eq_unfold_size (h : heap.NoCycle) {id : SequenceId} {depth : Nat}
    (hdepth : heap.rank id < depth) : heap.unfold depth id = heap.unfold heap.size id := by
  by_cases hsize : id.index < heap.size
  · exact unfold_eq_of_rank_lt h hdepth (rank_lt_size h hsize)
  · have hnil := elements_of_size_le (Nat.le_of_not_lt hsize)
    rw [unfold_of_elements_nil hnil, unfold_of_elements_nil hnil]

/-- The elements of a sequence, as trees. -/
def contents (heap : Heap) (id : SequenceId) : List Tree :=
  (heap.elements id).map (Value.unfold heap)

/-- The tree of a sequence shows the trees of its elements. -/
theorem unfold_size (h : heap.NoCycle) (id : SequenceId) :
    heap.unfold heap.size id = .sequence id (heap.contents id) := by
  rw [← unfold_eq_unfold_size h (Nat.lt_succ_self (heap.rank id)), unfold, contents, Tree.sequence.injEq]
  refine ⟨rfl, List.map_congr_left fun v hv => Value.unfoldWith_congr fun inner hinner => ?_⟩
  by_cases hsize : inner.index < heap.size
  · exact unfold_eq_unfold_size h (rank_lt_of_holds h ⟨v, hv, hinner⟩ hsize)
  · have hnil := elements_of_size_le (Nat.le_of_not_lt hsize)
    rw [unfold_of_elements_nil hnil, unfold_of_elements_nil hnil]

end Heap

/-! ## The same elements everywhere -/

mutual

/-- Every sequence in the tree has the elements that `contents` gives for it. -/
def Tree.Agrees (contents : SequenceId → List Tree) : Tree → Prop
  | .sequence id items => items = contents id ∧ Tree.ItemsAgree contents items
  | .keyed entries => Tree.EntriesAgree contents entries
  | _ => True
termination_by structural t => t

/-- The same for all trees of a list. -/
def Tree.ItemsAgree (contents : SequenceId → List Tree) : List Tree → Prop
  | [] => True
  | t :: rest => t.Agrees contents ∧ Tree.ItemsAgree contents rest
termination_by structural items => items

/-- The same for all trees of entries. -/
def Tree.EntriesAgree (contents : SequenceId → List Tree) : List (String × Tree) → Prop
  | [] => True
  | (_, t) :: rest => t.Agrees contents ∧ Tree.EntriesAgree contents rest
termination_by structural entries => entries

end

mutual

theorem Value.unfoldWith_agrees {contents : SequenceId → List Tree} {sequences : SequenceId → Tree} :
    ∀ {v : Value}, (∀ id ∈ v.handles, (sequences id).Agrees contents) →
      (v.unfoldWith sequences).Agrees contents
  | .sequence id, h => h id List.mem_cons_self
  | .keyed _, h => Value.unfoldEntries_agree h
  | .null, _ | .undefined, _ | .bool _, _ | .integer _, _ | .real _, _ | .text _, _
  | .callable _, _ => trivial

theorem Value.unfoldEntries_agree {contents : SequenceId → List Tree}
    {sequences : SequenceId → Tree} :
    ∀ {entries : List (String × Value)},
      (∀ id ∈ Value.entriesHandles entries, (sequences id).Agrees contents) →
      Tree.EntriesAgree contents (Value.unfoldEntries sequences entries)
  | [], _ => trivial
  | (_, _) :: _, h =>
    ⟨Value.unfoldWith_agrees fun id hid => h id (List.mem_append_left _ hid),
      Value.unfoldEntries_agree fun id hid => h id (List.mem_append_right _ hid)⟩

end

theorem Tree.itemsAgree_iff {contents : SequenceId → List Tree} {items : List Tree} :
    Tree.ItemsAgree contents items ↔ ∀ t ∈ items, t.Agrees contents := by
  induction items with
  | nil => simp [Tree.ItemsAgree]
  | cons t rest ih => rw [Tree.ItemsAgree, ih, List.forall_mem_cons]

namespace Heap

variable {heap : Heap}

theorem unfold_agrees (h : heap.NoCycle) (id : SequenceId) :
    (heap.unfold heap.size id).Agrees heap.contents := by
  -- The induction is on the number of sequences inside this one.
  generalize hrank : heap.rank id = n
  induction n using Nat.strongRecOn generalizing id with
  | ind n ih =>
    rw [unfold_size h]
    refine ⟨rfl, Tree.itemsAgree_iff.mpr fun t ht => ?_⟩
    obtain ⟨v, hv, rfl⟩ := List.mem_map.mp ht
    refine Value.unfoldWith_agrees fun inner hinner => ?_
    by_cases hsize : inner.index < heap.size
    · exact ih _ (hrank ▸ rank_lt_of_holds h ⟨v, hv, hinner⟩ hsize) inner rfl
    · have hnil := elements_of_size_le (Nat.le_of_not_lt hsize)
      rw [unfold_of_elements_nil hnil]
      exact ⟨by rw [contents, hnil, List.map_nil], trivial⟩

end Heap

/-- In the tree of a value, every sequence shows its elements. -/
theorem Value.unfold_agrees {heap : Heap} (h : heap.NoCycle) (v : Value) :
    (v.unfold heap).Agrees heap.contents :=
  Value.unfoldWith_agrees fun id _ => heap.unfold_agrees h id

end Stencil
