import Stencil.Json
import Stencil.Proofs.Entries

/-!
# Values at paths

A path leads through objects by their keys. Any other value, an array too, is a leaf of the tree that the
objects make up.

* `Ordered`: values whose objects have their keys in order.
* `valueAt?`: the value at a path.
* `HasLeaf`: the leaf at a path.
* `Blocks`: a path that cannot exist since there is a leaf before its end.
-/

namespace Stencil.Json

/-- The value is an object. -/
def isObject : Json → Bool
  | object _ => true
  | _ => false

/-- In the value itself and the objects in it the keys increase. Objects in arrays do not count. -/
inductive Ordered : Json → Prop where
  | of_leaf {v : Json} (hleaf : v.isObject = false) : Ordered v
  | of_object {entries : Entries Json} (sorted : entries.Sorted)
      (values : ∀ entry ∈ entries, Ordered entry.2) : Ordered (object entries)

/-- The value at a path. -/
def valueAt? : Json → List String → Option Json
  | v, [] => some v
  | object entries, key :: path => (Entries.find? key entries).bind (valueAt? · path)
  | _, _ :: _ => none
termination_by structural _ path => path

/-- At the path is this value, which is not an object. -/
def HasLeaf (v : Json) (path : List String) (leaf : Json) : Prop :=
  v.valueAt? path = some leaf ∧ leaf.isObject = false

/-- There is a value other than an object before the end of the path. -/
def Blocks (v : Json) (path : List String) : Prop :=
  ∃ front leaf, front <+: path ∧ front ≠ path ∧ v.HasLeaf front leaf

variable {v leaf : Json} {entries : Entries Json} {key : String} {path : List String}

theorem eq_object_of_isObject (h : v.isObject = true) : ∃ entries : Entries Json, v = object entries := by
  cases v with
  | object entries => exact ⟨entries, rfl⟩
  | _ => cases h

/-! ## Order -/

@[simp] theorem ordered_object_iff :
    (object entries).Ordered ↔ entries.Sorted ∧ ∀ entry ∈ entries, entry.2.Ordered := by
  constructor
  · intro h
    cases h with
    | of_leaf hleaf => cases hleaf
    | of_object sorted values => exact ⟨sorted, values⟩
  · rintro ⟨sorted, values⟩
    exact .of_object sorted values

@[simp] theorem ordered_integer (i : Int) : (integer i).Ordered := .of_leaf rfl

theorem Ordered.sorted (h : (object entries).Ordered) : entries.Sorted := (ordered_object_iff.mp h).1

theorem Ordered.of_find? (h : (object entries).Ordered) (hv : entries.find? key = some v) : v.Ordered :=
  (ordered_object_iff.mp h).2 _ (h.sorted.find?_eq_some_iff.mp hv)

/-! ## Paths -/

theorem valueAt?_cons_of_not_object (h : v.isObject = false) : v.valueAt? (key :: path) = none := by
  cases v with
  | object entries => cases h
  | _ => rfl

theorem valueAt?_cons_of_none (h : entries.find? key = none) :
    (object entries).valueAt? (key :: path) = none := by
  rw [valueAt?, h]
  rfl

theorem valueAt?_cons_of_some (h : entries.find? key = some v) :
    (object entries).valueAt? (key :: path) = v.valueAt? path := by
  rw [valueAt?, h]
  rfl

theorem hasLeaf_nil_iff : v.HasLeaf [] leaf ↔ v = leaf ∧ v.isObject = false := by
  rw [HasLeaf, valueAt?, Option.some.injEq]
  exact and_congr_right fun heq => by rw [heq]

theorem hasLeaf_cons_of_not_object (h : v.isObject = false) : ¬ v.HasLeaf (key :: path) leaf := by
  rintro ⟨hvalue, -⟩
  rw [valueAt?_cons_of_not_object h] at hvalue
  cases hvalue

theorem hasLeaf_cons_iff :
    (object entries).HasLeaf (key :: path) leaf ↔
      ∃ v, entries.find? key = some v ∧ v.HasLeaf path leaf := by
  unfold HasLeaf
  cases hv : entries.find? key with
  | none => simp [valueAt?_cons_of_none hv]
  | some v => simp [valueAt?_cons_of_some hv]

@[simp] theorem not_blocks_nil : ¬ v.Blocks [] := by
  rintro ⟨front, leaf, hfront, hne, -⟩
  exact hne (List.prefix_nil.mp hfront)

/-- A leaf has nothing below it. -/
theorem blocks_cons_of_not_object (h : v.isObject = false) : v.Blocks (key :: path) :=
  ⟨[], v, List.nil_prefix, by simp, rfl, h⟩

/-- An object blocks a path that goes on in it exactly if the value at the first key does. -/
theorem blocks_cons_iff :
    (object entries).Blocks (key :: path) ↔ ∃ v, entries.find? key = some v ∧ v.Blocks path := by
  constructor
  · rintro ⟨front, leaf, hfront, hne, hleaf⟩
    rcases List.prefix_cons_iff.mp hfront with rfl | ⟨front, rfl, hprefix⟩
    · cases (hasLeaf_nil_iff.mp hleaf).2
    · obtain ⟨v, hv, hleaf⟩ := hasLeaf_cons_iff.mp hleaf
      exact ⟨v, hv, front, leaf, hprefix, fun heq => hne (heq ▸ rfl), hleaf⟩
  · rintro ⟨v, hv, front, leaf, hprefix, hne, hleaf⟩
    refine ⟨key :: front, leaf, List.cons_prefix_cons.mpr ⟨rfl, hprefix⟩, ?_, ?_⟩
    · exact fun heq => hne (List.cons.inj heq).2
    · exact hasLeaf_cons_iff.mpr ⟨v, hv, hleaf⟩

end Stencil.Json
