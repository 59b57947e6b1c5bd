import Stencil.Proofs.Number.Exact
import Stencil.Proofs.Value.Sequence
import Stencil.Value.Json

/-!
# From a value to JSON and back

JSON lacks `undefined`, callables and numbers that are not finite. Otherwise the JSON form of a value is read
as a value that equals it.

* `Tree.strip`: a value without what JSON lacks.
* `Json.Denotes`: the trees that a JSON value is read as. They differ in the numbers of sequences only.
* `Value.exists_ofJson`: reading gives such a value, and changes no sequence that was there.
* `Tree.toJson_of_denotes`: a tree that the JSON form of a value denotes has the same JSON form, and equals
  the stripped value.
* `Value.ofJson_toJson_finite`: finite numbers keep their exact value.
* `Value.ofJson_toJson`: the JSON form of a value, read back.
-/

namespace Stencil

open Number

/-! ## What JSON keeps of a value -/

namespace Tree

mutual

/-- The tree with `null` for what JSON lacks; an entry of a mapping without a JSON form is left out. -/
def strip : Tree → Tree
  | undefined | callable _ => null
  | real x => if x.isFinite then real x else null
  | sequence id items => sequence id (stripItems items)
  | keyed entries => keyed (stripEntries entries)
  | t => t
termination_by structural t => t

/-- The same for all trees of a list. -/
def stripItems : List Tree → List Tree
  | [] => []
  | t :: rest => t.strip :: stripItems rest
termination_by structural items => items

/-- The same for the entries that have a JSON form. -/
def stripEntries : List (String × Tree) → List (String × Tree)
  | [] => []
  | (key, t) :: rest => if t.isUnset then stripEntries rest else (key, t.strip) :: stripEntries rest
termination_by structural entries => entries

end

end Tree

namespace Json

mutual

/-- The tree is what the JSON value is read as, whatever numbers its sequences have. -/
def Denotes : Json → Tree → Prop
  | null, t => t = .null
  | bool b, t => t = .bool b
  | integer i, t => t = if i < 2 ^ 63 then .integer (.ofInt i) else .real (.ofInt i)
  | real x, t => t = .real x
  | text s, t => t = .text s
  | array items, t => ∃ id trees, t = .sequence id trees ∧ ItemsDenote items trees
  | object entries, t => ∃ trees, t = .keyed trees ∧ EntriesDenote entries trees
termination_by structural json => json

/-- The same for lists, element by element. -/
def ItemsDenote : List Json → List Tree → Prop
  | [], trees => trees = []
  | v :: rest, trees => ∃ t trees', trees = t :: trees' ∧ v.Denotes t ∧ ItemsDenote rest trees'
termination_by structural items => items

/-- The same for entries, which have the same keys. -/
def EntriesDenote : List (String × Json) → List (String × Tree) → Prop
  | [], trees => trees = []
  | (key, v) :: rest, trees =>
    ∃ t trees', trees = (key, t) :: trees' ∧ v.Denotes t ∧ EntriesDenote rest trees'
termination_by structural entries => entries

end

mutual

/-- The number of arrays in a JSON value. -/
def arrays : Json → Nat
  | array items => itemsArrays items + 1
  | object entries => entriesArrays entries
  | _ => 0
termination_by structural json => json

/-- The number of arrays in all elements. -/
def itemsArrays : List Json → Nat
  | [] => 0
  | v :: rest => v.arrays + itemsArrays rest
termination_by structural items => items

/-- The number of arrays in all entries. -/
def entriesArrays : List (String × Json) → Nat
  | [] => 0
  | (_, v) :: rest => v.arrays + entriesArrays rest
termination_by structural entries => entries

end

end Json

/-! ## Reading -/

theorem Heap.keeps_allocate (heap : Heap) (items : List Value) :
    heap.Keeps (heap.allocate items).2 where
  size_le := by simp [size, allocate]
  elements_eq id hid := by
    rw [size] at hid
    simp [elements, allocate, Array.getElem?_push, Nat.ne_of_lt hid]

/-- What reading a JSON value, or several ones, does to the sequences: those that were there stay, and each
array becomes a new one. -/
structure Store.Reads (store after : Store) (arrays : Nat) : Prop where
  keeps : store.heap.Keeps after.heap
  size_eq : after.heap.size = store.heap.size + arrays

namespace Store.Reads

theorem refl (store : Store) : store.Reads store 0 := ⟨.refl _, rfl⟩

theorem trans {store mid after : Store} {m n : Nat} (h : store.Reads mid m) (h' : mid.Reads after n) :
    store.Reads after (m + n) :=
  ⟨h.keeps.trans h'.keeps, by rw [h'.size_eq, h.size_eq, Nat.add_assoc]⟩

end Store.Reads

namespace Value

mutual

/-- Reading a JSON value gives a value with a tree that it denotes, also when later sequences have been
added. -/
theorem ofJson_denotes : ∀ (json : Json) (store : Store), ∃ v after,
    (ofJson json).run store = (v, after) ∧ store.Reads after json.arrays ∧
      ∀ heap, after.heap.Keeps heap → ∀ depth, json.arrays ≤ depth →
        json.Denotes (v.unfoldWith (heap.unfold depth))
  | .null, store => ⟨_, _, rfl, .refl store, fun _ _ _ _ => rfl⟩
  | .bool b, store => ⟨_, _, rfl, .refl store, fun _ _ _ _ => rfl⟩
  | .integer i, store => by
    refine ⟨_, _, rfl, .refl store, fun _ _ _ _ => ?_⟩
    rw [Json.Denotes]
    split <;> rfl
  | .real x, store => ⟨_, _, rfl, .refl store, fun _ _ _ _ => rfl⟩
  | .text s, store => ⟨_, _, rfl, .refl store, fun _ _ _ _ => rfl⟩
  | .array items, store => by
    obtain ⟨values, mid, hrun, hreads, hdenotes⟩ := ofJsonItems_denote items store
    -- The sequence is allocated behind those of its elements, which stay as they are.
    have hkeeps := mid.heap.keeps_allocate values
    refine ⟨.sequence (mid.heap.allocate values).1,
      { mid with heap := (mid.heap.allocate values).2 }, ?_, ⟨hreads.keeps.trans hkeeps, ?_⟩, ?_⟩
    · rw [ofJson, StateT.run_bind, hrun]
      rfl
    · have hsize := hreads.size_eq
      simp only [Heap.size, Heap.allocate, Array.size_push, Json.arrays] at hsize ⊢
      omega
    · intro heap hheap depth hdepth
      -- One level of the depth is that of this array.
      obtain ⟨depth, rfl⟩ : ∃ n, depth = n + 1 :=
        Nat.exists_eq_add_one_of_ne_zero (Nat.ne_zero_of_lt hdepth)
      have helements : heap.elements (mid.heap.allocate values).1 = values := by
        rw [hheap.elements_eq, Heap.elements_allocate_self]
        simp [Heap.size, Heap.allocate]
      refine ⟨_, _, rfl, ?_⟩
      rw [helements]
      exact hdenotes heap (hkeeps.trans hheap) depth (Nat.le_of_succ_le_succ hdepth)
  | .object entries, store => by
    obtain ⟨values, mid, hrun, hreads, hdenotes⟩ := ofJsonEntries_denote entries store
    refine ⟨.keyed values, mid, ?_, hreads, fun heap hheap depth hdepth => ?_⟩
    · rw [ofJson, StateT.run_bind, hrun]
      rfl
    · exact ⟨_, rfl, hdenotes heap hheap depth hdepth⟩

theorem ofJsonItems_denote : ∀ (items : List Json) (store : Store), ∃ values after,
    (ofJsonItems items).run store = (values, after) ∧ store.Reads after (Json.itemsArrays items) ∧
      ∀ heap, after.heap.Keeps heap → ∀ depth, Json.itemsArrays items ≤ depth →
        Json.ItemsDenote items (values.map (unfoldWith (heap.unfold depth)))
  | [], store => ⟨_, _, rfl, .refl store, fun _ _ _ _ => rfl⟩
  | json :: rest, store => by
    obtain ⟨v, mid, hrun, hreads, hdenotes⟩ := ofJson_denotes json store
    obtain ⟨values, after, hrun', hreads', hdenotes'⟩ := ofJsonItems_denote rest mid
    refine ⟨v :: values, after, ?_, hreads.trans hreads', fun heap hheap depth hdepth => ?_⟩
    · rw [ofJsonItems, StateT.run_bind, hrun]
      show (do pure (v :: (← ofJsonItems rest)) : StateM Store (List Value)).run mid = _
      rw [StateT.run_bind, hrun']
      rfl
    · rw [Json.itemsArrays] at hdepth
      exact ⟨_, _, rfl, hdenotes heap (hreads'.keeps.trans hheap) depth (by omega),
        hdenotes' heap hheap depth (by omega)⟩

theorem ofJsonEntries_denote : ∀ (entries : List (String × Json)) (store : Store), ∃ values after,
    (ofJsonEntries entries).run store = (values, after) ∧
      store.Reads after (Json.entriesArrays entries) ∧
      ∀ heap, after.heap.Keeps heap → ∀ depth, Json.entriesArrays entries ≤ depth →
        Json.EntriesDenote entries (unfoldEntries (heap.unfold depth) values)
  | [], store => ⟨_, _, rfl, .refl store, fun _ _ _ _ => rfl⟩
  | (key, json) :: rest, store => by
    obtain ⟨v, mid, hrun, hreads, hdenotes⟩ := ofJson_denotes json store
    obtain ⟨values, after, hrun', hreads', hdenotes'⟩ := ofJsonEntries_denote rest mid
    refine ⟨(key, v) :: values, after, ?_, hreads.trans hreads', fun heap hheap depth hdepth => ?_⟩
    · rw [ofJsonEntries, StateT.run_bind, hrun]
      show (do pure ((key, v) :: (← ofJsonEntries rest)) :
        StateM Store (List (String × Value))).run mid = _
      rw [StateT.run_bind, hrun']
      rfl
    · rw [Json.entriesArrays] at hdepth
      exact ⟨_, _, rfl, hdenotes heap (hreads'.keeps.trans hheap) depth (by omega),
        hdenotes' heap hheap depth (by omega)⟩

end

/-- Reading a JSON value gives a value with a tree that it denotes. -/
theorem exists_ofJson (json : Json) (store : Store) : ∃ v after,
    (ofJson json).run store = (v, after) ∧ store.heap.Keeps after.heap ∧
      json.Denotes (v.unfold after.heap) := by
  obtain ⟨v, after, hrun, hreads, hdenotes⟩ := ofJson_denotes json store
  have hdepth : json.arrays ≤ after.heap.size := by
    rw [hreads.size_eq]
    exact Nat.le_add_left ..
  exact ⟨v, after, hrun, hreads.keeps, hdenotes after.heap (.refl _) after.heap.size hdepth⟩

end Value

/-! ## Numbers -/

/-- The JSON form of a number: an integer of at most 53 bits with the same value, or the number itself. -/
theorem Number.Binary64.toJson_finite (negative : Bool) (x : Magnitude) :
    (∃ i : Int, i.natAbs < 2 ^ 53 ∧ (finite negative x).toJson = .integer i ∧
      (finite negative x).units? = some (i * unitsPerOne)) ∨
    (finite negative x).toJson = .real (finite negative x) := by
  rw [Binary64.toJson]
  by_cases h : (x.isIntegral && decide (x.floor < 2 ^ 53)) = true
  · obtain ⟨hintegral, hlt⟩ := Bool.and_eq_true_iff.mp h
    have hlt := of_decide_eq_true hlt
    refine .inl ⟨if negative then -(x.floor : Int) else x.floor, ?_, if_pos h, ?_⟩
    · cases negative
      · exact hlt
      · rw [if_pos rfl, Int.natAbs_neg]
        exact hlt
    · exact units?_of_isIntegral negative hintegral
  · exact .inr (if_neg h)

/-- An integer below `2 ^ 53` is read as itself, and equals the number of the same value. -/
theorem Json.denotes_integer {i : Int} (h : i.natAbs < 2 ^ 53) {t : Tree}
    (ht : (Json.integer i).Denotes t) :
    t = .integer (.ofInt i) ∧ (Int64.ofInt i).toInt = i := by
  rw [Denotes, if_pos (by omega)] at ht
  exact ⟨ht, Int64.toInt_ofInt_of_le (by omega) (by omega)⟩

/-- What a finite number is read back as has the same value. -/
theorem Json.denotes_toJson_finite (negative : Bool) (x : Magnitude) {t : Tree}
    (ht : (Binary64.finite negative x).toJson.Denotes t) :
    t.toJson = (Binary64.finite negative x).toJson ∧
      t.equals (.real (.finite negative x)) = true := by
  rcases Binary64.toJson_finite negative x with ⟨i, hi, hjson, hunits⟩ | hjson
  · rw [hjson] at ht ⊢
    obtain ⟨rfl, htoInt⟩ := Json.denotes_integer hi ht
    refine ⟨congrArg Json.integer htoInt, ?_⟩
    have hofInt := Binary64.units?_ofInt (Nat.le_of_lt hi)
    have hfinite : (Binary64.ofInt i).isFinite = true := by
      rw [← Bool.not_eq_false, ← Binary64.units?_eq_none_iff, hofInt]
      exact Option.some_ne_none _
    show (Binary64.ofInt (Int64.ofInt i).toInt).equals (.finite negative x) = true
    rw [htoInt, Binary64.equals_iff_units? hfinite, hofInt, hunits]
  · have ht : t = .real (.finite negative x) := by
      rw [hjson] at ht
      exact ht
    rw [ht]
    have hself : (Binary64.finite negative x).equals (.finite negative x) = true :=
      Binary64.equals_self nofun
    exact ⟨rfl, hself⟩

/-! ## The value that comes back -/

/-- No JSON value denotes `undefined` or a callable. -/
theorem Json.Denotes.isUnset_eq {json : Json} {t : Tree} (h : json.Denotes t) :
    t.isUnset = false := by
  cases json with
  | array items => obtain ⟨_, _, rfl, -⟩ := h; rfl
  | object entries => obtain ⟨_, rfl, -⟩ := h; rfl
  | integer i =>
    rw [Json.Denotes] at h
    rw [h]
    split <;> rfl
  | _ => rw [show t = _ from h]; rfl

namespace Tree

mutual

/-- A tree that the JSON form of a tree denotes has the same JSON form, and equals the stripped tree. -/
theorem toJson_of_denotes :
    ∀ {s t : Tree}, s.toJson.Denotes t → t.toJson = s.toJson ∧ t.equals s.strip = true
  | null, t, h | undefined, t, h | callable _, t, h => by
    rw [show t = .null from h]
    exact ⟨rfl, rfl⟩
  | bool b, t, h => by
    rw [show t = .bool b from h]
    exact ⟨rfl, beq_self_eq_true b⟩
  | text s, t, h => by
    rw [show t = .text s from h]
    exact ⟨rfl, beq_self_eq_true s⟩
  | integer i, t, h => by
    -- An integer of 64 bits is never read back as a float.
    have hlt : i.toInt < 2 ^ 63 := i.toInt_lt
    rw [toJson, Json.Denotes, if_pos hlt, Int64.ofInt_toInt] at h
    rw [h]
    exact ⟨rfl, beq_self_eq_true i⟩
  | real x, t, h => by
    cases x with
    | finite negative x => exact Json.denotes_toJson_finite negative x h
    | _ =>
      rw [show t = .null from h]
      exact ⟨rfl, rfl⟩
  | sequence id items, t, h => by
    obtain ⟨id', trees, rfl, hitems⟩ := h
    obtain ⟨hjson, hequals⟩ := itemsToJson_of_denote hitems
    refine ⟨congrArg Json.array hjson, ?_⟩
    rw [strip, equals, hequals, Bool.or_true]
  | keyed entries, t, h => by
    obtain ⟨trees, rfl, hentries⟩ := h
    obtain ⟨hjson, hequals⟩ := entriesToJson_of_denote hentries
    exact ⟨congrArg Json.object hjson, hequals⟩

theorem itemsToJson_of_denote :
    ∀ {items trees : List Tree}, Json.ItemsDenote (itemsToJson items) trees →
      itemsToJson trees = itemsToJson items ∧ equalsItems trees (stripItems items) = true
  | [], trees, h => by
    rw [show trees = [] from h]
    exact ⟨rfl, rfl⟩
  | s :: rest, trees, h => by
    obtain ⟨t, trees, rfl, ht, htrees⟩ := h
    obtain ⟨hjson, hequals⟩ := toJson_of_denotes ht
    obtain ⟨hjsons, hequalsItems⟩ := itemsToJson_of_denote htrees
    rw [itemsToJson, itemsToJson, hjson, hjsons, stripItems, equalsItems, hequals, hequalsItems]
    exact ⟨rfl, rfl⟩

theorem entriesToJson_of_denote :
    ∀ {entries trees : List (String × Tree)}, Json.EntriesDenote (entriesToJson entries) trees →
      entriesToJson trees = entriesToJson entries ∧
        equalsEntries trees (stripEntries entries) = true
  | [], trees, h => by
    rw [show trees = [] from h]
    exact ⟨rfl, rfl⟩
  | (key, s) :: rest, trees, h => by
    by_cases hunset : s.isUnset = true
    · rw [entriesToJson, if_pos hunset] at h ⊢
      rw [stripEntries, if_pos hunset]
      exact entriesToJson_of_denote h
    · rw [entriesToJson, if_neg hunset] at h ⊢
      obtain ⟨t, trees, rfl, ht, htrees⟩ := h
      obtain ⟨hjson, hequals⟩ := toJson_of_denotes ht
      obtain ⟨hjsons, hequalsEntries⟩ := entriesToJson_of_denote htrees
      rw [entriesToJson, ht.isUnset_eq, hjson, hjsons, stripEntries, if_neg hunset, equalsEntries,
        hequals, hequalsEntries, beq_self_eq_true]
      exact ⟨rfl, rfl⟩

end

end Tree

/-- The exact value of an integer or of a finite number, in units of `2 ^ -1074`. -/
def Value.units? : Value → Option Int
  | integer i => some (i.toInt * unitsPerOne)
  | real x => x.units?
  | _ => none

/-- Reading the JSON form of a finite number gives a number of the same value. -/
theorem Value.ofJson_toJson_finite (negative : Bool) (x : Magnitude) :
    ∃ v, ofJson (Binary64.finite negative x).toJson = pure v ∧
      v.units? = (Binary64.finite negative x).units? := by
  rcases Binary64.toJson_finite negative x with ⟨i, hi, hjson, hunits⟩ | hjson
  · refine ⟨.integer (.ofInt i), ?_, ?_⟩
    · rw [hjson, ofJson, if_pos (by omega)]
    · rw [units?, hunits, Int64.toInt_ofInt_of_le (by omega) (by omega)]
  · exact ⟨.real (.finite negative x), by rw [hjson, ofJson], rfl⟩

/-- **There and back.** The JSON form of any value is read as a value that equals it, but for what JSON
lacks, and that has the same JSON form. The sequences that were there stay as they are. Integers and finite
numbers keep their exact values, whichever of the two they are in JSON. -/
theorem Value.ofJson_toJson (v : Value) (store : Store) :
    let json := v.toJson store.heap
    let read := (ofJson json).run store
    ((read.1.unfold read.2.heap).equals (v.unfold store.heap).strip = true ∧
      read.1.toJson read.2.heap = json ∧ store.heap.Keeps read.2.heap) ∧
    (∀ (i : Int64) (heap : Heap), ofJson ((integer i).toJson heap) = pure (integer i)) ∧
    ∀ (negative : Bool) (x : Magnitude) (heap : Heap), ∃ w,
      ofJson ((real (.finite negative x)).toJson heap) = pure w ∧
        w.units? = (real (.finite negative x)).units? := by
  intro json read
  obtain ⟨w, after, hrun, hkeeps, hdenotes⟩ := exists_ofJson json store
  obtain ⟨hjson, hequals⟩ := Tree.toJson_of_denotes hdenotes
  have hread : read = (w, after) := hrun
  rw [hread]
  refine ⟨⟨hequals, hjson, hkeeps⟩, fun i heap => ?_, fun negative x heap => ?_⟩
  · show ofJson (.integer i.toInt) = pure (integer i)
    rw [ofJson, if_pos i.toInt_lt, Int64.ofInt_toInt]
  · exact ofJson_toJson_finite negative x

end Stencil
