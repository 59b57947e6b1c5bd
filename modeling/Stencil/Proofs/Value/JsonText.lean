import Stencil.Proofs.Json.Parser
import Stencil.Proofs.Value.Json

/-!
# The JSON text of a value, read back

* `Tree.Plain`: trees without numbers other than integers, `undefined` and callables.
* `Tree.Plain.denotes`: JSON loses nothing of them.
* `Value.JsonReadable`: the values of which the JSON text can be read back.
* `Value.jsonTransformer_readable`: it is read back as an equal value, and values with the same text are
  equal.
-/

namespace Stencil

namespace Tree

mutual

/-- A tree of `null`, truth values, integers, texts, sequences and mappings. The keys of a mapping increase,
as they do in every value. -/
def Plain : Tree → Prop
  | undefined | real _ | callable _ => False
  | sequence _ items => ItemsPlain items
  | keyed entries => Entries.Sorted entries ∧ EntriesPlain entries
  | _ => True
termination_by structural t => t

/-- The same for all trees of a list. -/
def ItemsPlain : List Tree → Prop
  | [] => True
  | t :: rest => t.Plain ∧ ItemsPlain rest
termination_by structural items => items

/-- The same for all trees of entries. -/
def EntriesPlain : List (String × Tree) → Prop
  | [] => True
  | (_, t) :: rest => t.Plain ∧ EntriesPlain rest
termination_by structural entries => entries

end

theorem Plain.isUnset_eq {t : Tree} (h : t.Plain) : t.isUnset = false := by
  cases t with
  | undefined | callable _ => exact h.elim
  | _ => rfl

/-- No entry is left out. -/
theorem Plain.entriesToJson_cons {t : Tree} (h : t.Plain) (key : String)
    (rest : List (String × Tree)) :
    entriesToJson ((key, t) :: rest) = (key, t.toJson) :: entriesToJson rest := by
  rw [entriesToJson, h.isUnset_eq, if_neg Bool.false_ne_true]

/-- The JSON forms of entries have the same keys. -/
theorem EntriesPlain.map_fst_entriesToJson {entries : List (String × Tree)} (h : EntriesPlain entries) :
    (entriesToJson entries).map Prod.fst = entries.map Prod.fst := by
  induction entries with
  | nil => rfl
  | cons entry rest ih =>
    rw [h.1.entriesToJson_cons, List.map_cons, List.map_cons, ih h.2]

mutual

/-- The JSON form is one that can be written and read. -/
theorem Plain.toJson : ∀ {t : Tree}, t.Plain → t.toJson.Plain
  | null, _ | bool _, _ | text _, _ => trivial
  | integer i, _ => ⟨i.le_toInt, Int.lt_trans i.toInt_lt (by decide)⟩
  | sequence _ _, h => ItemsPlain.itemsToJson h
  | keyed _, h => by
    refine ⟨?_, EntriesPlain.entriesToJson h.2⟩
    have hkeys := h.1
    rw [Entries.Sorted, ← List.pairwise_map, ← EntriesPlain.map_fst_entriesToJson h.2] at hkeys
    exact List.pairwise_map.mp hkeys

theorem ItemsPlain.itemsToJson : ∀ {items : List Tree},
    ItemsPlain items → Json.ItemsPlain (Tree.itemsToJson items)
  | [], _ => trivial
  | _ :: _, h => ⟨h.1.toJson, h.2.itemsToJson⟩

theorem EntriesPlain.entriesToJson : ∀ {entries : List (String × Tree)},
    EntriesPlain entries → Json.EntriesPlain (Tree.entriesToJson entries)
  | [], _ => trivial
  | (_, _) :: _, h => by
    rw [h.1.entriesToJson_cons]
    exact ⟨h.1.toJson, h.2.entriesToJson⟩

end

mutual

/-- JSON loses nothing of the tree. -/
theorem Plain.denotes : ∀ {t : Tree}, t.Plain → t.toJson.Denotes t
  | null, _ | bool _, _ | text _, _ => rfl
  | integer i, _ => by
    rw [Tree.toJson, Json.Denotes, if_pos i.toInt_lt, Int64.ofInt_toInt]
  | sequence id items, h => ⟨id, items, rfl, ItemsPlain.denote h⟩
  | keyed entries, h => ⟨entries, rfl, EntriesPlain.denote h.2⟩

theorem ItemsPlain.denote : ∀ {items : List Tree},
    ItemsPlain items → Json.ItemsDenote (Tree.itemsToJson items) items
  | [], _ => rfl
  | t :: rest, h => ⟨t, rest, rfl, h.1.denotes, h.2.denote⟩

theorem EntriesPlain.denote : ∀ {entries : List (String × Tree)},
    EntriesPlain entries → Json.EntriesDenote (Tree.entriesToJson entries) entries
  | [], _ => rfl
  | (key, t) :: rest, h => by
    rw [h.1.entriesToJson_cons]
    exact ⟨t, rest, rfl, h.1.denotes, h.2.denote⟩

end

mutual

/-- There is nothing to strip. -/
theorem Plain.strip_eq : ∀ {t : Tree}, t.Plain → t.strip = t
  | null, _ | bool _, _ | text _, _ | integer _, _ => rfl
  | sequence id _, h => congrArg (sequence id) (ItemsPlain.stripItems_eq h)
  | keyed _, h => congrArg keyed (EntriesPlain.stripEntries_eq h.2)

theorem ItemsPlain.stripItems_eq : ∀ {items : List Tree}, ItemsPlain items → stripItems items = items
  | [], _ => rfl
  | _ :: _, h => by rw [stripItems, h.1.strip_eq, h.2.stripItems_eq]

theorem EntriesPlain.stripEntries_eq : ∀ {entries : List (String × Tree)},
    EntriesPlain entries → stripEntries entries = entries
  | [], _ => rfl
  | (_, _) :: _, h => by
    rw [stripEntries, h.1.isUnset_eq, if_neg Bool.false_ne_true, h.1.strip_eq, h.2.stripEntries_eq]

end

/-- Whatever the JSON form denotes equals the tree. -/
theorem Plain.equals_of_denotes {s t : Tree} (h : t.Plain) (hdenotes : t.toJson.Denotes s) :
    s.equals t = true :=
  h.strip_eq ▸ (toJson_of_denotes hdenotes).2

end Tree

/-- A value of which the JSON text can be read back: there are no numbers but integers in it, no `undefined`
and no callables, and no more brackets are open at once than a reader allows. -/
structure Value.JsonReadable (heap : Heap) (v : Value) : Prop where
  plain : (v.unfold heap).Plain
  depth_le : (v.toJson heap).depth ≤ Json.depthLimit

namespace Value

variable {store : Store} {v : Value}

theorem JsonReadable.run_jsonTransformer (h : v.JsonReadable store.heap) :
    (jsonTransformer v).run store = (.ok (.text (v.toJson store.heap).toText), store) := by
  cases v with
  | undefined | callable _ => exact h.plain.elim
  | _ => rfl

theorem JsonReadable.parse?_toText (h : v.JsonReadable store.heap) :
    Json.parse? (v.toJson store.heap).toText.toList = some (v.toJson store.heap) := by
  rw [Json.toText, String.toList_ofList]
  exact Json.parse?_render h.plain.toJson h.depth_le

/-- **The text reads back.** The JSON text of a value, read in any store, gives a value that equals it; and
two values with the same JSON text are equal. -/
theorem jsonTransformer_readable (h : v.JsonReadable store.heap) :
    ∃ s json, (jsonTransformer v).run store = (.ok (.text s), store) ∧
      Json.parse? s.toList = some json ∧
      (∀ other : Store,
        let read := (ofJson json).run other
        (read.1.unfold read.2.heap).equals (v.unfold store.heap) = true) ∧
      ∀ w : Value, w.JsonReadable store.heap →
        (jsonTransformer w).run store = (.ok (.text s), store) → v.equals store.heap w = true := by
  refine ⟨_, _, h.run_jsonTransformer, h.parse?_toText, fun other => ?_, fun w hw htext => ?_⟩
  · obtain ⟨w, after, hrun, -, hdenotes⟩ := exists_ofJson (v.toJson store.heap) other
    simp only [hrun]
    exact h.plain.equals_of_denotes hdenotes
  · rw [hw.run_jsonTransformer, Prod.mk.injEq, Except.ok.injEq, Value.text.injEq] at htext
    have hjson : w.toJson store.heap = v.toJson store.heap := by
      have hparse := hw.parse?_toText
      rw [htext.1, h.parse?_toText] at hparse
      exact (Option.some.inj hparse).symm
    have hdenotes : (v.toJson store.heap).Denotes (v.unfold store.heap) := h.plain.denotes
    rw [← hjson] at hdenotes
    exact hw.plain.equals_of_denotes hdenotes

/-- A mapping with awkward keys, empty sequences and the integers of 64 bits at both ends. -/
theorem jsonTransformer_readable_nested :
    let store : Store := ⟨⟨#[[], [.integer (-9223372036854775808), .integer 9223372036854775807,
      .sequence ⟨0⟩, .text "\"\\\t\x01\x7fλ😀", .keyed []]]⟩, #[]⟩
    let v : Value := .keyed [("\n", .null), ("\"", .sequence ⟨1⟩), ("é", .bool true)]
    v.JsonReadable store.heap ∧
    ∃ s json, (jsonTransformer v).run store = (.ok (.text s), store) ∧
      Json.parse? s.toList = some json ∧
      (∀ other : Store,
        let read := (ofJson json).run other
        (read.1.unfold read.2.heap).equals (v.unfold store.heap) = true) ∧
      ∀ w : Value, w.JsonReadable store.heap →
        (jsonTransformer w).run store = (.ok (.text s), store) → v.equals store.heap w = true := by
  intro store v
  have h : v.JsonReadable store.heap := by
    have hsorted : Entries.Sorted
        [("\n", Tree.null), ("\"", Value.unfold store.heap (.sequence ⟨1⟩)), ("é", .bool true)] := by
      rw [Entries.Sorted]
      decide +kernel
    have hitems : (Value.unfold store.heap (.sequence ⟨1⟩)).Plain :=
      ⟨trivial, trivial, trivial, trivial, ⟨.nil, trivial⟩, trivial⟩
    exact ⟨⟨hsorted, trivial, hitems, trivial, trivial⟩, by decide +kernel⟩
  exact ⟨h, jsonTransformer_readable h⟩

end Value

end Stencil
