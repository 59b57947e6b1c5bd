import Mathlib.Data.List.Nodup
import Stencil.Proofs.Json.Merge
import Stencil.Proofs.Json.Parser
import Stencil.Settings.Source

/-!
# Settings, written and read

* `Settings.fields`: the fields as they are written, each with its key.
* `Settings.ofJson?_of_find?`: settings are read from any object that has their fields.
* `Settings.listed`: the settings that have some fields of given ones, and the default ones otherwise.
* `Settings.ofText_json`: these are read from a text that lists the fields, in any order and among other
  entries.
-/

namespace Stencil.Settings

/-! ## Fields -/

/-- The keys of the fields. -/
def fieldKeys : List String := ["debug", "log_level", "multi_formatter_mode", "formatters"]

/-- The fields as they are written, each with its key. -/
def fields (s : Settings) : List (String × Json) := [
  ("debug", .bool s.debug),
  ("log_level", .text s.logLevel),
  ("multi_formatter_mode", .bool s.multi),
  ("formatters", .array (s.formatters.map .text))]

variable {s : Settings} {key : String} {v w : Json}

/-- A list of texts is written without numbers and objects. -/
theorem plain_texts (texts : List String) :
    (Json.array (texts.map .text)).Plain ∧ (Json.array (texts.map .text)).depth ≤ 1 := by
  have hitems : Json.ItemsPlain (texts.map .text) ∧ Json.itemsDepth (texts.map .text) = 0 := by
    induction texts with
    | nil => exact ⟨trivial, rfl⟩
    | cons s rest ih =>
      rw [List.map_cons, Json.itemsDepth, ih.2]
      exact ⟨⟨trivial, ih.1⟩, rfl⟩
  refine ⟨hitems.1, ?_⟩
  rw [Json.depth, hitems.2]

theorem map_fst_fields (s : Settings) : s.fields.map Prod.fst = fieldKeys := rfl

theorem key_mem (h : (key, v) ∈ s.fields) : key ∈ fieldKeys :=
  map_fst_fields s ▸ List.mem_map_of_mem h

/-- Every field is written once. -/
theorem eq_of_mem_fields (h : (key, v) ∈ s.fields) (h' : (key, w) ∈ s.fields) : v = w := by
  have hnodup : (s.fields.map Prod.fst).Nodup := by
    rw [map_fst_fields]
    decide
  exact congrArg Prod.snd (List.inj_on_of_nodup_map hnodup h h' rfl)

/-- A field is written without numbers and objects. -/
theorem plain_of_mem_fields (h : (key, v) ∈ s.fields) :
    v.Plain ∧ v.depth ≤ 1 ∧ ∀ entries, v ≠ .object entries := by
  simp only [fields, List.mem_cons, List.not_mem_nil, or_false, Prod.mk.injEq] at h
  rcases h with ⟨-, rfl⟩ | ⟨-, rfl⟩ | ⟨-, rfl⟩ | ⟨-, rfl⟩
  · exact ⟨trivial, Nat.zero_le _, nofun⟩
  · exact ⟨trivial, Nat.zero_le _, nofun⟩
  · exact ⟨trivial, Nat.zero_le _, nofun⟩
  · exact ⟨(plain_texts _).1, (plain_texts _).2, nofun⟩

theorem find?_fields (h : (key, v) ∈ s.fields) : (Entries.ofList s.fields).find? key = some v := by
  have hvalue : ∀ field ∈ s.fields, field.1 = key → field.2 = v := by
    rintro ⟨_, w⟩ hw rfl
    exact eq_of_mem_fields hw h
  rw [Entries.find?_ofList hvalue, if_pos (List.mem_map_of_mem h)]

theorem textsOf?_map_text (texts : List String) : textsOf? (.array (texts.map .text)) = some texts := by
  rw [textsOf?]
  induction texts with
  | nil => rfl
  | cons s rest ih =>
    rw [List.map_cons, List.mapM_cons, ih]
    rfl

/-- Settings are read from any object that has their fields. -/
theorem ofJson?_of_find? {entries : Entries Json}
    (h : ∀ field ∈ s.fields, entries.find? field.1 = some field.2) :
    ofJson? (.object entries) = some s := by
  simp only [fields, List.forall_mem_cons] at h
  obtain ⟨hdebug, hlogLevel, hmulti, hformatters, -⟩ := h
  simp only [ofJson?, hdebug, hlogLevel, hmulti, hformatters, ofFields?, boolOf?, textOf?, textsOf?_map_text]

/-! ## Some of the fields -/

/-- The settings that have the fields of `s` at these keys, and the default ones at all others. -/
def listed (s : Settings) (keys : List String) : Settings where
  debug := if "debug" ∈ keys then s.debug else default.debug
  logLevel := if "log_level" ∈ keys then s.logLevel else default.logLevel
  multi := if "multi_formatter_mode" ∈ keys then s.multi else default.multi
  formatters := if "formatters" ∈ keys then s.formatters else default.formatters

/-- With all keys, nothing is left of the default ones. -/
theorem listed_eq {keys : List String} (h : ∀ key ∈ fieldKeys, key ∈ keys) : s.listed keys = s := by
  simp only [fieldKeys, List.forall_mem_cons] at h
  obtain ⟨hdebug, hlogLevel, hmulti, hformatters, -⟩ := h
  simp only [listed, if_pos hdebug, if_pos hlogLevel, if_pos hmulti, if_pos hformatters]

theorem mem_fields_listed {keys : List String} (h : (key, v) ∈ (s.listed keys).fields) :
    ∃ w d, (key, w) ∈ s.fields ∧ (key, d) ∈ default.fields ∧ v = if key ∈ keys then w else d := by
  simp only [fields, listed, List.mem_cons, List.not_mem_nil, or_false, Prod.mk.injEq] at h
  rcases h with ⟨rfl, rfl⟩ | ⟨rfl, rfl⟩ | ⟨rfl, rfl⟩ | ⟨rfl, rfl⟩
  · exact ⟨.bool s.debug, .bool default.debug, by simp [fields], by simp [fields], by split <;> rfl⟩
  · exact ⟨.text s.logLevel, .text default.logLevel, by simp [fields], by simp [fields],
      by split <;> rfl⟩
  · exact ⟨.bool s.multi, .bool default.multi, by simp [fields], by simp [fields], by split <;> rfl⟩
  · exact ⟨.array (s.formatters.map .text), .array (default.formatters.map .text), by simp [fields],
      by simp [fields], by split <;> rfl⟩

/-- A text that denotes an object sets the fields that it has, and no other ones. -/
theorem ofText_of_parse? {t : String} {entries : Entries Json} {keys : List String}
    (hparse : Json.parse? t.toList = some (.object entries)) (hsorted : Entries.Sorted entries)
    (hfields : ∀ key v, (key, v) ∈ s.fields →
      entries.find? key = if key ∈ keys then some v else none) :
    ofText .json t = .ok (s.listed keys) := by
  have hmerge : Json.merge default.toJson (.object entries) =
      .object (Json.mergeEntries (Entries.ofList default.fields) entries) := rfl
  have hmerged : ∀ field ∈ (s.listed keys).fields,
      Entries.find? field.1 (Json.mergeEntries (Entries.ofList default.fields) entries) =
        some field.2 := by
    rintro ⟨key, v⟩ hv
    obtain ⟨w, d, hw, hd, rfl⟩ := mem_fields_listed hv
    rw [Json.find?_mergeEntries _ hsorted, hfields key w hw, find?_fields hd]
    by_cases hkey : key ∈ keys
    · -- A field is not merged with its default, as no field is an object.
      simp only [if_pos hkey, Option.elim_some, Json.merge_eq (plain_of_mem_fields hw).2.2]
    · simp only [if_neg hkey]
  rw [ofText, document?, hparse]
  simp only [hmerge, ofJson?_of_find? hmerged]

/-! ## Written objects -/

/-- An entry of an object that `s` is read from: one of its fields, or a value that can be written at a key
that is of no field. -/
def IsEntry (s : Settings) (entry : String × Json) : Prop :=
  entry ∈ s.fields ∨
    entry.1 ∉ fieldKeys ∧ entry.2.Legible ∧ entry.2.depth < Json.depthLimit

theorem IsEntry.legible {entry : String × Json} (h : s.IsEntry entry) :
    entry.2.Legible ∧ entry.2.depth < Json.depthLimit := by
  rcases h with h | h
  · obtain ⟨hplain, hdepth, -⟩ := plain_of_mem_fields h
    exact ⟨hplain.legible, Nat.lt_of_le_of_lt hdepth (by decide)⟩
  · exact h.2

/-- Only the field itself is at its key, and it is read as it was written. -/
theorem IsEntry.readBack_eq {entry : String × Json} (h : s.IsEntry entry) (hv : (entry.1, v) ∈ s.fields) :
    entry.2.readBack = v := by
  rcases h with h | h
  · rw [(plain_of_mem_fields h).1.readBack_eq]
    exact eq_of_mem_fields h hv
  · exact absurd (key_mem hv) h.1

/-- **Loading undoes saving.** The settings that are read from the text of an object have the fields that are
listed there and the default ones otherwise. The fields may come in any order and among entries that
belong to no field, and a list takes the place of the default list as a whole. With all fields, the settings
are the ones that were written. -/
theorem ofText_json (s : Settings) {entries : List (String × Json)} (h : ∀ entry ∈ entries, s.IsEntry entry) :
    ofText .json (Json.object entries).toText = .ok (s.listed (entries.map Prod.fst)) ∧
      ((∀ key ∈ fieldKeys, key ∈ entries.map Prod.fst) →
        ofText .json (Json.object entries).toText = .ok s) := by
  have hfields : ∀ key v, (key, v) ∈ s.fields →
      (Entries.ofList (entries.map fun entry => (entry.1, entry.2.readBack))).find? key =
        if key ∈ entries.map Prod.fst then some v else none := by
    intro key v hv
    have hvalue : ∀ pair ∈ entries.map fun entry => (entry.1, entry.2.readBack),
        pair.1 = key → pair.2 = v := by
      intro pair hpair hkey
      obtain ⟨entry, he, rfl⟩ := List.mem_map.mp hpair
      exact (h entry he).readBack_eq (hkey ▸ hv)
    rw [Entries.find?_ofList hvalue, List.map_map]
    rfl
  have hparse := Json.parse?_object fun entry he => (h entry he).legible
  have htext := ofText_of_parse? hparse (Entries.sorted_ofList _) hfields
  exact ⟨htext, fun hall => by rw [htext, listed_eq hall]⟩

/-- Three fields, a shorter list among them, with other entries between them. -/
theorem ofText_json_listed :
    let s : Settings := ⟨true, "say \"info\"\n", true, ["CStyleFormatter"]⟩
    let entries : List (String × Json) := [
      ("extra", .object [("debug", .real (Number.Binary64.ofRatio true 1 3)), ("a", .array [.null])]),
      ("formatters", .array [.text "CStyleFormatter"]),
      ("", .integer (-9223372036854775808)),
      ("multi_formatter_mode", .bool true),
      ("log_level", .text "say \"info\"\n")]
    (∀ entry ∈ entries, s.IsEntry entry) ∧
      ofText .json (Json.object entries).toText = .ok { s with debug := false } ∧
      ((∀ key ∈ fieldKeys, key ∈ entries.map Prod.fst) →
        ofText .json (Json.object entries).toText = .ok s) := by
  intro s entries
  have h : ∀ entry ∈ entries, s.IsEntry entry := by
    refine List.forall_mem_cons.mpr ⟨.inr ⟨by decide, ?_, by decide⟩, ?_⟩
    · exact ⟨trivial, ⟨trivial, trivial⟩, trivial⟩
    refine List.forall_mem_cons.mpr ⟨.inl (by simp [s, fields]), ?_⟩
    refine List.forall_mem_cons.mpr ⟨.inr ⟨by decide, ⟨by decide, by decide⟩, by decide⟩, ?_⟩
    refine List.forall_mem_cons.mpr ⟨.inl (by simp [s, fields]), ?_⟩
    exact List.forall_mem_singleton.mpr (.inl (by simp [s, fields]))
  exact ⟨h, ofText_json s h⟩

end Stencil.Settings
