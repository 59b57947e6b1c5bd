import Stencil.Json
import Stencil.Proofs.Json.Path

/-!
# Merged JSON values

* `merge_eq`, `merge_of_not_objects`: what replaces what was there.
* `find?_mergeEntries`, `merge_object_eq`: what a merged object has at a key, and what it is from that.
* `hasLeaf_merge_iff`: the leaves of a merged value.
* `Ordered.merge`, `Ordered.merge_merge`, `Ordered.merge_self`, `Ordered.merge_empty`: merging again, a value
  over itself, and over an empty object.
* `merge_leaves`: all of this together.
-/

namespace Stencil.Json

variable {base overlay v w leaf : Json} {entries layer : Entries Json} {key : String} {path : List String}

/-- What is not an object replaces what was there. -/
theorem merge_eq (h : ∀ entries, overlay ≠ object entries) :
    merge base overlay = overlay := by
  cases overlay with
  | object entries => exact absurd rfl (h entries)
  | _ => cases base <;> rfl

/-- Unless both values are objects, the second one replaces the first one. -/
theorem merge_of_not_objects (h : ¬ (base.isObject = true ∧ overlay.isObject = true)) :
    merge base overlay = overlay := by
  by_cases hoverlay : overlay.isObject = true
  · obtain ⟨layer, rfl⟩ := eq_object_of_isObject hoverlay
    cases base with
    | object entries => exact absurd ⟨rfl, rfl⟩ h
    | _ => rfl
  · refine merge_eq fun entries heq => hoverlay ?_
    rw [heq, isObject]

theorem merge_of_leaf (h : overlay.isObject = false) : merge base overlay = overlay :=
  merge_of_not_objects (by simp [h])

/-- A merged object has at a key what the second object has there, over what the first one has there; and
what the first one has, if the second one has nothing. -/
theorem find?_mergeEntries (entries : Entries Json) (hlayer : layer.Sorted) (key : String) :
    Entries.find? key (mergeEntries entries layer) =
      match layer.find? key with
      | none => entries.find? key
      | some v => some ((entries.find? key).elim v (merge · v)) := by
  induction layer generalizing entries with
  | nil => rfl
  | cons entry rest ih =>
    obtain ⟨k, v⟩ := entry
    have hmerged : mergeEntries entries ((k, v) :: rest) =
        mergeEntries (entries.insert k ((entries.find? k).elim v (merge · v))) rest := by
      rw [mergeEntries]
      cases entries.find? k <;> rfl
    rw [hmerged, ih _ (List.pairwise_cons.mp hlayer).2, Entries.find?]
    by_cases hkey : k = key
    · subst hkey
      rw [hlayer.find?_eq_none, if_pos rfl, Entries.find?_insert, if_pos rfl]
    · rw [if_neg hkey, Entries.find?_insert, if_neg hkey]

theorem find?_mergeEntries_of_none (hlayer : layer.Sorted) (hv : layer.find? key = none) :
    Entries.find? key (mergeEntries entries layer) = entries.find? key := by
  rw [find?_mergeEntries entries hlayer, hv]

theorem find?_mergeEntries_of_new (hlayer : layer.Sorted) (hv : layer.find? key = some v)
    (hw : entries.find? key = none) : Entries.find? key (mergeEntries entries layer) = some v := by
  rw [find?_mergeEntries entries hlayer, hv, hw]
  rfl

theorem find?_mergeEntries_of_both (hlayer : layer.Sorted) (hv : layer.find? key = some v)
    (hw : entries.find? key = some w) :
    Entries.find? key (mergeEntries entries layer) = some (merge w v) := by
  rw [find?_mergeEntries entries hlayer, hv, hw]
  rfl

theorem sorted_mergeEntries (h : entries.Sorted) (layer : Entries Json) :
    Entries.Sorted (mergeEntries entries layer) := by
  induction layer generalizing entries with
  | nil => exact h
  | cons entry rest ih => exact ih (h.insert _ _)

/-- What a merged object is, from what it has at the keys. -/
theorem merge_object_eq {merged : Entries Json} (hentries : entries.Sorted) (hmerged : merged.Sorted)
    (hfind : ∀ key, Entries.find? key (mergeEntries entries layer) = merged.find? key) :
    merge (object entries) (object layer) = object merged := by
  rw [merge, (sorted_mergeEntries hentries layer).ext hmerged hfind]

/-! ## Leaves -/

/-- A leaf of a merged value is one of the second value, or else one of the first value where the second one
has nothing and could have something. -/
theorem hasLeaf_merge_iff (hoverlay : overlay.Ordered) :
    (merge base overlay).HasLeaf path leaf ↔ overlay.HasLeaf path leaf ∨
      base.HasLeaf path leaf ∧ overlay.valueAt? path = none ∧ ¬ overlay.Blocks path := by
  induction path generalizing base overlay with
  | nil =>
    -- At the root the second value has itself.
    have hnone : overlay.valueAt? [] ≠ none := by simp [valueAt?]
    by_cases hobjects : base.isObject = true ∧ overlay.isObject = true
    · obtain ⟨⟨entries, rfl⟩, ⟨layer, rfl⟩⟩ :=
        hobjects.imp eq_object_of_isObject eq_object_of_isObject
      simp [merge, hasLeaf_nil_iff, isObject, hnone]
    · simp [merge_of_not_objects hobjects, hnone]
  | cons key path ih =>
    by_cases hobjects : base.isObject = true ∧ overlay.isObject = true
    · obtain ⟨⟨entries, rfl⟩, ⟨layer, rfl⟩⟩ :=
        hobjects.imp eq_object_of_isObject eq_object_of_isObject
      rw [merge, hasLeaf_cons_iff, hasLeaf_cons_iff, hasLeaf_cons_iff, blocks_cons_iff]
      cases hv : layer.find? key with
      | none =>
        rw [find?_mergeEntries_of_none hoverlay.sorted hv, valueAt?_cons_of_none hv]
        simp
      | some v =>
        rw [valueAt?_cons_of_some hv]
        cases hw : entries.find? key with
        | none =>
          rw [find?_mergeEntries_of_new hoverlay.sorted hv hw]
          simp
        | some w =>
          rw [find?_mergeEntries_of_both hoverlay.sorted hv hw]
          simpa using ih (hoverlay.of_find? hv)
    · rw [merge_of_not_objects hobjects]
      refine (or_iff_left ?_).symm
      rintro ⟨hbase, -, hblocks⟩
      by_cases hobject : overlay.isObject = true
      · exact hasLeaf_cons_of_not_object (by simpa [hobject] using hobjects) hbase
      · exact hblocks (blocks_cons_of_not_object (by simpa using hobject))

/-! ## Merging again -/

theorem Ordered.merge (hbase : base.Ordered) (hoverlay : overlay.Ordered) :
    (merge base overlay).Ordered := by
  induction hoverlay generalizing base with
  | of_leaf hleaf =>
    rw [merge_of_leaf hleaf]
    exact .of_leaf hleaf
  | @of_object layer hlayer hvalues ih =>
    by_cases hobject : base.isObject = true
    · obtain ⟨entries, rfl⟩ := eq_object_of_isObject hobject
      have hsorted := sorted_mergeEntries hbase.sorted layer
      refine .of_object hsorted fun (key, x) hx => ?_
      have hfind := hsorted.find?_eq_some_iff.mpr hx
      -- A member is one of the first value, one of the second, or merged from both.
      cases hv : layer.find? key with
      | none =>
        rw [find?_mergeEntries_of_none hlayer hv] at hfind
        exact hbase.of_find? hfind
      | some v =>
        have hmem := hlayer.find?_eq_some_iff.mp hv
        cases hw : entries.find? key with
        | none =>
          rw [find?_mergeEntries_of_new hlayer hv hw] at hfind
          obtain rfl := Option.some.inj hfind
          exact hvalues _ hmem
        | some w =>
          rw [find?_mergeEntries_of_both hlayer hv hw] at hfind
          obtain rfl := Option.some.inj hfind
          exact ih _ hmem (hbase.of_find? hw)
    · rw [merge_of_not_objects (fun h => hobject h.1)]
      exact .of_object hlayer hvalues

/-- A value over an empty object is itself. -/
theorem Ordered.merge_empty (h : v.Ordered) : Json.merge (object []) v = v := by
  cases h with
  | of_leaf hleaf => exact merge_of_leaf hleaf
  | @of_object entries hsorted hvalues =>
    refine merge_object_eq .nil hsorted fun key => ?_
    cases hv : entries.find? key with
    | none => rw [find?_mergeEntries_of_none hsorted hv]; rfl
    | some v => exact find?_mergeEntries_of_new hsorted hv rfl

/-- A value over itself is itself. -/
theorem Ordered.merge_self (h : v.Ordered) : Json.merge v v = v := by
  induction h with
  | of_leaf hleaf => exact merge_of_leaf hleaf
  | @of_object entries hsorted hvalues ih =>
    refine merge_object_eq hsorted hsorted fun key => ?_
    cases hv : entries.find? key with
    | none => rw [find?_mergeEntries_of_none hsorted hv, hv]
    | some v =>
      rw [find?_mergeEntries_of_both hsorted hv hv, ih _ (hsorted.find?_eq_some_iff.mp hv)]

/-- To merge a value twice is to merge it once. -/
theorem Ordered.merge_merge (hbase : base.Ordered) (hoverlay : overlay.Ordered) :
    Json.merge (Json.merge base overlay) overlay = Json.merge base overlay := by
  induction hoverlay generalizing base with
  | of_leaf hleaf => rw [merge_of_leaf hleaf, merge_of_leaf hleaf]
  | @of_object layer hlayer hvalues ih =>
    by_cases hobject : base.isObject = true
    · obtain ⟨entries, rfl⟩ := eq_object_of_isObject hobject
      have hsorted := sorted_mergeEntries hbase.sorted layer
      rw [Json.merge]
      refine merge_object_eq hsorted hsorted fun key => ?_
      -- At a key of the second value the first merge has left a member, which meets the same member again.
      cases hv : layer.find? key with
      | none => exact find?_mergeEntries_of_none hlayer hv
      | some v =>
        have hmem := hlayer.find?_eq_some_iff.mp hv
        cases hw : entries.find? key with
        | none =>
          have hfirst := find?_mergeEntries_of_new hlayer hv hw
          rw [find?_mergeEntries_of_both hlayer hv hfirst, hfirst, (hvalues _ hmem).merge_self]
        | some w =>
          have hfirst := find?_mergeEntries_of_both hlayer hv hw
          rw [find?_mergeEntries_of_both hlayer hv hfirst, hfirst, ih _ hmem (hbase.of_find? hw)]
    · rw [merge_of_not_objects fun h => hobject h.1]
      exact (Ordered.of_object hlayer hvalues).merge_self

/-- **Merged values.** A merged value is the second one, unless both are objects. The leaves of the second value
are leaves of the result, and so are those of the first one at paths where the second one has nothing, and
nothing but objects on the way there; it has no other leaves. To merge a value twice is to merge it once,
and a value over an empty object or over itself is that value. -/
theorem merge_leaves (hbase : base.Ordered) (hoverlay : overlay.Ordered) :
    (¬ (base.isObject = true ∧ overlay.isObject = true) → merge base overlay = overlay) ∧
    (∀ path leaf, overlay.HasLeaf path leaf → (merge base overlay).HasLeaf path leaf) ∧
    (∀ path leaf, base.HasLeaf path leaf → overlay.valueAt? path = none → ¬ overlay.Blocks path →
      (merge base overlay).HasLeaf path leaf) ∧
    (∀ path leaf, (merge base overlay).HasLeaf path leaf → overlay.HasLeaf path leaf ∨
      base.HasLeaf path leaf ∧ overlay.valueAt? path = none ∧ ¬ overlay.Blocks path) ∧
    (merge base overlay).Ordered ∧
    merge (merge base overlay) overlay = merge base overlay ∧
    merge (object []) overlay = overlay ∧
    merge overlay overlay = overlay := by
  refine ⟨merge_of_not_objects, fun path leaf h => ?_, fun path leaf h hnone hblocks => ?_,
    fun path leaf h => ?_, hbase.merge hoverlay, hbase.merge_merge hoverlay, hoverlay.merge_empty,
    hoverlay.merge_self⟩
  · exact (hasLeaf_merge_iff hoverlay).mpr (.inl h)
  · exact (hasLeaf_merge_iff hoverlay).mpr (.inr ⟨h, hnone, hblocks⟩)
  · exact (hasLeaf_merge_iff hoverlay).mp h

/-- The leaves of a nested object that are not replaced stay, and an empty object is no leaf. -/
theorem merge_leaves_nested :
    let base := object [("a", object [("b", integer 1), ("c", integer 2)]), ("d", integer 3)]
    let overlay := object [("a", object [("b", integer 10)]), ("d", object [])]
    base.Ordered ∧ overlay.Ordered ∧ (merge base overlay).HasLeaf ["a", "b"] (integer 10) ∧
      (merge base overlay).HasLeaf ["a", "c"] (integer 2) ∧
      ∀ leaf, ¬ (merge base overlay).HasLeaf ["d"] leaf := by
  intro base overlay
  have hbase : base.Ordered := by
    have hinner : (object [("b", integer 1), ("c", integer 2)]).Ordered :=
      ordered_object_iff.mpr ⟨by decide, by simp⟩
    exact ordered_object_iff.mpr ⟨by decide, List.forall_mem_cons.mpr ⟨hinner, by simp⟩⟩
  have hoverlay : overlay.Ordered := by
    have hinner : (object [("b", integer 10)]).Ordered := ordered_object_iff.mpr ⟨by decide, by simp⟩
    have hempty : (object []).Ordered := ordered_object_iff.mpr ⟨by decide, by simp⟩
    exact ordered_object_iff.mpr ⟨by decide, List.forall_mem_cons.mpr ⟨hinner, by simp [hempty]⟩⟩
  have hblocks : ¬ overlay.Blocks ["a", "c"] := by simp [overlay, blocks_cons_iff, Entries.find?]
  obtain ⟨-, hsecond, hfirst, honly, -⟩ := merge_leaves hbase hoverlay
  refine ⟨hbase, hoverlay, hsecond _ _ ⟨rfl, rfl⟩, hfirst _ _ ⟨rfl, rfl⟩ rfl hblocks, ?_⟩
  intro leaf hleaf
  rcases honly _ _ hleaf with ⟨hvalue, hobject⟩ | ⟨-, hnone, -⟩
  · cases hvalue
    cases hobject
  · cases hnone

end Stencil.Json
