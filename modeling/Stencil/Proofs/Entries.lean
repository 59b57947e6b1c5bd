import Stencil.Entries

/-!
# Inserted entries

* `Entries.Sorted.insert_eq`, `Entries.Sorted.ofList_eq`: in the order of their keys, entries are inserted
  one after the other.
* `Entries.sorted_ofList`: the entries of any list of pairs come in this order.
* `Entries.find?_ofList`: the value at a key that has one value only in the list.
* `Entries.find?_append_cons`, `Entries.exists_of_find?_eq_some`: what is found at a key is in its first
  entry.
* `Entries.Sorted.ext`: entries in this order are known from what is found at the keys.
-/

namespace Stencil.Entries

variable {α : Type} {entries before rest : Entries α} {key : String} {value : α}

/-- An entry with a greater key than all others comes last. -/
theorem insert_of_forall_lt (h : ∀ entry ∈ entries, entry.1 < key) :
    entries.insert key value = entries ++ [(key, value)] := by
  induction entries with
  | nil => rfl
  | cons entry rest ih =>
    have hlt : entry.1 < key := h entry List.mem_cons_self
    have hne : entry.1 ≠ key := fun he => String.lt_irrefl key (he ▸ hlt)
    rw [insert, if_neg (String.lt_asymm hlt), if_neg hne,
      ih fun entry hentry => h entry (List.mem_cons_of_mem _ hentry)]
    rfl

/-- In the order of their keys, every entry is inserted after the ones before it. -/
theorem Sorted.insert_eq (h : Sorted (before ++ (key, value) :: rest)) :
    before.insert key value = before ++ [(key, value)] :=
  insert_of_forall_lt fun entry hentry =>
    (List.pairwise_append.mp h).2.2 entry hentry _ List.mem_cons_self

theorem Sorted.foldl_insert (h : Sorted (before ++ entries)) :
    entries.foldl (fun entries pair => entries.insert pair.1 pair.2) before = before ++ entries := by
  induction entries generalizing before with
  | nil => exact (List.append_nil _).symm
  | cons pair rest ih =>
    rw [List.foldl_cons, h.insert_eq, ih]
    · exact List.append_assoc ..
    · rwa [List.append_assoc]

theorem Sorted.ofList_eq (h : Sorted entries) : ofList entries = entries := by
  rw [← List.nil_append entries] at h
  exact h.foldl_insert

/-! ## The order of the keys -/

instance (entries : Entries α) : Decidable (Sorted entries) :=
  inferInstanceAs (Decidable (entries.Pairwise fun a b => a.1 < b.1))

theorem mem_of_mem_insert {pair : String × α} (h : pair ∈ entries.insert key value) :
    pair = (key, value) ∨ pair ∈ entries := by
  induction entries with
  | nil => exact .inl (List.mem_singleton.mp h)
  | cons entry rest ih => grind [Entries.insert]

theorem Sorted.insert (h : Sorted entries) (key : String) (value : α) :
    Sorted (entries.insert key value) := by
  induction entries with
  | nil => exact List.pairwise_singleton ..
  | cons entry rest ih =>
    obtain ⟨hfirst, hrest⟩ := List.pairwise_cons.mp h
    rw [Entries.insert]
    split
    · rename_i hlt
      refine List.pairwise_cons.mpr ⟨fun pair hpair => ?_, h⟩
      rcases List.mem_cons.mp hpair with rfl | hpair
      · exact hlt
      · exact String.lt_trans hlt (hfirst pair hpair)
    split
    · rename_i hkey
      exact List.pairwise_cons.mpr ⟨fun pair hpair => hkey ▸ hfirst pair hpair, hrest⟩
    · rename_i hlt hne
      refine List.pairwise_cons.mpr ⟨fun pair hpair => ?_, ih hrest⟩
      rcases mem_of_mem_insert hpair with rfl | hpair
      · exact Std.lt_of_le_of_ne (String.not_lt.mp hlt) hne
      · exact hfirst pair hpair

theorem sorted_ofList (pairs : List (String × α)) : Sorted (ofList pairs) := by
  have hfold : ∀ {entries : Entries α}, Sorted entries →
      Sorted (pairs.foldl (fun entries pair => entries.insert pair.1 pair.2) entries) := by
    induction pairs with
    | nil => exact id
    | cons pair rest ih => exact fun h => ih (h.insert pair.1 pair.2)
  exact hfold .nil

/-- A key does not come again. -/
theorem Sorted.find?_eq_none (h : Sorted ((key, value) :: entries)) : entries.find? key = none := by
  have hlt := (List.pairwise_cons.mp h).1
  clear h
  induction entries with
  | nil => rfl
  | cons entry rest ih =>
    have hne : entry.1 ≠ key := fun he => String.lt_irrefl key (he ▸ hlt entry List.mem_cons_self)
    rw [find?, if_neg hne, ih fun pair hpair => hlt pair (List.mem_cons_of_mem _ hpair)]

/-! ## Look-up -/

/-- Nothing is found at a key that is not there. -/
theorem find?_eq_none_iff : entries.find? key = none ↔ key ∉ entries.map Prod.fst := by
  induction entries with
  | nil => simp [find?]
  | cons entry rest ih =>
    rw [find?, List.map_cons, List.mem_cons, not_or]
    by_cases hkey : entry.1 = key
    · rw [if_pos hkey]
      exact iff_of_false (Option.some_ne_none _) fun h => h.1 hkey.symm
    · rw [if_neg hkey, ih]
      exact ⟨fun h => ⟨Ne.symm hkey, h⟩, fun h => h.2⟩

/-- The first entry of a key is what is found at it. -/
theorem find?_append_cons (h : key ∉ before.map Prod.fst) :
    find? key (before ++ (key, value) :: rest) = some value := by
  induction before with
  | nil => exact if_pos rfl
  | cons entry before ih =>
    rw [List.map_cons, List.mem_cons, not_or] at h
    rw [List.cons_append, find?, if_neg (Ne.symm h.1), ih h.2]

/-- What is found at a key is in its first entry. -/
theorem exists_of_find?_eq_some (h : entries.find? key = some value) :
    ∃ before rest, entries = before ++ (key, value) :: rest ∧ key ∉ before.map Prod.fst := by
  induction entries with
  | nil => cases h
  | cons entry entries ih =>
    rw [find?] at h
    by_cases hkey : entry.1 = key
    · rw [if_pos hkey] at h
      cases h
      exact ⟨[], entries, by rw [← hkey]; rfl, List.not_mem_nil⟩
    · rw [if_neg hkey] at h
      obtain ⟨before, rest, rfl, hbefore⟩ := ih h
      exact ⟨entry :: before, rest, rfl, List.not_mem_cons_of_ne_of_not_mem (Ne.symm hkey) hbefore⟩

theorem Sorted.nodup (h : Sorted entries) : entries.Nodup := by
  refine List.Pairwise.imp (fun {a b} hlt heq => ?_) h
  rw [heq] at hlt
  exact String.lt_irrefl _ hlt

/-- In the order of their keys, what is found at a key is its entry. -/
theorem Sorted.find?_eq_some_iff (h : Sorted entries) :
    entries.find? key = some value ↔ (key, value) ∈ entries := by
  induction entries with
  | nil => simp [find?]
  | cons entry rest ih =>
    obtain ⟨hfirst, hrest⟩ := List.pairwise_cons.mp h
    rw [find?, List.mem_cons]
    by_cases hkey : entry.1 = key
    · have hnot : (key, value) ∉ rest := by
        intro hmem
        have hlt : entry.1 < key := hfirst (key, value) hmem
        exact String.lt_irrefl key (hkey ▸ hlt)
      rw [if_pos hkey, or_iff_left hnot, ← hkey, Option.some.injEq]
      exact ⟨fun hvalue => hvalue ▸ rfl, fun hentry => hentry ▸ rfl⟩
    · have hne : (key, value) ≠ entry := fun hentry => hkey (hentry ▸ rfl)
      rw [if_neg hkey, ih hrest, or_iff_right hne]

/-- Entries in the order of their keys are known from what is found at the keys. -/
theorem Sorted.ext {others : Entries α} (h : Sorted entries) (hothers : Sorted others)
    (heq : ∀ key, entries.find? key = others.find? key) : entries = others := by
  have hperm : entries.Perm others := by
    refine (List.perm_ext_iff_of_nodup h.nodup hothers.nodup).mpr fun (key, value) => ?_
    rw [← h.find?_eq_some_iff, ← hothers.find?_eq_some_iff, heq]
  exact hperm.eq_of_pairwise (fun _ _ _ _ hlt hgt => absurd hgt (String.lt_asymm hlt)) h hothers

/-- If a key has one value only in a list of pairs, then this is its value in the entries. -/
theorem find?_ofList {pairs : List (String × α)} (h : ∀ pair ∈ pairs, pair.1 = key → pair.2 = value) :
    (ofList pairs).find? key = if key ∈ pairs.map Prod.fst then some value else none := by
  have hfold : ∀ entries : Entries α,
      (pairs.foldl (fun entries pair => entries.insert pair.1 pair.2) entries).find? key =
        if key ∈ pairs.map Prod.fst then some value else entries.find? key := by
    induction pairs with
    | nil => exact fun _ => rfl
    | cons pair rest ih =>
      intro entries
      have hfirst := h pair List.mem_cons_self
      rw [List.foldl_cons, ih fun pair hpair => h pair (List.mem_cons_of_mem _ hpair), find?_insert,
        List.map_cons]
      by_cases hkey : pair.1 = key
      · rw [if_pos hkey, hfirst hkey, hkey, if_pos List.mem_cons_self, ite_self]
      · have hiff : key ∈ pair.1 :: rest.map Prod.fst ↔ key ∈ rest.map Prod.fst := by
          rw [List.mem_cons, or_iff_right (Ne.symm hkey)]
        simp only [if_neg hkey, hiff]
  exact hfold []

end Stencil.Entries
