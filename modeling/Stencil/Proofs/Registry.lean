import Mathlib.Data.List.Nodup
import Stencil.Registry

/-!
# Registries over time

What a registry finds, and which names it lists, after additions and removals.

* `find?_eq_some_iff`: a registry finds what it holds.
* `find?_insert?_self`, `find?_erase?`, `find?_replace_self` and so on: what it finds after a change.
* `add_of_mem`, `add_of_not_mem`, `remove_of_mem`, `remove_of_not_mem`: when a change fails.
* `listed`: the names that a list of events leaves, in order.
* `listed_append`: events one after the other.
-/

namespace Stencil.Registry

variable {α : Type} {r s : Registry α} {kind name other : String} {a b : α}

/-! ## What a registry holds -/

theorem find?_eq_none_iff : r.find? name = none ↔ name ∉ r.names := by
  rw [find?, List.lookup_eq_none_iff, names, List.mem_map]
  constructor
  · rintro h ⟨entry, hentry, rfl⟩
    exact bne_iff_ne.mp (h entry hentry) rfl
  · intro h entry hentry
    exact bne_iff_ne.mpr fun hname => h ⟨entry, hentry, hname.symm⟩

theorem find?_eq_some_iff : r.find? name = some a ↔ (name, a) ∈ r.entries := by
  rw [find?, List.lookup_eq_some_iff]
  constructor
  · rintro ⟨front, rest, h, -⟩
    rw [h]
    exact List.mem_append_right front List.mem_cons_self
  · intro h
    obtain ⟨front, rest, hsplit⟩ := List.append_of_mem h
    have hnodup := r.nodup
    rw [hsplit, List.map_append, List.map_cons] at hnodup
    refine ⟨front, rest, hsplit, fun entry hentry => bne_iff_ne.mpr fun hname => ?_⟩
    -- an entry of the same name in front would make the name occur twice
    exact List.disjoint_of_nodup_append hnodup (List.mem_map_of_mem hentry)
      (hname ▸ List.mem_cons_self)

theorem mem_names_iff : name ∈ r.names ↔ ∃ a, r.find? name = some a := by
  rw [← Option.ne_none_iff_exists', ne_eq, find?_eq_none_iff, not_not]

theorem entries_insert? (h : r.insert? name a = some s) : s.entries = r.entries ++ [(name, a)] := by
  unfold insert? at h
  split at h
  · cases h
  · rw [← Option.some.inj h]

theorem entries_erase? (h : r.erase? name = some s) :
    s.entries = r.entries.filter fun entry => entry.1 ≠ name := by
  unfold erase? at h
  split at h
  · rw [← Option.some.inj h]
  · cases h

theorem find?_insert?_self (h : r.insert? name a = some s) : s.find? name = some a := by
  rw [find?_eq_some_iff, entries_insert? h]
  exact List.mem_append_right r.entries List.mem_cons_self

theorem find?_insert?_of_find? (h : r.insert? name a = some s) (hb : r.find? other = some b) :
    s.find? other = some b := by
  rw [find?_eq_some_iff, entries_insert? h]
  exact List.mem_append_left _ (find?_eq_some_iff.mp hb)

theorem find?_erase? (h : r.erase? name = some s) (hne : other ≠ name) :
    s.find? other = r.find? other := by
  refine Option.ext fun a => ?_
  rw [find?_eq_some_iff, find?_eq_some_iff, entries_erase? h, List.mem_filter]
  exact and_iff_left (decide_eq_true hne)

theorem find?_replace_self (h : name ∈ r.names) (a : α) : (r.replace name a).find? name = some a := by
  obtain ⟨b, hb⟩ := mem_names_iff.mp h
  exact find?_eq_some_iff.mpr (List.mem_map.mpr ⟨(name, b), find?_eq_some_iff.mp hb, if_pos rfl⟩)

theorem find?_replace_of_ne (hne : other ≠ name) (a : α) :
    (r.replace name a).find? other = r.find? other := by
  refine Option.ext fun b => ?_
  rw [find?_eq_some_iff, find?_eq_some_iff, replace, List.mem_map]
  constructor
  · rintro ⟨entry, hentry, h⟩
    split at h
    · next heq =>
      obtain ⟨hname, -⟩ := Prod.mk.inj h
      exact absurd (hname.symm.trans heq) hne
    · exact h ▸ hentry
  · exact fun h => ⟨(other, b), h, if_neg hne⟩

/-! ## When a change fails -/

theorem add_of_mem (h : name ∈ r.names) (a : α) :
    r.add kind name a = .error (.duplicateName kind name) := by
  rw [add, insert?_eq_none_iff.mpr h]

theorem add_of_not_mem (kind : String) (h : name ∉ r.names) (a : α) :
    ∃ s, r.insert? name a = some s ∧ r.add kind name a = .ok s := by
  obtain ⟨s, hs⟩ := Option.ne_none_iff_exists'.mp (mt insert?_eq_none_iff.mp h)
  exact ⟨s, hs, by rw [add, hs]⟩

theorem remove_of_not_mem (h : name ∉ r.names) :
    r.remove kind name = .error (.notFound kind name) := by
  rw [remove, erase?_eq_none_iff.mpr h]

theorem remove_of_mem (kind : String) (h : name ∈ r.names) :
    ∃ s, r.erase? name = some s ∧ r.remove kind name = .ok s := by
  obtain ⟨s, hs⟩ := Option.ne_none_iff_exists'.mp (mt erase?_eq_none_iff.mp (not_not.mpr h))
  exact ⟨s, hs, by rw [remove, hs]⟩

/-! ## The names that events leave -/

/-- A change of the names in a registry. -/
inductive Event where
  | added (name : String)
  | removed (name : String)
  deriving DecidableEq, Repr

/-- The names that have been added and not removed since, in the order of their additions. A name can
be added again only after its removal, so that its latest addition counts. -/
def addedNames : List Event → List String
  | [] => []
  | .added name :: later =>
    if .removed name ∈ later then addedNames later else name :: addedNames later
  | .removed _ :: later => addedNames later

/-- The names after some events: the ones from the start that have never been removed, in their order,
and behind them those that have been added and not removed since. -/
def listed (start : List String) (events : List Event) : List String :=
  start.filter (fun name => .removed name ∉ events) ++ addedNames events

variable {start : List String} {events later : List Event}

@[simp] theorem listed_nil (start : List String) : listed start [] = start := by
  simp [listed, addedNames]

/-- The names of a registry with one thing more. -/
theorem names_eq_listed_added (h : r.insert? name a = some s) :
    s.names = listed r.names [.added name] := by
  rw [names_insert? h]
  simp [listed, addedNames]

/-- The names of a registry with one thing less. -/
theorem names_eq_listed_removed (h : r.erase? name = some s) :
    s.names = listed r.names [.removed name] := by
  rw [names_erase? h]
  simp [listed, addedNames]

/-- Of the names that some events add, later ones take away those that they remove. -/
theorem addedNames_append (events later : List Event) :
    addedNames (events ++ later) =
      (addedNames events).filter (fun name => .removed name ∉ later) ++ addedNames later := by
  induction events with
  | nil => rfl
  | cons event events ih =>
    cases event with
    | removed name => exact ih
    | added name =>
      rw [List.cons_append, addedNames, addedNames, ih]
      by_cases hhere : Event.removed name ∈ events
      · rw [if_pos hhere, if_pos (List.mem_append_left later hhere)]
      · rw [if_neg hhere, List.filter_cons]
        by_cases hlater : Event.removed name ∈ later
        · rw [if_pos (List.mem_append_right events hlater), if_neg (by simpa using hlater)]
        · rw [if_neg (by simp [hhere, hlater]), if_pos (by simpa using hlater), List.cons_append]

theorem listed_append (start : List String) (events later : List Event) :
    listed start (events ++ later) = listed (listed start events) later := by
  have hstart : (start.filter fun name => .removed name ∉ events ++ later) =
      (start.filter fun name => .removed name ∉ events).filter fun name => .removed name ∉ later := by
    rw [List.filter_filter]
    exact List.filter_congr fun name _ => by simp [Bool.and_comm]
  rw [listed, addedNames_append, hstart, listed, listed, List.filter_append, List.append_assoc]

theorem mem_addedNames :
    name ∈ addedNames events ↔
      ∃ earlier later, events = earlier ++ .added name :: later ∧ .removed name ∉ later := by
  constructor
  · intro h
    induction events with
    | nil => cases h
    | cons event events ih =>
      have hrest (h : name ∈ addedNames events) :
          ∃ earlier later, event :: events = earlier ++ .added name :: later ∧
            .removed name ∉ later := by
        obtain ⟨earlier, later, hsplit, hkept⟩ := ih h
        exact ⟨event :: earlier, later, by rw [hsplit, List.cons_append], hkept⟩
      cases event with
      | removed _ => exact hrest h
      | added first =>
        rw [addedNames] at h
        split at h
        · exact hrest h
        · next hkept =>
          rcases List.mem_cons.mp h with rfl | h
          · exact ⟨[], events, rfl, hkept⟩
          · exact hrest h
  · rintro ⟨earlier, later, rfl, hkept⟩
    rw [addedNames_append, addedNames, if_neg hkept]
    exact List.mem_append_right _ List.mem_cons_self

theorem mem_listed :
    name ∈ listed start events ↔
      name ∈ start ∧ .removed name ∉ events ∨
        ∃ earlier later, events = earlier ++ .added name :: later ∧ .removed name ∉ later := by
  rw [listed, List.mem_append, List.mem_filter, decide_eq_true_eq, mem_addedNames]

end Stencil.Registry
