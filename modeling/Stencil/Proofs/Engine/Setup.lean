import Mathlib.Data.List.Induction
import Mathlib.Data.List.Nodup
import Stencil.Setup
import Stencil.Proofs.Action
import Stencil.Proofs.Registry

/-!
# Engines from settings

Settings list the formatters of an engine by their names, which may be any texts.

* `Buildable`: a list of names of built-in formatters without repetition.
* `FirstFault`: the first place where a list is not buildable, with the error of that place.
* `AddedByHand`: formatters with the names of a list, added to an empty engine one by one.
* `Holds.foldlM_addFormatter`: the chain after such additions.
* `FirstFault.addBuiltins_eq`, `buildable_or_firstFault`: a list that is not buildable has one first fault.
* `ofSettings_outcome`: which settings describe an engine, which engine, and the errors of the others.
-/

namespace Stencil.Engine

open Formatter Registry

/-- The formatters that settings can name. -/
def builtins : List Formatter := [.braceDefault, .percentDefault]

/-- The name is that of a built-in formatter. -/
def IsBuiltin (name : String) : Prop := ∃ f ∈ builtins, f.name = name

/-- Every name is that of a built-in formatter, and none occurs twice. -/
structure Buildable (names : List String) : Prop where
  builtin : ∀ name ∈ names, IsBuiltin name
  nodup : names.Nodup

/-- The first name that does not fit those in front of it, which are fine among themselves, is the cause of
an error: it is unknown, or it is that of a formatter in front. Names behind it do not matter. -/
inductive FirstFault : List String → Error → Prop where
  | unknown {front back : List String} {name : String} (hfront : Buildable front)
      (hname : ¬ IsBuiltin name) :
      FirstFault (front ++ name :: back) (.configuration (.unknownFormatter name))
  | duplicate {front back : List String} {name : String} (hfront : Buildable front)
      (hname : name ∈ front) :
      FirstFault (front ++ name :: back) (.duplicateName formatterKind name)

/-- The chain consists of these formatters, each under its own name. -/
def Holds (e : Engine) (fs : List Formatter) : Prop :=
  e.formatters.entries = fs.map fun f => (f.name, f)

/-- The built-in formatters with these names have been added to an empty engine one by one. -/
structure AddedByHand (names : List String) (fs : List Formatter) (hand : Engine) : Prop where
  names : fs.map Formatter.name = names
  builtin : ∀ f ∈ fs, f ∈ builtins
  added : fs.foldlM Engine.addFormatter empty = .ok hand

variable {e hand : Engine} {f : Formatter} {fs : List Formatter} {name : String}
  {names front back : List String} {error : Error}

/-! ## Names -/

theorem builtin_eq_ok_iff : Formatter.builtin name = .ok f ↔ f ∈ builtins ∧ f.name = name := by
  unfold Formatter.builtin builtins
  constructor
  · intro h
    split at h
    · next hname => cases h; simp [hname, braceDefault, Formatter.name]
    · split at h
      · next hname => cases h; simp [hname, percentDefault, Formatter.name]
      · cases h
  · rintro ⟨hf, rfl⟩
    simp only [List.mem_cons, List.not_mem_nil, or_false] at hf
    rcases hf with rfl | rfl
    · rfl
    · rfl

theorem builtin_of_not (h : ¬ IsBuiltin name) :
    Formatter.builtin name = .error (.configuration (.unknownFormatter name)) := by
  cases hname : Formatter.builtin name with
  | ok f => exact absurd ⟨f, builtin_eq_ok_iff.mp hname⟩ h
  | error e =>
    unfold Formatter.builtin at hname
    split at hname
    · cases hname
    · split at hname
      · cases hname
      · exact hname.symm

/-- Names of built-in formatters are those of a list of built-in formatters. -/
theorem exists_map_name (h : ∀ name ∈ names, IsBuiltin name) :
    ∃ fs : List Formatter, (∀ f ∈ fs, f ∈ builtins) ∧ fs.map Formatter.name = names := by
  induction names with
  | nil => exact ⟨[], by simp, rfl⟩
  | cons name names ih =>
    obtain ⟨f, hf, rfl⟩ := h name List.mem_cons_self
    obtain ⟨fs, hfs, rfl⟩ := ih fun other hother => h other (List.mem_cons_of_mem _ hother)
    exact ⟨f :: fs, List.forall_mem_cons.mpr ⟨hf, hfs⟩, rfl⟩

/-! ## Formatters added one by one -/

theorem Holds.formatterNames_eq (h : e.Holds fs) : e.formatterNames = fs.map Formatter.name := by
  rw [formatterNames, Registry.names, h, List.map_map]
  rfl

theorem holds_empty : empty.Holds [] := rfl

theorem addFormatter_of_mem (h : f.name ∈ e.formatterNames) :
    e.addFormatter f = .error (.duplicateName formatterKind f.name) := by
  rw [addFormatter, add_of_mem h]
  rfl

/-- A formatter whose name is not taken comes to the end of the chain. -/
theorem Holds.addFormatter (h : e.Holds fs) (hname : f.name ∉ fs.map Formatter.name) :
    ∃ e', e.addFormatter f = .ok e' ∧ e'.Holds (fs ++ [f]) ∧ e'.multi = e.multi := by
  rw [← h.formatterNames_eq] at hname
  obtain ⟨formatters, hinsert, hadd⟩ := add_of_not_mem formatterKind hname f
  refine ⟨{ e with formatters }, by rw [Engine.addFormatter, hadd]; rfl, ?_, rfl⟩
  rw [Holds, entries_insert? hinsert, h, List.map_append]
  rfl

/-- Formatters with distinct names come to the end of the chain in order. -/
theorem Holds.foldlM_addFormatter {more : List Formatter} (h : e.Holds fs)
    (hnodup : ((fs ++ more).map Formatter.name).Nodup) :
    ∃ e', more.foldlM Engine.addFormatter e = .ok e' ∧ e'.Holds (fs ++ more) ∧ e'.multi = e.multi := by
  induction more generalizing e fs with
  | nil => exact ⟨e, rfl, by rwa [List.append_nil], rfl⟩
  | cons f more ih =>
    have hname : f.name ∉ fs.map Formatter.name := by
      rw [List.map_append, List.map_cons] at hnodup
      exact fun hmem => List.disjoint_of_nodup_append hnodup hmem List.mem_cons_self
    obtain ⟨e₁, hadd, hholds, hmulti⟩ := h.addFormatter hname
    rw [List.append_cons] at hnodup ⊢
    obtain ⟨e₂, hrest, hholds, hmulti'⟩ := ih hholds hnodup
    refine ⟨e₂, ?_, hholds, hmulti'.trans hmulti⟩
    rw [List.foldlM_cons, hadd]
    exact hrest

/-- To add built-in formatters by their names is to add them. -/
theorem addBuiltins_eq_foldlM (e : Engine) (hfs : ∀ f ∈ fs, f ∈ builtins) :
    e.addBuiltins (fs.map Formatter.name) = fs.foldlM Engine.addFormatter e := by
  induction fs generalizing e with
  | nil => rfl
  | cons f fs ih =>
    obtain ⟨hf, hfs⟩ := List.forall_mem_cons.mp hfs
    rw [List.map_cons, addBuiltins, builtin_eq_ok_iff.mpr ⟨hf, rfl⟩, List.foldlM_cons]
    exact congrArg (e.addFormatter f >>= ·) (funext fun e' => ih e' hfs)

theorem addBuiltins_append (e : Engine) (front back : List String) :
    e.addBuiltins (front ++ back) = e.addBuiltins front >>= fun e' => e'.addBuiltins back := by
  induction front generalizing e with
  | nil => rfl
  | cons name front ih =>
    simp only [List.cons_append, addBuiltins, bind_assoc, ih]

theorem AddedByHand.addBuiltins_eq (h : AddedByHand names fs hand) :
    empty.addBuiltins names = .ok hand := by
  rw [← h.names, addBuiltins_eq_foldlM empty h.builtin]
  exact h.added

/-- The formatters of a buildable list can be added by hand, and the engine holds them then. -/
theorem Buildable.exists_addedByHand (h : Buildable names) :
    ∃ fs hand, AddedByHand names fs hand ∧ hand.Holds fs := by
  obtain ⟨fs, hfs, rfl⟩ := exists_map_name h.builtin
  obtain ⟨hand, hadd, hholds, -⟩ := holds_empty.foldlM_addFormatter h.nodup
  exact ⟨fs, hand, ⟨rfl, hfs, hadd⟩, hholds⟩

/-! ## Faults -/

/-- The first fault decides the error. -/
theorem FirstFault.addBuiltins_eq (h : FirstFault names error) :
    empty.addBuiltins names = .error error := by
  cases h with
  | @unknown front back name hfront hname =>
    obtain ⟨fs, hand, hadded, -⟩ := hfront.exists_addedByHand
    rw [addBuiltins_append, hadded.addBuiltins_eq]
    show hand.addBuiltins (name :: back) = _
    rw [addBuiltins, builtin_of_not hname]
    rfl
  | @duplicate front back name hfront hname =>
    obtain ⟨fs, hand, hadded, hholds⟩ := hfront.exists_addedByHand
    obtain ⟨f, hf, rfl⟩ := hfront.builtin name hname
    have htaken : f.name ∈ hand.formatterNames := by rwa [hholds.formatterNames_eq, hadded.names]
    rw [addBuiltins_append, hadded.addBuiltins_eq]
    show hand.addBuiltins (f.name :: back) = _
    rw [addBuiltins, builtin_eq_ok_iff.mpr ⟨hf, rfl⟩]
    show (hand.addFormatter f >>= _) = _
    rw [addFormatter_of_mem htaken]
    rfl

theorem FirstFault.append (h : FirstFault names error) (later : List String) :
    FirstFault (names ++ later) error := by
  cases h with
  | unknown hfront hname => rw [List.append_assoc, List.cons_append]; exact .unknown hfront hname
  | duplicate hfront hname => rw [List.append_assoc, List.cons_append]; exact .duplicate hfront hname

/-- A list of names is buildable, or it has a first fault. -/
theorem buildable_or_firstFault (names : List String) :
    Buildable names ∨ ∃ error, FirstFault names error := by
  induction names using List.reverseRecOn with
  | nil => exact .inl ⟨by simp, .nil⟩
  | append_singleton front name ih =>
    rcases ih with hfront | ⟨error, hfault⟩
    · by_cases hname : IsBuiltin name
      · by_cases hmem : name ∈ front
        · exact .inr ⟨_, .duplicate hfront hmem⟩
        · refine .inl ⟨?_, ?_⟩
          · simpa [or_imp, forall_and] using ⟨hfront.builtin, hname⟩
          · refine List.nodup_append.mpr ⟨hfront.nodup, by simp, fun other hother last hlast => ?_⟩
            rw [List.mem_singleton.mp hlast]
            exact ne_of_mem_of_not_mem hother hmem
      · exact .inr ⟨_, .unknown hfront hname⟩
    · exact .inr ⟨error, hfault.append [name]⟩

/-! ## Settings -/

variable {s : Settings}

theorem FirstFault.ofSettings_eq (h : FirstFault s.formatters error) : ofSettings s = .error error := by
  rw [ofSettings, h.addBuiltins_eq]
  rfl

theorem AddedByHand.ofSettings_eq (h : AddedByHand s.formatters fs hand) :
    ofSettings s = .ok (hand.setMulti s.multi) := by
  rw [ofSettings, h.addBuiltins_eq]
  rfl

/-- **Engines from settings.** Settings describe an engine exactly if their list of formatters is buildable.
The engine has the formatters of the list in order and the mode of the settings: it is the one that comes of
adding these formatters to an empty engine by hand, and formats every template as the chain of them does. For
any other list the first fault is the error, whatever stands behind it. -/
theorem ofSettings_outcome (s : Settings) :
    ((∃ e, ofSettings s = .ok e) ↔ Buildable s.formatters) ∧
    (∀ error, ofSettings s = .error error ↔ FirstFault s.formatters error) ∧
    ∀ e, ofSettings s = .ok e →
      e.formatterNames = s.formatters ∧ e.multi = s.multi ∧
      ∃ fs hand, AddedByHand s.formatters fs hand ∧ e = hand.setMulti s.multi ∧
        ∀ template args,
          e.format template args = run s.multi args (fs.map fun f => (f.name, f)) template := by
  -- A list is buildable or has a first fault, and either settles both equivalences.
  rcases buildable_or_firstFault s.formatters with h | ⟨error, h⟩
  · obtain ⟨fs, hand, hadded, hholds⟩ := h.exists_addedByHand
    have hok := hadded.ofSettings_eq
    refine ⟨iff_of_true ⟨_, hok⟩ h, fun error => ?_, fun e he => ?_⟩
    · refine iff_of_false (by simp [hok]) fun hfault => ?_
      simp [hfault.ofSettings_eq] at hok
    · obtain rfl := Except.ok.inj (hok.symm.trans he)
      refine ⟨hholds.formatterNames_eq.trans hadded.names, rfl, fs, hand, hadded, rfl, ?_⟩
      intro template args
      show run s.multi args hand.formatters.entries template = _
      rw [hholds]
  · have herror := h.ofSettings_eq
    refine ⟨iff_of_false (by simp [herror]) fun hbuildable => ?_, fun other => ?_, fun e he => ?_⟩
    · obtain ⟨_, _, hadded, -⟩ := hbuildable.exists_addedByHand
      simp [hadded.ofSettings_eq] at herror
    · refine ⟨fun hother => ?_, FirstFault.ofSettings_eq⟩
      obtain rfl := Except.error.inj (herror.symm.trans hother)
      exact h
    · simp [herror] at he

end Stencil.Engine
