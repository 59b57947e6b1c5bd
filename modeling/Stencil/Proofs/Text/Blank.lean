import Mathlib.Data.List.DropRight
import Stencil.Text.Basic

/-!
# Trimmed texts

Trimming takes the blanks at both ends away, and only these.

* `trim_append_left`, `trim_append_right`: more blanks at an end change nothing.
* `trim_append_of_solid`: a text without blanks in front stays there.
* `trim_eq_iff`: a trimmed text is what is left between blanks.
-/

namespace Stencil.Text

/-- All characters are blanks. -/
def Blank (cs : List Char) : Prop := ∀ c ∈ cs, isBlank c = true

/-- No character is a blank. -/
def Solid (cs : List Char) : Prop := ∀ c ∈ cs, isBlank c = false

theorem Solid.append {cs cs' : List Char} (h : Solid cs) (h' : Solid cs') : Solid (cs ++ cs') := fun c hc =>
  (List.mem_append.mp hc).elim (h c) (h' c)

variable {cs blanks solid : List Char} {c : Char}

theorem trimLeft_cons (h : isBlank c = false) (cs : List Char) : trimLeft (c :: cs) = c :: cs :=
  List.dropWhile_cons_of_neg (by simp [h])

theorem trimLeft_append (h : Blank blanks) (cs : List Char) : trimLeft (blanks ++ cs) = trimLeft cs :=
  List.dropWhile_append_of_pos h

theorem trimRight_append (h : Blank blanks) (cs : List Char) : trimRight (cs ++ blanks) = trimRight cs := by
  have hreverse : ∀ c ∈ blanks.reverse, isBlank c = true := fun c hc => h c (List.mem_reverse.mp hc)
  rw [trimRight, List.reverse_append, List.dropWhile_append_of_pos hreverse, trimRight]

theorem trimRight_append_of_solid (h : Solid solid) (cs : List Char) :
    trimRight (solid ++ cs) = solid ++ trimRight cs := by
  have hsolid : solid.reverse.dropWhile isBlank = solid.reverse := by
    cases hreverse : solid.reverse with
    | nil => rfl
    | cons last more =>
      have hlast := h last (List.mem_reverse.mp (hreverse ▸ List.mem_cons_self))
      exact List.dropWhile_cons_of_neg (by simp [hlast])
  rw [trimRight, trimRight, List.reverse_append, List.dropWhile_append]
  split
  · rename_i hempty
    rw [hsolid, List.reverse_reverse, List.isEmpty_iff.mp hempty, List.reverse_nil, List.append_nil]
  · rw [List.reverse_append, List.reverse_reverse]

theorem blank_of_trimRight (h : trimRight cs = []) : Blank cs := by
  have hdrop : cs.reverse.dropWhile isBlank = [] := List.reverse_eq_nil_iff.mp h
  have htake : cs.reverse.takeWhile isBlank = cs.reverse := by
    have hsplit := List.takeWhile_append_dropWhile (p := isBlank) (l := cs.reverse)
    rwa [hdrop, List.append_nil] at hsplit
  intro c hc
  rw [← List.mem_reverse, ← htake] at hc
  exact List.all_eq_true.mp List.all_takeWhile c hc

/-- Only a text of blanks loses its first character at its end. -/
theorem trimRight_cons (h : ¬ Blank (c :: cs)) : ∃ more, trimRight (c :: cs) = c :: more := by
  have hne : trimRight (c :: cs) ≠ [] := fun hnil => h (blank_of_trimRight hnil)
  rw [trimRight, List.reverse_cons, List.dropWhile_append] at hne ⊢
  split at hne
  · rw [if_pos ‹_›]
    cases hc : isBlank c with
    | true => exact absurd (by rw [List.dropWhile_cons_of_pos hc]; rfl) hne
    | false => exact ⟨[], by rw [List.dropWhile_cons_of_neg (by simp [hc])]; rfl⟩
  · rw [if_neg ‹_›, List.reverse_append]
    exact ⟨_, rfl⟩

/-- Blanks in front do not count. -/
theorem trim_append_left (h : Blank blanks) (cs : List Char) : trim (blanks ++ cs) = trim cs := by
  rw [trim, trimLeft_append h, trim]

/-- Blanks at the end do not count. -/
theorem trim_append_right (h : Blank blanks) (cs : List Char) : trim (cs ++ blanks) = trim cs := by
  rw [trim, trim, trimLeft, List.dropWhile_append, ← trimLeft]
  split
  · rename_i hempty
    have hblanks : blanks.dropWhile isBlank = [] := by
      have hdrop : (blanks ++ []).dropWhile isBlank = ([] : List Char).dropWhile isBlank :=
        List.dropWhile_append_of_pos h
      rwa [List.append_nil] at hdrop
    rw [hblanks, List.isEmpty_iff.mp hempty]
  · exact trimRight_append h _

/-- What has no blanks stays in front. -/
theorem trim_append_of_solid (h : Solid solid) (hne : solid ≠ []) (cs : List Char) :
    trim (solid ++ cs) = solid ++ trimRight cs := by
  obtain ⟨first, more, rfl⟩ := List.exists_cons_of_ne_nil hne
  rw [trim, List.cons_append, trimLeft_cons (h first List.mem_cons_self), ← List.cons_append,
    trimRight_append_of_solid h]

theorem trim_of_blank (h : Blank cs) : trim cs = [] := by
  have htrim := trim_append_left h []
  rwa [List.append_nil] at htrim

/-- No blank is at an end. -/
def Trimmed (cs : List Char) : Prop :=
  (∀ c ∈ cs.head?, isBlank c = false) ∧ ∀ c ∈ cs.getLast?, isBlank c = false

instance (cs : List Char) : Decidable (Trimmed cs) :=
  decidable_of_iff (cs.head?.all (fun c => !isBlank c) = true ∧ cs.getLast?.all (fun c => !isBlank c) = true)
    (by unfold Trimmed; cases cs.head? <;> cases cs.getLast? <;> simp)

theorem Solid.trimmed (h : Solid cs) : Trimmed cs :=
  ⟨fun c hc => h c (List.mem_of_mem_head? hc), fun c hc => h c (List.mem_of_mem_getLast? hc)⟩

theorem trim_of_trimmed (h : Trimmed cs) : trim cs = cs := by
  obtain ⟨hfirst, hlast⟩ := h
  have hleft : trimLeft cs = cs := by
    cases cs with
    | nil => rfl
    | cons c more => exact trimLeft_cons (hfirst c rfl) more
  rw [trim, hleft]
  refine List.rdropWhile_eq_self_iff.mpr fun hne => ?_
  simp [hlast _ (List.getLast?_eq_some_getLast hne)]

theorem trimmed_trim (cs : List Char) : Trimmed (trim cs) := by
  constructor
  · intro c hc
    obtain ⟨more, hmore⟩ : trim cs <+: trimLeft cs := List.rdropWhile_prefix isBlank _
    have hhead : (cs.dropWhile isBlank).head? = some c := by
      rw [← trimLeft, ← hmore, List.head?_append_of_ne_nil _ (by rintro hnil; simp [hnil] at hc)]
      exact hc
    have hnot := List.head?_dropWhile_not isBlank cs
    rw [hhead] at hnot
    simpa using hnot
  · intro c hc
    obtain ⟨hne, rfl⟩ := List.mem_getLast?_eq_getLast hc
    exact Bool.eq_false_iff.mpr (List.rdropWhile_last_not isBlank (trimLeft cs) hne)

theorem exists_margins (cs : List Char) :
    ∃ before after, Blank before ∧ Blank after ∧ cs = before ++ (trim cs ++ after) := by
  refine ⟨cs.takeWhile isBlank, (trimLeft cs).rtakeWhile isBlank, ?_, ?_, ?_⟩
  · exact fun c hc => List.mem_takeWhile_imp hc
  · exact fun c hc => List.mem_rtakeWhile_imp hc
  · have hright : trim cs ++ (trimLeft cs).rtakeWhile isBlank = trimLeft cs :=
      List.rdropWhile_append_rtakeWhile
    rw [hright, trimLeft, List.takeWhile_append_dropWhile]

/-- A trimmed text is what is left between blanks. -/
theorem trim_eq_iff {middle : List Char} : trim cs = middle ↔
    Trimmed middle ∧ ∃ before after, Blank before ∧ Blank after ∧ cs = before ++ (middle ++ after) := by
  constructor
  · rintro rfl
    exact ⟨trimmed_trim cs, exists_margins cs⟩
  · rintro ⟨htrimmed, before, after, hbefore, hafter, rfl⟩
    rw [trim_append_left hbefore, trim_append_right hafter, trim_of_trimmed htrimmed]

theorem trim_eq_nil_iff : trim cs = [] ↔ Blank cs := by
  refine ⟨fun h => ?_, trim_of_blank⟩
  obtain ⟨before, after, hbefore, hafter, hcs⟩ := exists_margins cs
  rw [h, List.nil_append] at hcs
  rw [hcs]
  exact fun c hc => (List.mem_append.mp hc).elim (hbefore c) (hafter c)

theorem trim_of_solid (h : Solid cs) : trim cs = cs := trim_of_trimmed h.trimmed

end Stencil.Text
