import Stencil.Text.Basic

/-!
# Parts between separators

* `IsSplit`: the parts of a text, without saying how they are found.
* `isSplit_iff`: every text has parts in one way, which is how it is split.
-/

namespace Stencil.Text

/-- The text is these parts with separators between them, and they have no separator in them. -/
structure IsSplit (separator : Char) (parts : List (List Char)) (cs : List Char) : Prop where
  ne_nil : parts ≠ []
  not_mem : ∀ part ∈ parts, separator ∉ part
  joined : [separator].intercalate parts = cs

variable {separator : Char} {parts : List (List Char)} {cs : List Char}

/-- A text is split as a list with a separator among its elements. -/
theorem splitOn_eq (separator : Char) (cs : List Char) : splitOn separator cs = cs.splitOn separator := by
  induction cs with
  | nil => rfl
  | cons c rest ih =>
    have hcons : (c :: rest).splitOn separator =
        if (c == separator) = true then [] :: rest.splitOn separator
        else (rest.splitOn separator).modifyHead (List.cons c) :=
      List.splitOnP_cons_eq_if_modifyHead c rest
    rw [splitOn, hcons, ih]
    by_cases hc : c = separator
    · simp [hc]
    · simp only [if_neg hc, beq_iff_eq]
      cases hrest : rest.splitOn separator with
      | nil => exact absurd (ih.trans hrest) (splitOn_ne_nil separator rest)
      | cons first more => rfl

theorem isSplit_splitOn (separator : Char) (cs : List Char) :
    IsSplit separator (splitOn separator cs) cs where
  ne_nil := splitOn_ne_nil separator cs
  not_mem := by
    induction cs with
    | nil => simp [splitOn]
    | cons c rest ih =>
      rw [splitOn]
      split
      · exact List.forall_mem_cons.mpr ⟨List.not_mem_nil, ih⟩
      · next hc =>
        split
        · exact List.forall_mem_singleton.mpr fun h => hc (List.mem_singleton.mp h).symm
        · next first more hrest =>
          rw [hrest, List.forall_mem_cons] at ih
          refine List.forall_mem_cons.mpr ⟨fun h => ?_, ih.2⟩
          rcases List.mem_cons.mp h with h | h
          · exact hc h.symm
          · exact ih.1 h
  joined := by rw [splitOn_eq, List.intercalate_splitOn]

/-- Every text has parts in one way. -/
theorem isSplit_iff : IsSplit separator parts cs ↔ parts = splitOn separator cs := by
  constructor
  · intro h
    rw [← h.joined, splitOn_eq, List.splitOn_intercalate separator h.not_mem h.ne_nil]
  · rintro rfl
    exact isSplit_splitOn separator cs

end Stencil.Text
