import Stencil.Directive.Field

/-!
# Texts in fields

A text in a field has the width of the field. It is a text with characters added in one place, or the last
characters of a text that is too long.

* `Padding.Fill`: where the characters are added, and which.
* `Padding.InField`: what stands in a field for a text.
* `Padding.inField_place`: the functions put just this there.
* `Padding.place_place`: a field in a field of the same width stays as it is.
-/

namespace Stencil.Padding

/-- The characters that are added to a text: spaces before or after it, or zeros behind its minus sign. -/
inductive Fill where
  | before
  | after
  | zeros
  deriving DecidableEq, Repr

/-- A text with so many characters added. -/
def Fill.insert : Fill → Nat → List Char → List Char
  | .before, k, cs => List.replicate k ' ' ++ cs
  | .after, k, cs => cs ++ List.replicate k ' '
  | .zeros, k, '-' :: cs => '-' :: (List.replicate k '0' ++ cs)
  | .zeros, k, cs => List.replicate k '0' ++ cs

/-- The text in a field. -/
def place (fill : Fill) (cs : List Char) (width : Nat) : List Char :=
  match fill with
  | .before => fit cs width ' ' false
  | .after => fit cs width ' ' true
  | .zeros => zeroFill cs width

/-- What stands in a field: as many characters as it has, or the whole text if it has none. They are the
last ones of a text that is not shorter, and otherwise the text with characters added. -/
structure InField (fill : Fill) (width : Nat) (cs field : List Char) : Prop where
  whole : width = 0 → field = cs
  length_eq : 0 < width → field.length = width
  last : 0 < width → width ≤ cs.length → field <:+ cs
  filled : cs.length < width → field = fill.insert (width - cs.length) cs

variable {fill : Fill} {cs : List Char} {width : Nat} {c : Char} {left : Bool}

theorem length_insert (fill : Fill) (k : Nat) (cs : List Char) : (fill.insert k cs).length = cs.length + k := by
  unfold Fill.insert
  split <;> simp <;> omega

theorem length_pad (cs : List Char) (width : Nat) (c : Char) (left : Bool) :
    (pad cs width c left).length = max cs.length width := by
  cases left <;> simp [pad] <;> omega

theorem keepLast_of_le (h : cs.length ≤ width) : keepLast cs width = cs := by
  rw [keepLast, Nat.sub_eq_zero_of_le h, List.drop_zero]

theorem length_keepLast (h : width ≤ cs.length) : (keepLast cs width).length = width := by
  rw [keepLast, List.length_drop]
  omega

/-- A text that is not shorter than the field loses its first characters. -/
theorem fit_of_le (hpos : 0 < width) (h : width ≤ cs.length) (c : Char) (left : Bool) :
    fit cs width c left = keepLast cs width := by
  rw [fit, if_neg (Nat.ne_of_gt hpos), pad, Nat.sub_eq_zero_of_le h, List.replicate_zero, List.append_nil, List.nil_append,
    ite_self]

/-- A shorter one is only padded. -/
theorem fit_of_lt (h : cs.length < width) (c : Char) (left : Bool) :
    fit cs width c left = pad cs width c left := by
  rw [fit, if_neg (Nat.ne_of_gt (Nat.zero_lt_of_lt h)), keepLast_of_le]
  rw [length_pad]
  omega

theorem zeroFill_of_le (h : width ≤ cs.length) : zeroFill cs width = fit cs width '0' false := by
  unfold zeroFill
  split
  · rw [if_neg (Nat.not_lt.mpr h)]
  · rfl

theorem zeroFill_of_ne (h : ∀ more, cs ≠ '-' :: more) (width : Nat) :
    zeroFill cs width = fit cs width '0' false := by
  rw [zeroFill]
  exact h

theorem Fill.insert_zeros_of_ne (h : ∀ more, cs ≠ '-' :: more) (k : Nat) :
    Fill.zeros.insert k cs = List.replicate k '0' ++ cs := by
  rw [Fill.insert]
  exact h

theorem place_zero (fill : Fill) (cs : List Char) : place fill cs 0 = cs := by
  cases fill with
  | before => rfl
  | after => rfl
  | zeros => exact (zeroFill_of_le (Nat.zero_le _)).trans rfl

theorem place_of_le (fill : Fill) (hpos : 0 < width) (h : width ≤ cs.length) :
    place fill cs width = keepLast cs width := by
  cases fill with
  | before => exact fit_of_le hpos h ' ' false
  | after => exact fit_of_le hpos h ' ' true
  | zeros => exact (zeroFill_of_le h).trans (fit_of_le hpos h '0' false)

theorem place_of_lt (fill : Fill) (h : cs.length < width) :
    place fill cs width = fill.insert (width - cs.length) cs := by
  cases fill with
  | before => exact fit_of_lt h ' ' false
  | after => exact fit_of_lt h ' ' true
  | zeros =>
    by_cases hminus : ∃ more, cs = '-' :: more
    · obtain ⟨more, rfl⟩ := hminus
      have hlen : width - 1 - more.length = width - ('-' :: more).length := by
        rw [List.length_cons]
        omega
      simp only [place, zeroFill, Fill.insert, pad, if_pos h, hlen, Bool.false_eq_true, if_false]
    · have hne : ∀ more, cs ≠ '-' :: more := not_exists.mp hminus
      rw [Fill.insert_zeros_of_ne hne]
      exact (zeroFill_of_ne hne width).trans (fit_of_lt h '0' false)

/-- The functions put in a field what should stand there. -/
theorem inField_place (fill : Fill) (cs : List Char) (width : Nat) :
    InField fill width cs (place fill cs width) where
  whole h := h ▸ place_zero fill cs
  length_eq hpos := by
    rcases Nat.lt_or_ge cs.length width with h | h
    · rw [place_of_lt fill h, length_insert]
      omega
    · rw [place_of_le fill hpos h, length_keepLast h]
  last hpos h := by
    rw [place_of_le fill hpos h]
    exact List.drop_suffix _ cs
  filled h := place_of_lt fill h

/-- A text that has the width of the field stays as it is. -/
theorem place_eq_self (fill : Fill) (h : cs.length = width) : place fill cs width = cs := by
  rcases Nat.eq_zero_or_pos width with rfl | hpos
  · exact place_zero fill cs
  · rw [place_of_le fill hpos (Nat.le_of_eq h.symm), keepLast_of_le (Nat.le_of_eq h)]

/-- What stands in a field stays as it is in a field of the same width. -/
theorem place_place (fill : Fill) (cs : List Char) (width : Nat) :
    place fill (place fill cs width) width = place fill cs width := by
  rcases Nat.eq_zero_or_pos width with rfl | hpos
  · exact place_zero fill _
  · exact place_eq_self fill ((inField_place fill cs width).length_eq hpos)

end Stencil.Padding
