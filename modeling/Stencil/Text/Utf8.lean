/-!
# Byte offsets into a text

A text is a list of characters; a position in it is a byte offset of its UTF-8 form. An offset
inside a character is no position.

* `byteLength`: the number of bytes of a text.
* `splitBytes?`: the two parts of a text at an offset, if the offset is on a boundary.
* `cutBytes`: the same for any offset, moved up to the next boundary.
-/

namespace Stencil.Text

/-- The number of bytes of the UTF-8 form. -/
def byteLength : List Char → Nat
  | [] => 0
  | c :: rest => c.utf8Size + byteLength rest

/-- The parts before and from offset `n`; none if `n` is inside a character or past the end. -/
def splitBytes? : List Char → Nat → Option (List Char × List Char)
  | cs, 0 => some ([], cs)
  | [], _ + 1 => none
  | c :: rest, n + 1 =>
    if c.utf8Size ≤ n + 1 then
      (splitBytes? rest (n + 1 - c.utf8Size)).map fun parts => (c :: parts.1, parts.2)
    else none

/-- The shortest initial part of at least `n` bytes, and the rest; all of a text that has fewer. -/
def cutBytes : List Char → Nat → List Char × List Char
  | cs, 0 => ([], cs)
  | [], _ + 1 => ([], [])
  | c :: rest, n + 1 =>
    let parts := cutBytes rest (n + 1 - c.utf8Size)
    (c :: parts.1, parts.2)

@[simp] theorem byteLength_nil : byteLength [] = 0 := rfl

@[simp] theorem byteLength_cons (c : Char) (cs : List Char) :
    byteLength (c :: cs) = c.utf8Size + byteLength cs := rfl

@[simp] theorem byteLength_append (a b : List Char) :
    byteLength (a ++ b) = byteLength a + byteLength b := by
  induction a with
  | nil => simp
  | cons c a ih => simp [ih, Nat.add_assoc]

@[simp] theorem cutBytes_zero (cs : List Char) : cutBytes cs 0 = ([], cs) := by
  cases cs <;> rfl

/-- Cutting loses nothing. -/
theorem cutBytes_append (cs : List Char) (n : Nat) :
    (cutBytes cs n).1 ++ (cutBytes cs n).2 = cs := by
  fun_induction cutBytes cs n with
  | case1 => rfl
  | case2 => rfl
  | case3 c rest n parts ih => exact congrArg (c :: ·) ih

/-- The offset of a boundary cuts there. -/
theorem cutBytes_byteLength (a b : List Char) : cutBytes (a ++ b) (byteLength a) = (a, b) := by
  induction a with
  | nil => simp
  | cons c a ih =>
    obtain ⟨n, hn⟩ : ∃ n, c.utf8Size + byteLength a = n + 1 :=
      ⟨c.utf8Size + byteLength a - 1, by have := c.utf8Size_pos; omega⟩
    have hsub : n + 1 - c.utf8Size = byteLength a := by omega
    simp [hn, cutBytes, hsub, ih]

/-- The offset of a boundary splits there. -/
theorem splitBytes?_byteLength (a b : List Char) :
    splitBytes? (a ++ b) (byteLength a) = some (a, b) := by
  induction a with
  | nil => cases b <;> rfl
  | cons c a ih =>
    obtain ⟨n, hn⟩ : ∃ n, c.utf8Size + byteLength a = n + 1 :=
      ⟨c.utf8Size + byteLength a - 1, by have := c.utf8Size_pos; omega⟩
    have hsub : n + 1 - c.utf8Size = byteLength a := by omega
    have hle : c.utf8Size ≤ n + 1 := by omega
    simp [hn, splitBytes?, hsub, hle, ih]

end Stencil.Text
