import Stencil.Text.Utf8

/-!
# Boundaries

The byte offsets at which a text can be cut are the ends of the text and the places between two of its
characters.

* `IsBoundary`: such an offset.
* `splitBytes?_eq_some_iff`: the two parts of a text at a boundary.
* `exists_nextBoundary?`: the search for a boundary ends at the one where `cutBytes` cuts.
* `isBoundary_iff_isValid`: the boundaries are the valid positions of a string.
* `toByteArray_of_splitBytes?`: the two parts of a string are the bytes before and from the boundary.
-/

namespace Stencil.Text

/-- The offset is a position in the text: at an end of it or between two characters. -/
def IsBoundary (cs : List Char) (n : Nat) : Prop := (splitBytes? cs n).isSome = true

instance (cs : List Char) (n : Nat) : Decidable (IsBoundary cs n) :=
  inferInstanceAs (Decidable ((splitBytes? cs n).isSome = true))

/-- The part of a text between two offsets, if both are positions in it. -/
def sliceBytes? (cs : List Char) (start stop : Nat) : Option (List Char) := do
  let (front, _) ← splitBytes? cs stop
  let (_, part) ← splitBytes? front start
  pure part

/-- The first boundary among the offsets from `n` to the end, which are tried one by one. -/
def nextBoundary? (cs : List Char) (n : Nat) : Option Nat :=
  (List.range' n (byteLength cs + 1 - n)).find? fun m => decide (IsBoundary cs m)

/-- A text is cut into two parts, at the length of the first one. -/
theorem splitBytes?_eq_some_iff {cs front back : List Char} {n : Nat} :
    splitBytes? cs n = some (front, back) ↔ cs = front ++ back ∧ n = byteLength front := by
  constructor
  · intro h
    fun_induction splitBytes? cs n generalizing front with
    | case1 cs =>
      cases h
      exact ⟨rfl, rfl⟩
    | case2 n => cases h
    | case3 c rest n hle ih =>
      obtain ⟨⟨front', back'⟩, hrest, h⟩ := Option.map_eq_some_iff.mp h
      obtain ⟨rfl, rfl⟩ := Prod.mk.inj h
      obtain ⟨hcs, hn⟩ := ih hrest
      refine ⟨congrArg (c :: ·) hcs, ?_⟩
      show n + 1 = c.utf8Size + byteLength front'
      omega
    | case4 c rest n hle => cases h
  · rintro ⟨rfl, rfl⟩
    exact splitBytes?_byteLength front back

theorem isBoundary_iff {cs : List Char} {n : Nat} :
    IsBoundary cs n ↔ ∃ front back, cs = front ++ back ∧ n = byteLength front := by
  rw [IsBoundary, Option.isSome_iff_exists, Prod.exists]
  exact exists_congr fun _ => exists_congr fun _ => splitBytes?_eq_some_iff

theorem isBoundary_byteLength (front back : List Char) :
    IsBoundary (front ++ back) (byteLength front) :=
  isBoundary_iff.mpr ⟨front, back, rfl, rfl⟩

theorem IsBoundary.le {cs : List Char} {n : Nat} (h : IsBoundary cs n) : n ≤ byteLength cs := by
  obtain ⟨front, back, rfl, rfl⟩ := isBoundary_iff.mp h
  rw [byteLength_append]
  exact Nat.le_add_right ..

theorem sliceBytes?_append (front part back : List Char) :
    sliceBytes? (front ++ part ++ back) (byteLength front) (byteLength (front ++ part)) = some part := by
  rw [sliceBytes?, splitBytes?_byteLength]
  show (splitBytes? (front ++ part) (byteLength front)).bind _ = _
  rw [splitBytes?_byteLength]
  rfl

theorem isBoundary_of_sliceBytes? {cs part : List Char} {start stop : Nat}
    (h : sliceBytes? cs start stop = some part) : IsBoundary cs start ∧ IsBoundary cs stop := by
  obtain ⟨⟨front, back⟩, hstop, h⟩ := Option.bind_eq_some_iff.mp h
  obtain ⟨⟨first, part⟩, hstart, -⟩ := Option.bind_eq_some_iff.mp h
  obtain ⟨rfl, rfl⟩ := splitBytes?_eq_some_iff.mp hstop
  obtain ⟨rfl, rfl⟩ := splitBytes?_eq_some_iff.mp hstart
  refine ⟨?_, isBoundary_byteLength _ _⟩
  rw [List.append_assoc]
  exact isBoundary_byteLength _ _

theorem le_byteLength_cutBytes {cs : List Char} {n : Nat} (h : n ≤ byteLength cs) :
    n ≤ byteLength (cutBytes cs n).1 := by
  fun_induction cutBytes cs n with
  | case1 cs => exact Nat.zero_le _
  | case2 n => exact h
  | case3 c rest n parts ih =>
    rw [byteLength_cons] at h
    have hrest : n + 1 - c.utf8Size ≤ byteLength parts.1 := ih (by omega)
    show n + 1 ≤ byteLength (c :: parts.1)
    rw [byteLength_cons]
    omega

/-- There is no boundary between an offset and the place where it cuts. -/
theorem byteLength_cutBytes_le (front back : List Char) {n : Nat} (h : n ≤ byteLength front) :
    byteLength (cutBytes (front ++ back) n).1 ≤ byteLength front := by
  induction front generalizing n with
  | nil =>
    obtain rfl : n = 0 := Nat.le_zero.mp h
    simp
  | cons c front ih =>
    cases n with
    | zero => simp
    | succ n =>
      rw [byteLength_cons] at h ⊢
      have hrest := ih (n := n + 1 - c.utf8Size) (by omega)
      show byteLength (c :: (cutBytes (front ++ back) (n + 1 - c.utf8Size)).1) ≤ _
      rw [byteLength_cons]
      omega

/-- The search for a boundary ends, at the latest at the end of the text, and where `cutBytes` cuts. -/
theorem exists_nextBoundary? {cs : List Char} {n : Nat} (h : n ≤ byteLength cs) :
    ∃ front back, cs = front ++ back ∧ cutBytes cs n = (front, back) ∧
      nextBoundary? cs n = some (byteLength front) := by
  have hcut := cutBytes_append cs n
  refine ⟨(cutBytes cs n).1, (cutBytes cs n).2, hcut.symm, rfl, ?_⟩
  have hboundary := isBoundary_byteLength (cutBytes cs n).1 (cutBytes cs n).2
  rw [hcut] at hboundary
  rw [nextBoundary?, List.find?_range'_eq_some]
  refine ⟨decide_eq_true hboundary, ?_, fun m hm hlt => ?_⟩
  · have hle := le_byteLength_cutBytes h
    have hend := hboundary.le
    rw [List.mem_range'_1]
    omega
  · rw [Bool.not_eq_true', decide_eq_false_iff_not]
    intro hearlier
    obtain ⟨front, back, rfl, rfl⟩ := isBoundary_iff.mp hearlier
    exact Nat.not_lt.mpr (byteLength_cutBytes_le front back hm) hlt

example : nextBoundary? ['a', 'é', 'b'] 2 = some 3 := by decide

/-! ## Bytes -/

theorem utf8ByteSize_ofList (cs : List Char) : (String.ofList cs).utf8ByteSize = byteLength cs := by
  induction cs with
  | nil => rfl
  | cons c cs ih =>
    rw [← List.singleton_append, String.ofList_append, String.utf8ByteSize_append, ih,
      ← String.singleton_eq_ofList, String.utf8ByteSize_singleton, byteLength_append, byteLength_cons,
      byteLength_nil, Nat.add_zero]

variable {s : String} {n : Nat} {front back : List Char}

theorem string_eq_append (h : splitBytes? s.toList n = some (front, back)) :
    s = String.ofList front ++ String.ofList back ∧ n = (String.ofList front).utf8ByteSize := by
  obtain ⟨htext, hn⟩ := splitBytes?_eq_some_iff.mp h
  refine ⟨?_, hn.trans (utf8ByteSize_ofList front).symm⟩
  rw [← String.ofList_append, ← htext, String.ofList_toList]

/-- The boundaries of a text are the valid positions of the string. -/
theorem isBoundary_iff_isValid : IsBoundary s.toList n ↔ (⟨n⟩ : String.Pos.Raw).IsValid s := by
  rw [String.Pos.Raw.isValid_iff_exists_append]
  constructor
  · intro h
    obtain ⟨⟨front, back⟩, hsplit⟩ := Option.isSome_iff_exists.mp h
    obtain ⟨hs, hn⟩ := string_eq_append hsplit
    exact ⟨_, _, hs, String.Pos.Raw.ext hn⟩
  · rintro ⟨s₁, s₂, rfl, hn⟩
    refine isBoundary_iff.mpr ⟨s₁.toList, s₂.toList, String.toList_append, ?_⟩
    rw [← utf8ByteSize_ofList, String.ofList_toList]
    exact congrArg String.Pos.Raw.byteIdx hn

/-- The two parts of a string at a boundary are its bytes before the boundary and from there on. -/
theorem toByteArray_of_splitBytes? (h : splitBytes? s.toList n = some (front, back)) :
    s.toByteArray.extract 0 n = (String.ofList front).toByteArray ∧
      s.toByteArray.extract n s.utf8ByteSize = (String.ofList back).toByteArray := by
  obtain ⟨rfl, rfl⟩ := string_eq_append h
  rw [String.toByteArray_append]
  constructor
  · exact ByteArray.extract_append_eq_left rfl
  · refine ByteArray.extract_append_eq_right rfl ?_
    rw [String.utf8ByteSize_append]
    rfl

end Stencil.Text
