import Stencil.Proofs.Directive.Padding
import Stencil.Proofs.Number.Display

/-!
# Numbers in padded texts

Spaces around a number do not count. Zeros behind its minus sign, or in front of a number without a sign, are
digits that change nothing; in front of anything else they make the text one that denotes no number.

* `BreaksWithZeros`: a plus sign or a blank comes first, or the number is hexadecimal.
* `number?_insert`: padding keeps the number of any other text.
* `number?_insert_zeros_of_breaks`: zeros destroy the number of such a text.
-/

namespace Stencil.Number

open Padding

variable {negative : Bool} {cs body more : List Char} {c : Char} {y : Binary64} {k : ℕ}

/-! ## Literals -/

/-- A digit or a point is the first character of a literal after its sign. -/
theorem head_of_ofText? {l : DecimalLiteral} (hsplit : splitSign cs = (negative, body))
    (h : DecimalLiteral.ofText? cs = some l) :
    ∃ c more, body = c :: more ∧ (c.isDigit = true ∨ c = '.') := by
  rw [DecimalLiteral.ofText?_eq hsplit] at h
  obtain ⟨digits, hdigits, -⟩ := Option.bind_eq_some_iff.mp h
  have hne := (digits_of_ofNumeral? hdigits).1
  cases body with
  | nil => exact absurd rfl hne
  | cons c more =>
    refine ⟨c, more, rfl, ?_⟩
    by_contra hnot
    obtain ⟨hdigit, hpoint⟩ := not_or.mp hnot
    rw [List.takeWhile_cons_of_neg hdigit, List.dropWhile_cons_of_neg hdigit,
      DecimalLiteral.splitPoint_of_ne fun more h => hpoint (List.cons.inj h).1] at hne
    exact hne rfl

theorem splitSign_zeros (negative : Bool) (k : ℕ) (more : List Char) :
    splitSign (signed negative (List.replicate (k + 1) '0' ++ more)) =
      (negative, List.replicate (k + 1) '0' ++ more) :=
  splitSign_signed negative (by decide) (by decide) _

/-- Zeros in front of anything that a number does not go on with are no number. -/
theorem ofText?_zeros_eq_none (hsplit : splitSign cs = (negative, List.replicate (k + 1) '0' ++ c :: more))
    (hdigit : c.isDigit = false) (hpoint : c ≠ '.') (hexponent : c ≠ 'e' ∧ c ≠ 'E') :
    DecimalLiteral.ofText? cs = none := by
  have hend : DecimalLiteral.exponentOf? (c :: more) = none := if_neg (not_or.mpr hexponent)
  obtain ⟨htake, hdrop⟩ := DecimalLiteral.takeWhile_digits (isDigit_zeros (k + 1))
    (show ∀ d ds, c :: more = d :: ds → d.isDigit = false from fun d ds h => (List.cons.inj h).1 ▸ hdigit)
  rw [DecimalLiteral.ofText?_eq hsplit, htake, hdrop,
    DecimalLiteral.splitPoint_of_ne fun ds h => hpoint (List.cons.inj h).1, hend]
  exact Option.bind_eq_none_iff.mpr fun _ _ => rfl

/-- A second zero, or anything but the letter of the mark, makes the text not a hexadecimal integer. -/
theorem hexadecimal?_zeros_eq_none (negative : Bool) (k : ℕ) (h : k ≠ 0 ∨ (c ≠ 'x' ∧ c ≠ 'X'))
    (more : List Char) :
    hexadecimal? (signed negative (List.replicate (k + 1) '0' ++ c :: more)) = none := by
  refine hexadecimal?_of_mark ?_
  rw [splitSign_zeros]
  rcases afterHexMark?_cases (List.replicate (k + 1) '0' ++ c :: more) with hnone | ⟨d, ds, hmark, hd⟩
  · exact hnone
  · cases k with
    | zero =>
      obtain ⟨hsmall, hcapital⟩ := h.resolve_left fun h => h rfl
      obtain rfl : c = d := (List.cons.inj (List.cons.inj hmark).2).1
      exact (hd.elim hsmall hcapital).elim
    | succ k =>
      have hzero : '0' = d := (List.cons.inj (List.cons.inj hmark).2).1
      exact absurd (hzero ▸ hd) (by decide)

theorem number?_eq_none (hhex : hexadecimal? (Text.trim cs) = none)
    (h : DecimalLiteral.ofText? (Text.trim cs) = none) : number? (String.ofList cs) = none := by
  rw [number?_eq hhex, h, Option.map_none, Option.filter_none]

/-- The literal of a text that is marked as no hexadecimal integer. -/
theorem exists_literal_of_number? (hhex : hexadecimal? (Text.trim cs) = none)
    (h : number? (String.ofList cs) = some y) :
    ∃ l, DecimalLiteral.ofText? (Text.trim cs) = some l ∧ l.nearest = y := by
  cases hl : DecimalLiteral.ofText? (Text.trim cs) with
  | none =>
    rw [number?_eq_none hhex hl] at h
    cases h
  | some l =>
    rw [number?_of_literal hhex hl] at h
    split at h
    · exact ⟨l, rfl, Option.some.inj h⟩
    · cases h

/-! ## Padding -/

/-- Zeros destroy the number of the text: a plus sign or a blank comes first, or the number is
hexadecimal. -/
def BreaksWithZeros (cs : List Char) : Prop :=
  (∃ c more, cs = c :: more ∧ (Text.isBlank c = true ∨ c = '+')) ∨
    (hexadecimal? (Text.trim cs)).isSome = true

theorem number?_congr {cs' : List Char} (h : Text.trim cs = Text.trim cs') :
    number? (String.ofList cs) = number? (String.ofList cs') := by
  simp only [number?, String.toList_ofList, h]

theorem blank_spaces (k : ℕ) : Text.Blank (List.replicate k ' ') := fun _ hc =>
  (List.mem_replicate.mp hc).2 ▸ rfl

theorem solid_zeros (k : ℕ) : Text.Solid (List.replicate k '0') := fun c hc =>
  isBlank_of_isDigit (isDigit_zeros k c hc)

theorem ne_nil_of_number? (h : number? (String.ofList cs) = some y) : ¬ Text.Blank cs := by
  intro hblank
  have hnil := Text.trim_of_blank hblank
  rw [number?_eq_none (by rw [hnil]; rfl) (by rw [hnil]; rfl)] at h
  cases h

/-- The sign and the body of a text that starts with neither a blank nor a plus sign. Zeros stand between
them. -/
theorem exists_body (hne : cs ≠ []) (h : ¬ ∃ c more, cs = c :: more ∧ (Text.isBlank c = true ∨ c = '+')) :
    ∃ negative body, splitSign (signed negative body) = (negative, body) ∧
      Text.trim cs = signed negative body ∧
      ∀ k, Text.trim (Fill.zeros.insert k cs) = signed negative (List.replicate k '0' ++ body) := by
  obtain ⟨c, more, rfl⟩ := List.exists_cons_of_ne_nil hne
  obtain ⟨hblank, hplus⟩ := not_or.mp fun hc => h ⟨c, more, rfl, hc⟩
  have hsolid : Text.Solid [c] := fun d hd => List.mem_singleton.mp hd ▸ Bool.eq_false_iff.mpr hblank
  have htrim := Text.trim_append_of_solid hsolid (List.cons_ne_nil c []) more
  by_cases hminus : c = '-'
  · subst hminus
    refine ⟨true, Text.trimRight more, rfl, htrim, fun k => ?_⟩
    exact Text.trim_append_of_solid (hsolid.append (solid_zeros k)) (List.cons_ne_nil _ _) more
  · refine ⟨false, c :: Text.trimRight more, splitSign_cons hminus hplus _, htrim, fun k => ?_⟩
    have htrim' := Text.trim_append_of_solid ((solid_zeros k).append hsolid)
      (List.append_ne_nil_of_right_ne_nil _ (List.cons_ne_nil c [])) more
    rw [List.append_assoc, List.append_assoc] at htrim'
    rw [Fill.insert_zeros_of_ne fun ds h => hminus (List.cons.inj h).1]
    exact htrim'

theorem number?_insert_zeros (k : ℕ) (h : number? (String.ofList cs) = some y)
    (hbreaks : ¬ BreaksWithZeros cs) :
    number? (String.ofList (Fill.zeros.insert k cs)) = some y := by
  obtain ⟨hhead, hhex⟩ := not_or.mp hbreaks
  rw [Option.not_isSome_iff_eq_none] at hhex
  have hne : cs ≠ [] := fun hnil => ne_nil_of_number? h (hnil ▸ nofun)
  obtain ⟨negative, body, hsplit, htrim, hinsert⟩ := exists_body hne hhead
  obtain ⟨l, hl, rfl⟩ := exists_literal_of_number? hhex h
  have hfinite := isFinite_of_number? h
  rw [htrim] at hl
  have hhex' : hexadecimal? (Text.trim (Fill.zeros.insert k cs)) = none := by
    rw [hinsert]
    cases k with
    | zero => rwa [htrim] at hhex
    | succ k =>
      obtain ⟨c, more, rfl, hc⟩ := head_of_ofText? hsplit hl
      refine hexadecimal?_zeros_eq_none negative k (.inr ⟨?_, ?_⟩) more
      · rintro rfl
        exact absurd hc (by decide)
      · rintro rfl
        exact absurd hc (by decide)
  rw [number?_of_literal hhex' (by rw [hinsert, DecimalLiteral.ofText?_zeros hsplit hl]), if_pos hfinite]

/-- Padding keeps the number, if it adds no zeros or the text does not break with zeros. -/
theorem number?_insert (fill : Fill) (k : ℕ) (h : number? (String.ofList cs) = some y)
    (hbreaks : fill = .zeros → ¬ BreaksWithZeros cs) :
    number? (String.ofList (fill.insert k cs)) = some y := by
  cases fill with
  | before => exact (number?_congr (Text.trim_append_left (blank_spaces k) cs)).trans h
  | after => exact (number?_congr (Text.trim_append_right (blank_spaces k) cs)).trans h
  | zeros => exact number?_insert_zeros k h (hbreaks rfl)

/-- A field keeps the number of a text that is not too long for it. -/
theorem number?_place {width : ℕ} (fill : Fill) (h : number? (String.ofList cs) = some y)
    (hfits : cs.length ≤ width)
    (hbreaks : fill = .zeros → cs.length < width → ¬ BreaksWithZeros cs) :
    number? (String.ofList (place fill cs width)) = some y := by
  rcases Nat.eq_or_lt_of_le hfits with heq | hlt
  · rwa [place_eq_self fill heq]
  · rw [place_of_lt fill hlt]
    exact number?_insert fill _ h fun hfill => hbreaks hfill hlt

/-- Zeros in front of a blank or a plus sign leave no number. -/
theorem number?_zeros_of_head (k : ℕ) (hc : Text.isBlank c = true ∨ c = '+')
    (h : number? (String.ofList (c :: more)) = some y) :
    number? (String.ofList (Fill.zeros.insert (k + 1) (c :: more))) = none := by
  have hne : ∀ d, Text.isBlank d = false ∧ d ≠ '+' → c ≠ d := by
    rintro d ⟨hblank, hplus⟩ rfl
    rcases hc with hc | hc
    · rw [hblank] at hc
      cases hc
    · exact hplus hc
  have hdigit : c.isDigit = false := Bool.eq_false_iff.mpr fun hdigit =>
    hne c ⟨isBlank_of_isDigit hdigit, ne_of_isDigit hdigit rfl⟩ rfl
  obtain ⟨rest, hrest⟩ := Text.trimRight_cons (ne_nil_of_number? h)
  have htrim := Text.trim_append_of_solid (solid_zeros (k + 1)) (List.cons_ne_nil _ _) (c :: more)
  rw [hrest] at htrim
  rw [Fill.insert_zeros_of_ne fun ds h => hne '-' (by decide) (List.cons.inj h).1]
  refine number?_eq_none ?_ ?_
  · rw [htrim]
    exact hexadecimal?_zeros_eq_none false k (.inr ⟨hne 'x' (by decide), hne 'X' (by decide)⟩) rest
  · rw [htrim]
    exact ofText?_zeros_eq_none (splitSign_zeros false k (c :: rest)) hdigit (hne '.' (by decide))
      ⟨hne 'e' (by decide), hne 'E' (by decide)⟩

/-- Zeros in front of the mark of a hexadecimal integer leave no number: the mark starts with a single
one. -/
theorem number?_zeros_of_hexadecimal (k : ℕ)
    (hhead : ¬ ∃ c more, cs = c :: more ∧ (Text.isBlank c = true ∨ c = '+'))
    (hhex : (hexadecimal? (Text.trim cs)).isSome = true) (h : number? (String.ofList cs) = some y) :
    number? (String.ofList (Fill.zeros.insert (k + 1) cs)) = none := by
  have hne : cs ≠ [] := fun hnil => ne_nil_of_number? h (hnil ▸ nofun)
  obtain ⟨negative, body, hsplit, htrim, hinsert⟩ := exists_body hne hhead
  rcases afterHexMark?_cases body with hmark | ⟨c, more, rfl, hc⟩
  · rw [htrim, hexadecimal?_of_mark (by rwa [hsplit])] at hhex
    cases hhex
  have hzeros : List.replicate (k + 1) '0' ++ '0' :: c :: more =
      List.replicate (k + 1 + 1) '0' ++ c :: more := by
    rw [List.replicate_succ' (n := k + 1), List.append_assoc]
    rfl
  have hc : c.isDigit = false ∧ c ≠ '.' ∧ c ≠ 'e' ∧ c ≠ 'E' := by
    rcases hc with rfl | rfl <;> decide
  refine number?_eq_none ?_ ?_
  · rw [hinsert, hzeros]
    exact hexadecimal?_zeros_eq_none negative (k + 1) (.inl (Nat.succ_ne_zero k)) more
  · rw [hinsert, hzeros]
    exact ofText?_zeros_eq_none (splitSign_zeros negative (k + 1) (c :: more)) hc.1 hc.2.1 hc.2.2

/-- Zeros destroy the number of a text that breaks with them. -/
theorem number?_insert_zeros_of_breaks (k : ℕ) (h : number? (String.ofList cs) = some y)
    (hbreaks : BreaksWithZeros cs) :
    number? (String.ofList (Fill.zeros.insert (k + 1) cs)) = none := by
  by_cases hhead : ∃ c more, cs = c :: more ∧ (Text.isBlank c = true ∨ c = '+')
  · obtain ⟨c, more, rfl, hc⟩ := hhead
    exact number?_zeros_of_head k hc h
  · exact number?_zeros_of_hexadecimal k hhead (hbreaks.resolve_left hhead) h

/-- The default text of an integer or another number does not break with zeros. -/
theorem ShowsNumber.not_breaksWithZeros (h : ShowsNumber y cs) : ¬ BreaksWithZeros cs := by
  obtain ⟨negative, numeral, places, n, rfl, hfixed, -⟩ := h
  have hsolid := solid_of_isFixed negative hfixed
  rintro (⟨c, more, hcs, hblank | rfl⟩ | hhex)
  · rw [hsolid c (hcs ▸ List.mem_cons_self)] at hblank
    cases hblank
  · exact absurd (mem_of_isFixed hfixed (hcs ▸ List.mem_cons_self)) (by decide)
  · rw [Text.trim_of_solid hsolid, hexadecimal?_of_isFixed negative hfixed] at hhex
    cases hhex

end Stencil.Number
