import Stencil.Text.Case

/-!
# Lower case of ASCII words

* `toNat_of_isAlpha`: the code points of ASCII letters.
* `exists_mem_lowerOf`: the lower-case form of a character beyond ASCII has a character that no ASCII word
  without a `k` has. The lower-case form of the Kelvin sign is a `k`.
* `lowerFrom_eq_iff`: only ASCII letters become such a word, each one by itself.
-/

namespace Stencil.Text

variable {c d : Char} {cs word before : List Char}

theorem toNat_of_isAlpha {c : Char} (h : c.isAlpha = true) :
    (65 ≤ c.toNat ∧ c.toNat ≤ 90) ∨ (97 ≤ c.toNat ∧ c.toNat ≤ 122) := by
  have h : c.isUpper = true ∨ c.isLower = true := Bool.or_eq_true_iff.mp h
  rcases h with h | h
  · have h := of_decide_eq_true h
    exact .inl ⟨UInt32.le_iff_toNat_le.mp h.1, UInt32.le_iff_toNat_le.mp h.2⟩
  · have h : decide (97 ≤ c.toNat) = true ∧ decide (c.toNat ≤ 122) = true := Bool.and_eq_true_iff.mp h
    exact .inr ⟨of_decide_eq_true h.1, of_decide_eq_true h.2⟩

/-- An ASCII character that is the lower-case form of ASCII characters only. -/
def IsPlainLower (c : Char) : Prop := c.toNat ≠ 0 ∧ c.toNat < 0x80 ∧ c ≠ 'k'

instance (c : Char) : Decidable (IsPlainLower c) := inferInstanceAs (Decidable (_ ∧ _ ∧ _))

theorem not_isPlainLower_of_le (h : 0x80 ≤ c.toNat) : ¬ IsPlainLower c := fun hc => by
  have := hc.2.1
  omega

/-- The character of a code point beyond ASCII; a code point that is none gives the character zero. -/
theorem not_isPlainLower_ofNat {n : Nat} (h : 0x80 ≤ n) : ¬ IsPlainLower (Char.ofNat n) := by
  by_cases hvalid : n.isValidChar
  · apply not_isPlainLower_of_le
    have hcode : (Char.ofNat n).toNat = n := by
      unfold Char.ofNat Char.ofNatAux Char.toNat
      simp [hvalid]
    omega
  · rintro ⟨hzero, -⟩
    apply hzero
    rw [Char.ofNat, dif_neg hvalid]
    rfl

/-- Only capitals have another lower-case form in ASCII. -/
theorem toLower_eq_self (h : c.toNat < 'A'.toNat ∨ 'Z'.toNat < c.toNat) : c.toLower = c := by
  unfold Char.toLower
  rw [dif_neg]
  rintro ⟨hlow, hhigh⟩
  have hlow : 'A'.toNat ≤ c.toNat := hlow
  have hhigh : c.toNat ≤ 'Z'.toNat := hhigh
  omega

theorem toLower_of_le (h : 0x80 ≤ c.toNat) : c.toLower = c :=
  toLower_eq_self (.inr (Nat.lt_of_lt_of_le (by decide) h))

/-- Runs lead to characters beyond ASCII, apart from the Kelvin sign. -/
theorem target_of_mem_lowerRuns {run : CaseRun} (h : run ∈ lowerRuns) :
    0x80 ≤ run.target ∨ run.first = run.last ∧ run.target = 'k'.toNat := by
  have hall : lowerRuns.all (fun run => decide (0x80 ≤ run.target ∨
      run.first = run.last ∧ run.target = 'k'.toNat)) = true := by decide +kernel
  exact of_decide_eq_true (Array.all_eq_true'.mp hall run h)

theorem exists_mem_lowerOf (h : 0x80 ≤ c.toNat) : ∃ d ∈ lowerOf c, ¬ IsPlainLower d := by
  unfold lowerOf mapCase
  rw [if_neg (by omega)]
  split
  · next entry hentry =>
    -- The only character with a form of several characters is the dotted capital `I`.
    have hmem := Array.mem_of_find?_eq_some hentry
    simp only [lowerSpecial, List.mem_toArray, List.mem_singleton] at hmem
    subst hmem
    exact ⟨Char.ofNat 0x307, by simp, by decide⟩
  · simp only [List.map_cons, List.map_nil, List.mem_singleton, exists_eq_left]
    cases hrun : lowerRuns.findSome? (·.map? c.toNat) with
    | none => simpa using not_isPlainLower_of_le h
    | some n =>
      obtain ⟨run, hmem, hmap⟩ := Array.exists_of_findSome?_eq_some hrun
      unfold CaseRun.map? at hmap
      split at hmap
      · next hbounds =>
        simp only [Bool.and_eq_true, decide_eq_true_eq] at hbounds
        obtain rfl := Option.some.inj hmap
        rcases target_of_mem_lowerRuns hmem with hle | ⟨hsingle, htarget⟩
        · exact not_isPlainLower_ofNat (by simp; omega)
        · have hzero : c.toNat - run.first = 0 := by omega
          rw [Option.getD_some, hzero, htarget]
          decide
      · cases hmap

/-- Only ASCII letters become a word of such characters, each one by itself. -/
theorem lowerFrom_eq_iff (hword : ∀ d ∈ word, IsPlainLower d) :
    lowerFrom before cs = word ↔ cs.map Char.toLower = word := by
  induction cs generalizing before word with
  | nil => simp [lowerFrom]
  | cons c cs ih =>
    rw [lowerFrom, List.map_cons]
    -- A character beyond ASCII leaves one in its lower case that such a word does not hold.
    by_cases hc : 0x80 ≤ c.toNat
    · constructor
      · rintro rfl
        exfalso
        split at hword
        · split at hword
          · exact absurd (hword 'ς' (by simp)) (by decide)
          · exact absurd (hword 'σ' (by simp)) (by decide)
        · obtain ⟨d, hd, hplain⟩ := exists_mem_lowerOf hc
          exact hplain (hword d (List.mem_append_left _ hd))
      · rintro rfl
        have hplain := hword c.toLower List.mem_cons_self
        rw [toLower_of_le hc] at hplain
        exact absurd hplain (not_isPlainLower_of_le hc)
    · have hsigma : c ≠ 'Σ' := by
        rintro rfl
        exact hc (by decide)
      have hform : lowerOf c = [c.toLower] := if_pos (by omega)
      rw [if_neg hsigma, hform, List.singleton_append]
      cases word with
      | nil => simp
      | cons d word =>
        have hmore := List.forall_mem_cons.mp hword
        rw [List.cons.injEq, List.cons.injEq, ih hmore.2]

end Stencil.Text
