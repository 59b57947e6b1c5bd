import Mathlib.Data.List.Forall2
import Stencil.Number.Numeral

/-!
# Numerals

A numeral consists of digits, and there is at least one. A positive number has no zero in front.

* `IsCanonical`, `isCanonical_digits`: the digits of a number in a base.
* `isDigit_of_mem_numeral`: the characters of a decimal numeral.
* `Spells`, `ofNumeral?_eq_some_iff`: a text denotes a number exactly if it spells digits of this number.
* `exists_spells_iff`: a text spells decimal digits exactly if it consists of them.
* `ofNumeral?_numeral`: reading a numeral gives the number.
* `digitCount_le_iff`: how many digits a number has.
-/

namespace Stencil.Number

theorem lt_of_mem_digits {base n d : Nat} (hbase : 2 ≤ base) (h : d ∈ digits base n) : d < base := by
  fun_induction digits base n with
  | case1 n hlt =>
    obtain rfl := List.mem_singleton.mp h
    omega
  | case2 n hle ih =>
    rcases List.mem_append.mp h with h | h
    · exact ih h
    · obtain rfl := List.mem_singleton.mp h
      exact Nat.mod_lt n (by omega)

theorem isDigit_of_mem_map {ds : List Nat} (hds : ∀ d ∈ ds, d < 10) {c : Char}
    (h : c ∈ ds.map Nat.digitChar) : c.isDigit = true := by
  obtain ⟨d, hd, rfl⟩ := List.mem_map.mp h
  rw [Nat.isDigit_digitChar]
  exact decide_eq_true (hds d hd)

theorem isDigit_of_mem_numeral {n : Nat} {c : Char} (h : c ∈ numeral 10 n) : c.isDigit = true :=
  isDigit_of_mem_map (fun _ => lt_of_mem_digits (by decide)) h

theorem numeral_ne_nil (base n : Nat) : numeral base n ≠ [] :=
  fun h => digits_ne_nil base n (List.map_eq_nil_iff.mp h)

/-- Only zero starts with the digit zero. -/
theorem eq_zero_of_digits_eq_cons {base n : Nat} {more : List Nat} (hbase : 2 ≤ base)
    (h : digits base n = 0 :: more) : n = 0 := by
  fun_induction digits base n generalizing more with
  | case1 n hlt => exact (List.cons.inj h).1
  | case2 n hle ih =>
    cases hdigits : digits base (n / base) with
    | nil => exact absurd hdigits (digits_ne_nil base _)
    | cons first front =>
      rw [hdigits, List.cons_append] at h
      have hzero : n / base = 0 := ih ((List.cons.inj h).1 ▸ hdigits)
      have hlt := (Nat.div_eq_zero_iff_lt (by omega)).mp hzero
      exact absurd (Or.inl hlt) hle

/-- The digit zero stands alone in front. -/
theorem eq_nil_of_digits_eq_cons {base n : Nat} {more : List Nat} (hbase : 2 ≤ base)
    (h : digits base n = 0 :: more) : more = [] := by
  rw [eq_zero_of_digits_eq_cons hbase h, digits_of_lt (by omega)] at h
  exact (List.cons.inj h).2.symm

/-- The digits of a number in a base, without a zero in front that is not needed. -/
structure IsCanonical (base n : Nat) (ds : List Nat) : Prop where
  ne_nil : ds ≠ []
  lt : ∀ d ∈ ds, d < base
  lead : ∀ more, ds = 0 :: more → more = []
  value : ofDigits base ds = n

theorem isCanonical_digits {base : Nat} (hbase : 2 ≤ base) (n : Nat) :
    IsCanonical base n (digits base n) where
  ne_nil := digits_ne_nil base n
  lt _ := lt_of_mem_digits hbase
  lead _ := eq_nil_of_digits_eq_cons hbase
  value := ofDigits_digits base n

theorem digitChar_eq_zero {d : Nat} (hd : d < 10) (h : Nat.digitChar d = '0') : d = 0 :=
  (by decide : ∀ d < 10, Nat.digitChar d = '0' → d = 0) d hd h

/-- Only the numeral of zero starts with a zero. -/
theorem eq_nil_of_numeral_eq_cons {n : Nat} {more : List Char} (h : numeral 10 n = '0' :: more) :
    n = 0 ∧ more = [] := by
  obtain ⟨d, ds, hdigits⟩ := List.exists_cons_of_ne_nil (digits_ne_nil 10 n)
  have hd : d < 10 := lt_of_mem_digits (by decide) (hdigits ▸ List.mem_cons_self)
  rw [numeral, hdigits, List.map_cons] at h
  obtain ⟨hfirst, hmore⟩ := List.cons.inj h
  rw [digitChar_eq_zero hd hfirst] at hdigits
  refine ⟨eq_zero_of_digits_eq_cons (by decide) hdigits, ?_⟩
  rw [← hmore, eq_nil_of_digits_eq_cons (by decide) hdigits, List.map_nil]

/-! ## Reading digits -/

theorem foldl_ofDigits (base : Nat) (ds : List Nat) (n : Nat) :
    ds.foldl (fun n d => n * base + d) n = n * base ^ ds.length + ofDigits base ds := by
  induction ds generalizing n with
  | nil => simp [ofDigits]
  | cons d ds ih =>
    have hfirst : ofDigits base (d :: ds) = (0 * base + d) * base ^ ds.length + ofDigits base ds := ih _
    rw [List.foldl_cons, ih, hfirst, List.length_cons, Nat.pow_succ, Nat.add_mul, Nat.zero_mul,
      Nat.zero_add, Nat.mul_assoc, Nat.mul_comm base, Nat.add_assoc]

theorem ofDigits_append (base : Nat) (ds more : List Nat) :
    ofDigits base (ds ++ more) = ofDigits base ds * base ^ more.length + ofDigits base more := by
  rw [ofDigits, List.foldl_append, foldl_ofDigits base more]
  rfl

theorem ofDigits_replicate_zero (base k : Nat) : ofDigits base (List.replicate k 0) = 0 := by
  induction k with
  | zero => rfl
  | succ k ih =>
    rw [List.replicate_succ', ofDigits_append_singleton, ih, Nat.zero_mul]

/-- The character is the digit with this value, in either case. -/
def IsDigit (base d : Nat) (c : Char) : Prop :=
  d < base ∧ (c = Nat.digitChar d ∨ c = (Nat.digitChar d).toUpper)

/-- The characters are these digits, in either case; there is at least one. -/
def Spells (base : Nat) (ds : List Nat) (cs : List Char) : Prop :=
  ds ≠ [] ∧ List.Forall₂ (IsDigit base) ds cs

theorem digitValue?_digitChar :
    ∀ d < 16, digitValue? 16 (Nat.digitChar d) = some d ∧ digitValue? 16 (Nat.digitChar d).toUpper = some d := by
  decide

theorem digitValue?_eq_filter {base : Nat} (hbase : base ≤ 16) (c : Char) :
    digitValue? base c = (digitValue? 16 c).filter (· < base) := by
  simp only [digitValue?, Option.filter_filter]
  congr 1
  funext d
  simp only [← Bool.decide_and]
  congr 1
  apply propext
  omega

/-- The characters from `g` on are no digits. -/
theorem toNat_lt_of_digitValue? {c : Char} {d : Nat} (h : digitValue? 16 c = some d) : c.toNat < 103 := by
  by_contra hge
  have hle : ∀ c', c'.toNat < 103 → ¬ c ≤ c' := by
    intro c' hc' hle
    have : c.toNat ≤ c'.toNat := hle
    omega
  have h9 := hle '9' (by decide)
  have hf := hle 'f' (by decide)
  have hF := hle 'F' (by decide)
  simp [digitValue?, h9, hf, hF] at h

/-- A character has a value as a digit exactly if it is one. -/
theorem digitValue?_eq_some_iff {base d : Nat} {c : Char} (hbase : base ≤ 16) :
    digitValue? base c = some d ↔ IsDigit base d c := by
  rw [digitValue?_eq_filter hbase, Option.filter_eq_some_iff, decide_eq_true_eq, and_comm]
  refine and_congr_right fun hd => ?_
  constructor
  · intro h
    have hall : ∀ n < 103, (digitValue? 16 (Char.ofNat n)).all (fun d =>
        Char.ofNat n = Nat.digitChar d ∨ Char.ofNat n = (Nat.digitChar d).toUpper) = true := by decide
    have hc := hall c.toNat (toNat_lt_of_digitValue? h)
    simpa [h] using hc
  · obtain ⟨hlower, hupper⟩ := digitValue?_digitChar d (by omega)
    rintro (rfl | rfl)
    · exact hlower
    · exact hupper

theorem mapM_digitValue?_eq_some_iff {base : Nat} {ds : List Nat} {cs : List Char} (hbase : base ≤ 16) :
    cs.mapM (digitValue? base) = some ds ↔ List.Forall₂ (IsDigit base) ds cs := by
  induction cs generalizing ds with
  | nil =>
    rw [List.mapM_nil, List.forall₂_nil_right_iff]
    exact ⟨fun h => (Option.some.inj h).symm, fun h => h ▸ rfl⟩
  | cons c cs ih =>
    rw [List.mapM_cons, List.forall₂_cons_right_iff]
    constructor
    · intro h
      obtain ⟨d, hd, h⟩ := Option.bind_eq_some_iff.mp h
      obtain ⟨more, hmore, h⟩ := Option.bind_eq_some_iff.mp h
      exact ⟨d, more, (digitValue?_eq_some_iff hbase).mp hd, ih.mp hmore, (Option.some.inj h).symm⟩
    · rintro ⟨d, more, hd, hmore, rfl⟩
      rw [(digitValue?_eq_some_iff hbase).mpr hd, ih.mpr hmore]
      rfl

/-- A text denotes a number exactly if it spells digits of this number. -/
theorem ofNumeral?_eq_some_iff {base n : Nat} {cs : List Char} (hbase : base ≤ 16) :
    ofNumeral? base cs = some n ↔ ∃ ds, Spells base ds cs ∧ ofDigits base ds = n := by
  rw [ofNumeral?]
  cases cs with
  | nil =>
    refine ⟨nofun, ?_⟩
    rintro ⟨ds, ⟨hne, hspells⟩, -⟩
    exact absurd (List.forall₂_nil_right_iff.mp hspells) hne
  | cons c cs =>
    rw [List.isEmpty_cons, if_neg Bool.false_ne_true, Option.map_eq_some_iff]
    refine exists_congr fun ds => and_congr_left fun _ => ?_
    rw [mapM_digitValue?_eq_some_iff hbase, Spells]
    refine ⟨fun h => ⟨?_, h⟩, fun h => h.2⟩
    rintro rfl
    cases h

theorem spells_map {base : Nat} {ds : List Nat} (hne : ds ≠ []) (hds : ∀ d ∈ ds, d < base) :
    Spells base ds (ds.map Nat.digitChar) := by
  refine ⟨hne, ?_⟩
  rw [List.forall₂_map_right_iff, List.forall₂_same]
  exact fun d hd => ⟨hds d hd, .inl rfl⟩

/-- Decimal digits have no case. -/
theorem Spells.eq_map {ds : List Nat} {cs : List Char} (h : Spells 10 ds cs) :
    cs = ds.map Nat.digitChar ∧ ∀ d ∈ ds, d < 10 := by
  have hcase : ∀ d < 10, (Nat.digitChar d).toUpper = Nat.digitChar d := by decide
  obtain ⟨-, h⟩ := h
  induction h with
  | nil => exact ⟨rfl, nofun⟩
  | cons hd _ ih =>
    obtain ⟨hlt, hc⟩ := hd
    rw [hcase _ hlt, or_self] at hc
    exact ⟨by rw [hc, ih.1, List.map_cons], List.forall_mem_cons.mpr ⟨hlt, ih.2⟩⟩

/-- A text of digits denotes the number with these digits. -/
theorem ofNumeral?_map {ds : List Nat} (hne : ds ≠ []) (hds : ∀ d ∈ ds, d < 10) :
    ofNumeral? 10 (ds.map Nat.digitChar) = some (ofDigits 10 ds) :=
  (ofNumeral?_eq_some_iff (by decide)).mpr ⟨ds, spells_map hne hds, rfl⟩

/-- Reading a numeral gives the number. -/
theorem ofNumeral?_numeral (n : Nat) : ofNumeral? 10 (numeral 10 n) = some n := by
  rw [numeral, ofNumeral?_map (digits_ne_nil 10 n) fun d => lt_of_mem_digits (by decide),
    ofDigits_digits]

/-- What can be read as a numeral is a text of digits. -/
theorem exists_digits_of_ofNumeral? {cs : List Char} {n : Nat} (h : ofNumeral? 10 cs = some n) :
    ∃ ds, cs = ds.map Nat.digitChar ∧ ds ≠ [] ∧ (∀ d ∈ ds, d < 10) ∧ ofDigits 10 ds = n := by
  obtain ⟨ds, hspells, hn⟩ := (ofNumeral?_eq_some_iff (by decide)).mp h
  exact ⟨ds, hspells.eq_map.1, hspells.1, hspells.eq_map.2, hn⟩

/-- It consists of digits. -/
theorem digits_of_ofNumeral? {cs : List Char} {n : Nat} (h : ofNumeral? 10 cs = some n) :
    cs ≠ [] ∧ ∀ c ∈ cs, c.isDigit = true := by
  obtain ⟨ds, rfl, hne, hds, -⟩ := exists_digits_of_ofNumeral? h
  exact ⟨fun h => hne (List.map_eq_nil_iff.mp h), fun c => isDigit_of_mem_map hds⟩

/-- A decimal digit is the character of its value. -/
theorem exists_isDigit {c : Char} (h : c.isDigit = true) : ∃ d, IsDigit 10 d c := by
  have hrange : 48 ≤ c.toNat ∧ c.toNat ≤ 57 := Char.isDigit_iff_toNat.mp h
  have hall : ∀ d < 10, Nat.digitChar d = Char.ofNat (d + 48) := by decide
  refine ⟨c.toNat - 48, by omega, .inl ?_⟩
  rw [hall _ (by omega), Nat.sub_add_cancel hrange.1, Char.ofNat_toNat]

/-- A text spells decimal digits exactly if it consists of them. -/
theorem exists_spells_iff {cs : List Char} :
    (∃ ds, Spells 10 ds cs) ↔ cs ≠ [] ∧ ∀ c ∈ cs, c.isDigit = true := by
  constructor
  · rintro ⟨ds, h⟩
    exact digits_of_ofNumeral? ((ofNumeral?_eq_some_iff (by decide)).mpr ⟨ds, h, rfl⟩)
  · rintro ⟨hne, hdigits⟩
    have hspelled : ∃ ds, List.Forall₂ (IsDigit 10) ds cs := by
      clear hne
      induction cs with
      | nil => exact ⟨[], .nil⟩
      | cons c cs ih =>
        obtain ⟨hc, hcs⟩ := List.forall_mem_cons.mp hdigits
        obtain ⟨d, hd⟩ := exists_isDigit hc
        obtain ⟨ds, hds⟩ := ih hcs
        exact ⟨d :: ds, .cons hd hds⟩
    obtain ⟨ds, hds⟩ := hspelled
    refine ⟨ds, ?_, hds⟩
    rintro rfl
    exact hne (List.forall₂_nil_left_iff.mp hds)

theorem replicate_zero_eq (k : Nat) : List.replicate k '0' = (List.replicate k 0).map Nat.digitChar := by
  rw [List.map_replicate]
  rfl

theorem isDigit_zeros (k : Nat) : ∀ c ∈ List.replicate k '0', c.isDigit = true := fun _ hc =>
  (List.mem_replicate.mp hc).2 ▸ rfl

/-- Zeros in front of a numeral do not change the number. -/
theorem ofNumeral?_zeros {cs : List Char} {n : Nat} (h : ofNumeral? 10 cs = some n) (k : Nat) :
    ofNumeral? 10 (List.replicate k '0' ++ cs) = some n := by
  obtain ⟨ds, rfl, hne, hds, rfl⟩ := exists_digits_of_ofNumeral? h
  rw [replicate_zero_eq, ← List.map_append, ofNumeral?_map (List.append_ne_nil_of_right_ne_nil _ hne), ofDigits_append,
    ofDigits_replicate_zero, Nat.zero_mul, Nat.zero_add]
  intro d hd
  exact (List.mem_append.mp hd).elim (fun hd => (List.mem_replicate.mp hd).2 ▸ by decide) (hds d)

/-- Zeros at its end multiply it by powers of ten. -/
theorem ofNumeral?_append_zeros {cs : List Char} {n : Nat} (h : ofNumeral? 10 cs = some n) (k : Nat) :
    ofNumeral? 10 (cs ++ List.replicate k '0') = some (n * 10 ^ k) := by
  obtain ⟨ds, rfl, hne, hds, rfl⟩ := exists_digits_of_ofNumeral? h
  rw [replicate_zero_eq, ← List.map_append, ofNumeral?_map (List.append_ne_nil_of_left_ne_nil hne _), ofDigits_append,
    ofDigits_replicate_zero, List.length_replicate, Nat.add_zero]
  intro d hd
  exact (List.mem_append.mp hd).elim (hds d) fun hd => (List.mem_replicate.mp hd).2 ▸ by decide

/-! ## Counting digits -/

theorem digitCount_of_lt {n : Nat} (h : n < 10) : digitCount n = 1 := by
  rw [digitCount, digits_of_lt h]
  rfl

theorem digitCount_of_le {n : Nat} (h : 10 ≤ n) : digitCount n = digitCount (n / 10) + 1 := by
  rw [digitCount, digits_of_le (by decide) h, List.length_append]
  rfl

theorem digitCount_pos (n : Nat) : 0 < digitCount n := List.length_pos_iff.mpr (digits_ne_nil 10 n)

/-- A number has at most `k` digits if it is below `10 ^ k`. -/
theorem digitCount_le_iff {n k : Nat} (hk : 0 < k) : digitCount n ≤ k ↔ n < 10 ^ k := by
  induction k generalizing n with
  | zero => exact absurd hk (Nat.lt_irrefl 0)
  | succ k ih =>
    by_cases hn : n < 10
    · rw [digitCount_of_lt hn]
      have hpow : 0 < 10 ^ k := Nat.pow_pos (by decide)
      rw [Nat.pow_succ]
      omega
    rw [digitCount_of_le (by omega), Nat.pow_succ]
    cases k with
    | zero =>
      have := digitCount_pos (n / 10)
      simp only [Nat.pow_zero]
      omega
    | succ k =>
      rw [Nat.add_le_add_iff_right, ih (Nat.succ_pos k)]
      omega

theorem lt_digitCount_iff {n k : Nat} (hk : 0 < k) : k < digitCount n ↔ 10 ^ k ≤ n := by
  rw [← Nat.not_le, digitCount_le_iff hk, Nat.not_lt]

theorem lt_pow_digitCount (n : Nat) : n < 10 ^ digitCount n :=
  (digitCount_le_iff (digitCount_pos n)).mp (Nat.le_refl _)

/-- A positive number has no zero in front. -/
theorem pow_digitCount_le {n : Nat} (hn : 0 < n) : 10 ^ (digitCount n - 1) ≤ n := by
  rcases Nat.eq_zero_or_pos (digitCount n - 1) with h | h
  · rw [h]
    exact hn
  · rw [← lt_digitCount_iff h]
    omega

end Stencil.Number
