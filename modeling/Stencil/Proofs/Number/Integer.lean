import Mathlib.Data.List.DropRight
import Stencil.Proofs.Number.Padding

/-!
# Integers read from texts

* `IsSignedNumeral`, `signedNumeral?_eq`, `signedNumeral?_eq_none`: what is read as an integer of 64 bits.
* `unsigned?_eq_some_iff`: what is read as a natural number of 64 bits.
* `IsDecimal`, `integer?_of_decimal`: a text that starts with a decimal integer is read without what follows
  its digits, and the sign is applied to a natural number of 63 bits.
* `IsHexadecimal`, `hexadecimal?_marked`: the sign in front of the mark is applied to an integer of 64 bits.
* `integer?_of_not_hexadecimal`: if there is no such integer behind the mark, the zero of the mark is read.
-/

namespace Stencil.Number

variable {base n : ℕ} {ds : List ℕ} {cs body rest : List Char} {s : String} {i : Int64}

/-! ## Numerals with a sign -/

/-- The text is a sign and digits of a natural number. -/
def IsSignedNumeral (base : ℕ) (sign : Sign) (n : ℕ) (cs : List Char) : Prop :=
  ∃ ds body, cs = sign.text ++ body ∧ Spells base ds body ∧ ofDigits base ds = n

/-- The integer has 64 bits. -/
def InInt64 (i : ℤ) : Prop := -2 ^ 63 ≤ i ∧ i < 2 ^ 63

instance (i : ℤ) : Decidable (InInt64 i) := inferInstanceAs (Decidable (_ ∧ _))

theorem inInt64_iff {i : ℤ} : inInt64 i = true ↔ InInt64 i := by
  simp [inInt64, InInt64]

/-- A digit is no sign. -/
theorem IsDigit.ne_sign {d : ℕ} {c : Char} (hbase : base ≤ 16) (h : IsDigit base d c) : c ≠ '-' ∧ c ≠ '+' := by
  have hall : ∀ d < 16, (Nat.digitChar d ≠ '-' ∧ Nat.digitChar d ≠ '+') ∧
      ((Nat.digitChar d).toUpper ≠ '-' ∧ (Nat.digitChar d).toUpper ≠ '+') := by decide
  obtain ⟨hlt, hc⟩ := h
  obtain ⟨hlower, hupper⟩ := hall d (by omega)
  rcases hc with rfl | rfl
  · exact hlower
  · exact hupper

theorem splitSign_spells_append (hbase : base ≤ 16) (sign : Sign) (h : Spells base ds body) (tail : List Char) :
    splitSign (sign.text ++ (body ++ tail)) = (sign.isMinus, body ++ tail) := by
  obtain ⟨hne, hspells⟩ := h
  apply splitSign_text
  intro c more hcons
  cases hspells with
  | nil => exact absurd rfl hne
  | cons hd _ =>
    obtain rfl := (List.cons.inj hcons).1
    exact hd.ne_sign hbase

theorem splitSign_of_spells (hbase : base ≤ 16) (sign : Sign) (h : Spells base ds body) :
    splitSign (sign.text ++ body) = (sign.isMinus, body) := by
  simpa using splitSign_spells_append hbase sign h []

theorem isSignedNumeral_iff (hbase : base ≤ 16) {sign : Sign} :
    IsSignedNumeral base sign n cs ↔ ∃ body, cs = sign.text ++ body ∧ ofNumeral? base body = some n := by
  constructor
  · rintro ⟨ds, body, hcs, hspells, hn⟩
    exact ⟨body, hcs, (ofNumeral?_eq_some_iff hbase).mpr ⟨ds, hspells, hn⟩⟩
  · rintro ⟨body, hcs, hn⟩
    obtain ⟨ds, hspells, hn⟩ := (ofNumeral?_eq_some_iff hbase).mp hn
    exact ⟨ds, body, hcs, hspells, hn⟩

/-- A text is a numeral of one integer only. -/
theorem IsSignedNumeral.apply_eq (hbase : base ≤ 16) {sign sign' : Sign} {n' : ℕ}
    (h : IsSignedNumeral base sign n cs) (h' : IsSignedNumeral base sign' n' cs) :
    sign.apply n = sign'.apply n' := by
  obtain ⟨ds, body, hcs, hspells, hn⟩ := h
  obtain ⟨ds', body', hcs', hspells', hn'⟩ := h'
  have hsplit := splitSign_of_spells hbase sign hspells
  rw [← hcs, hcs', splitSign_of_spells hbase sign' hspells'] at hsplit
  obtain ⟨hsign, rfl⟩ := Prod.mk.inj hsplit
  have hread := (ofNumeral?_eq_some_iff hbase).mpr ⟨ds, hspells, hn⟩
  rw [(ofNumeral?_eq_some_iff hbase).mpr ⟨ds', hspells', hn'⟩] at hread
  rw [Sign.apply, Sign.apply, hsign, Option.some.inj hread]

/-- A numeral with a sign is read if its integer has 64 bits. -/
theorem signedNumeral?_eq (hbase : base ≤ 16) {sign : Sign} (h : IsSignedNumeral base sign n cs) :
    signedNumeral? base cs = if InInt64 (sign.apply n) then some (.ofInt (sign.apply n)) else none := by
  obtain ⟨ds, body, rfl, hspells, hn⟩ := h
  have hn := (ofNumeral?_eq_some_iff hbase).mpr ⟨ds, hspells, hn⟩
  rw [signedNumeral?, splitSign_of_spells hbase sign hspells]
  simp only [hn, inInt64_iff]
  rfl

/-- Nothing else is. -/
theorem signedNumeral?_eq_none (hbase : base ≤ 16) (h : ∀ sign n, ¬ IsSignedNumeral base sign n cs) :
    signedNumeral? base cs = none := by
  obtain ⟨sign, body, hcs, hsplit⟩ := exists_sign cs
  rw [signedNumeral?, hsplit]
  cases hn : ofNumeral? base body with
  | none => simp only [hn]
  | some n => exact absurd ((isSignedNumeral_iff hbase).mpr ⟨body, hcs, hn⟩) (h sign n)

/-- The opposite of an integer of 64 bits, if it has as many. -/
theorem toInt_apply (sign : Sign) (h : sign.apply i.toInt < 2 ^ 63) :
    (if sign.isMinus then -i else i).toInt = sign.apply i.toInt := by
  have hlow := i.le_toInt
  have hhigh := i.toInt_lt
  cases sign with
  | bare => rfl
  | plus => rfl
  | minus =>
    have h : -i.toInt < 2 ^ 63 := h
    have hneg : (-i).toInt = (-i.toInt).bmod (2 ^ 64) := i.toInt_neg
    rw [Int.bmod_eq_of_le (by omega) (by omega)] at hneg
    exact hneg

/-! ## Natural numbers -/

theorem isSignedNumeral_bare_iff (hbase : base ≤ 16) :
    IsSignedNumeral base .bare n cs ↔ ofNumeral? base cs = some n := by
  rw [isSignedNumeral_iff hbase]
  exact ⟨fun ⟨_, hcs, hn⟩ => hcs ▸ hn, fun hn => ⟨cs, rfl, hn⟩⟩

theorem isSignedNumeral_plus_iff (hbase : base ≤ 16) :
    IsSignedNumeral base .plus n ('+' :: cs) ↔ ofNumeral? base cs = some n := by
  rw [isSignedNumeral_iff hbase]
  exact ⟨fun ⟨_, hcs, hn⟩ => (List.cons.inj hcs).2 ▸ hn, fun hn => ⟨cs, rfl, hn⟩⟩

/-- Behind the sign there is a numeral of the number. -/
theorem IsSignedNumeral.ofNumeral?_eq {sign : Sign} (hbase : base ≤ 16) (h : IsSignedNumeral base sign n cs) :
    ofNumeral? base (splitSign cs).2 = some n := by
  obtain ⟨ds, body, rfl, hspells, hn⟩ := h
  rw [splitSign_of_spells hbase sign hspells]
  exact (ofNumeral?_eq_some_iff hbase).mpr ⟨ds, hspells, hn⟩

/-- Decimal digits without a sign do not start with one. -/
theorem IsSignedNumeral.ne_plus (h : IsSignedNumeral 10 .bare n cs) (rest : List Char) : cs ≠ '+' :: rest := by
  rintro rfl
  have hdigits := (digits_of_ofNumeral? ((isSignedNumeral_bare_iff (by decide)).mp h)).2
  exact absurd (hdigits '+' List.mem_cons_self) (by decide)

theorem unsigned?_plus (cs : List Char) :
    unsigned? ('+' :: cs) = (ofNumeral? 10 cs).filter (· < 2 ^ 64) := rfl

theorem unsigned?_of_ne (h : ∀ rest, cs ≠ '+' :: rest) :
    unsigned? cs = (ofNumeral? 10 cs).filter (· < 2 ^ 64) := by
  unfold unsigned?
  split
  · next rest => exact absurd rfl (h rest)
  · rfl

/-- A natural number of 64 bits is read without a sign, or with a plus sign in front. -/
theorem unsigned?_eq_some_iff : unsigned? cs = some n ↔
    (IsSignedNumeral 10 .bare n cs ∨ IsSignedNumeral 10 .plus n cs) ∧ n < 2 ^ 64 := by
  by_cases hsign : ∃ rest, cs = '+' :: rest
  · obtain ⟨rest, rfl⟩ := hsign
    have hbare : ¬ IsSignedNumeral 10 .bare n ('+' :: rest) := fun h => h.ne_plus rest rfl
    rw [or_iff_right hbare, isSignedNumeral_plus_iff (by decide), unsigned?_plus,
      Option.filter_eq_some_iff, decide_eq_true_eq]
  · have hplus : ¬ IsSignedNumeral 10 .plus n cs := fun ⟨_, body, hcs, _⟩ => hsign ⟨body, hcs⟩
    rw [or_iff_left hplus, isSignedNumeral_bare_iff (by decide), unsigned?_of_ne (not_exists.mp hsign),
      Option.filter_eq_some_iff, decide_eq_true_eq]

/-! ## Decimal integers -/

theorem exists_append_of_trimRight (cs : List Char) : ∃ blanks, cs = Text.trimRight cs ++ blanks := by
  obtain ⟨blanks, hblanks⟩ : Text.trimRight cs <+: cs := List.rdropWhile_prefix Text.isBlank cs
  exact ⟨blanks, hblanks.symm⟩

/-- The text has a decimal integer in front: blanks, a sign and digits, and anything that does not go on with
them, such as more blanks. It is not marked as hexadecimal. -/
def IsDecimal (sign : Sign) (ds : List ℕ) (s : String) : Prop :=
  ∃ blanks tail, s.toList = blanks ++ (sign.text ++ (ds.map Nat.digitChar ++ tail)) ∧ Text.Blank blanks ∧
    ds ≠ [] ∧ (∀ d ∈ ds, d < 10) ∧ (∀ c more, tail = c :: more → c.isDigit = false) ∧
    ∀ c more, ds.map Nat.digitChar ++ tail = '0' :: c :: more → c ≠ 'x' ∧ c ≠ 'X'

/-- The text without the blanks around it. -/
theorem IsDecimal.trim_eq {sign : Sign} (h : IsDecimal sign ds s) : ∃ tail,
    Text.trim s.toList = sign.text ++ (ds.map Nat.digitChar ++ tail) ∧ ds ≠ [] ∧ (∀ d ∈ ds, d < 10) ∧
      (∀ c more, tail = c :: more → c.isDigit = false) ∧
      afterHexMark? (ds.map Nat.digitChar ++ tail) = none := by
  obtain ⟨blanks, tail, hs, hblanks, hne, hds, htail, hmark⟩ := h
  -- Only the blanks at the end of the tail are taken off; what is left begins as the tail does.
  obtain ⟨more, hmore⟩ := exists_append_of_trimRight tail
  have hsolid : Text.Solid (sign.text ++ ds.map Nat.digitChar) :=
    sign.solid_text.append fun c hc => isBlank_of_isDigit (isDigit_of_mem_map hds hc)
  have hne' : sign.text ++ ds.map Nat.digitChar ≠ [] :=
    List.append_ne_nil_of_right_ne_nil _ fun h => hne (List.map_eq_nil_iff.mp h)
  refine ⟨Text.trimRight tail, ?_, hne, hds, ?_, ?_⟩
  · rw [hs, Text.trim_append_left hblanks, ← List.append_assoc, Text.trim_append_of_solid hsolid hne',
      List.append_assoc]
  · intro c rest hrest
    rw [hrest] at hmore
    exact htail c _ hmore
  · rcases afterHexMark?_cases (ds.map Nat.digitChar ++ Text.trimRight tail) with hnone | ⟨c, rest, hrest, hc⟩
    · exact hnone
    · have hfull : ds.map Nat.digitChar ++ tail = '0' :: c :: (rest ++ more) := by
        conv_lhs => rw [hmore]
        rw [← List.append_assoc, hrest]
        rfl
      obtain ⟨hsmall, hcapital⟩ := hmark c _ hfull
      exact (hc.elim hsmall hcapital).elim

/-- A decimal integer in front of a text is read if its digits denote a number of 63 bits. -/
theorem integer?_of_decimal {sign : Sign} (h : IsDecimal sign ds s) :
    integer? s = if ofDigits 10 ds < 2 ^ 63 then some (if sign.isMinus then -.ofInt (ofDigits 10 ds)
      else .ofInt (ofDigits 10 ds)) else none := by
  obtain ⟨tail, htrim, hne, hds, htail, hmark⟩ := h.trim_eq
  have hspells := spells_map hne hds
  have hsplit : splitSign (Text.trim s.toList) = (sign.isMinus, ds.map Nat.digitChar ++ tail) := by
    rw [htrim, splitSign_spells_append (by decide) sign hspells]
  have hhex : hexadecimal? (Text.trim s.toList) = none := hexadecimal?_of_mark (by rw [hsplit, hmark])
  have htake := (DecimalLiteral.takeWhile_digits (fun c => isDigit_of_mem_map hds) htail).1
  have hnumeral : IsSignedNumeral 10 .bare (ofDigits 10 ds) (ds.map Nat.digitChar) := ⟨ds, _, rfl, hspells, rfl⟩
  have hread := signedNumeral?_eq (by decide) hnumeral
  simp only [integer?, hhex, hsplit, htake, hread]
  by_cases hlt : ofDigits 10 ds < 2 ^ 63
  · have hrange : InInt64 (Sign.bare.apply (ofDigits 10 ds)) := by
      constructor <;> rw [Sign.apply_bare] <;> omega
    rw [if_pos hlt, if_pos hrange]
    rfl
  · have hrange : ¬ InInt64 (Sign.bare.apply (ofDigits 10 ds)) := by
      rintro ⟨-, hlt'⟩
      rw [Sign.apply_bare] at hlt'
      omega
    rw [if_neg hlt, if_neg hrange]

/-! ## Hexadecimal integers -/

/-- The text, without the blanks around it, is a sign, the mark of a hexadecimal integer and a rest. -/
def IsHexadecimal (sign : Sign) (rest : List Char) (s : String) : Prop :=
  ∃ mark, (mark = 'x' ∨ mark = 'X') ∧ Text.trim s.toList = sign.text ++ '0' :: mark :: rest

theorem IsHexadecimal.split {sign : Sign} (h : IsHexadecimal sign rest s) :
    ∃ mark, (mark = 'x' ∨ mark = 'X') ∧ splitSign (Text.trim s.toList) = (sign.isMinus, '0' :: mark :: rest) ∧
      afterHexMark? ('0' :: mark :: rest) = some rest := by
  obtain ⟨mark, hmark, htrim⟩ := h
  refine ⟨mark, hmark, ?_, ?_⟩
  · rw [htrim]
    apply splitSign_text
    intro c more hcons
    obtain rfl := (List.cons.inj hcons).1
    decide
  · rcases hmark with rfl | rfl <;> rfl

/-- Without a mark there is no hexadecimal integer. -/
theorem hexadecimal?_cases (s : String) :
    hexadecimal? (Text.trim s.toList) = none ∨ ∃ sign rest, IsHexadecimal sign rest s := by
  obtain ⟨sign, body, htrim, hsplit⟩ := exists_sign (Text.trim s.toList)
  rcases afterHexMark?_cases body with hmark | ⟨mark, rest, rfl, hmark⟩
  · exact .inl (hexadecimal?_of_mark (by rwa [hsplit]))
  · exact .inr ⟨sign, rest, mark, hmark, htrim⟩

/-- The outer sign is applied to the integer behind the mark. -/
theorem hexadecimal?_marked {sign : Sign} (h : IsHexadecimal sign rest s) :
    hexadecimal? (Text.trim s.toList) =
      (signedNumeral? 16 rest).map fun i => if sign.isMinus then -i else i := by
  obtain ⟨mark, -, hsplit, hafter⟩ := h.split
  rw [hexadecimal?, hsplit]
  simp only [hafter, Option.bind_some]
  cases signedNumeral? 16 rest <;> rfl

/-- Without an integer behind the mark the text denotes no number, but the zero of the mark is read. -/
theorem integer?_of_not_hexadecimal {sign : Sign} (h : IsHexadecimal sign rest s)
    (hnone : signedNumeral? 16 rest = none) : integer? s = some 0 ∧ number? s = none := by
  have hhex : hexadecimal? (Text.trim s.toList) = none := by rw [hexadecimal?_marked h, hnone, Option.map_none]
  obtain ⟨mark, hmark, hsplit, -⟩ := h.split
  have hletter : mark.isDigit = false ∧ mark ≠ '.' ∧ mark ≠ 'e' ∧ mark ≠ 'E' := by
    rcases hmark with rfl | rfl <;> decide
  constructor
  · have htake : ('0' :: mark :: rest).takeWhile Char.isDigit = ['0'] := by
      rw [List.takeWhile_cons_of_pos (by rfl), List.takeWhile_cons_of_neg (by simp [hletter.1])]
    have hzero : signedNumeral? 10 ['0'] = some 0 := by decide
    simp only [integer?, hhex, hsplit, htake, hzero]
    cases sign.isMinus <;> rfl
  · have hliteral : DecimalLiteral.ofText? (Text.trim s.toList) = none :=
      ofText?_zeros_eq_none (k := 0) hsplit hletter.1 hletter.2.1 hletter.2.2
    rw [← String.ofList_toList (s := s), number?_eq_none hhex hliteral]

end Stencil.Number
