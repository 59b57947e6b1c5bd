import Stencil.Directive.Real
import Stencil.Proofs.Number.Carry
import Stencil.Proofs.Number.Reading

/-!
# Numbers that are fitted into a width

A width alone says how many digits a number has behind the point. They are counted before the number is
rounded, and one less is tried if the text is too long. In exponential notation the width says how much of
the mantissa stands in front of the exponent.

* `Real.length_fixedText`: the length of a number with so many places.
* `Real.FallsShort`: the text is one character shorter than the width.
* `Real.Fits`: what stands in a width with room for so many places.
* `Real.fitFixed?_eq_none_iff`, `Real.exists_fits`: which width is too small, and that any other one has such
  a text.
* `Real.IsStretched`, `Real.IsCut`: what can become of a mantissa.
* `Real.fitExponential?_eq_none`, `Real.fitExponential?_eq_some`: the same for exponential notation.
-/

namespace Stencil

namespace Number

theorem signed_append (negative : Bool) (cs rest : List Char) :
    signed negative cs ++ rest = signed negative (cs ++ rest) := by
  cases negative <;> rfl

theorem length_signed (negative : Bool) (cs : List Char) :
    (signed negative cs).length = cs.length + if negative then 1 else 0 := by
  cases negative <;> rfl

/-- The length of so many digits and the point in front of them. -/
def pointLength : ℕ → ℕ
  | 0 => 0
  | places + 1 => places + 2

theorem length_pointText (places n : ℕ) :
    (pointText places n).length = digitCount (n / 10 ^ places) + pointLength places := by
  cases places with
  | zero => rw [pointText, if_pos rfl, length_numeral, Nat.pow_zero, Nat.div_one, pointLength, Nat.add_zero]
  | succ p =>
    have hlen : (paddedNumeral (p + 1) (n % 10 ^ (p + 1))).length = p + 1 := by
      rw [paddedNumeral_eq, List.length_map, length_paddedDigits (Nat.succ_pos p)]
      exact Nat.mod_lt _ (Nat.pow_pos (by decide))
    rw [pointText, if_neg (Nat.succ_ne_zero p), List.length_append, List.length_cons, hlen, length_numeral,
      pointLength]

/-- A step that is too long is one behind the point. -/
theorem Magnitude.not_carriesOver_zero (x : Magnitude) : ¬ x.CarriesOver 0 := by
  intro h
  have hstep := h.step_eq
  have hlong := h.1.2
  rw [hstep] at hlong
  norm_num at hlong

end Number

namespace Real

open Number Magnitude

variable {negative : Bool} {x : Magnitude} {places width : ℕ}

/-- The length of the integer part with its sign. -/
def wholeLength (negative : Bool) (x : Magnitude) : ℕ := (signed negative (numeral 10 x.floor)).length

/-- A number without a carry is as long as its integer part, the point and its places. -/
theorem length_fixedText (negative : Bool) (h : ¬ x.Carries places) (h' : ¬ x.CarriesOver places) :
    (fixedText negative x places).length = wholeLength negative x + pointLength places := by
  rw [fixedText, fixed_eq, length_signed, length_pointText, digitCount_fixedCoefficient,
    if_neg (not_or.mpr ⟨h, h'⟩), wholeLength, length_signed, length_numeral]
  omega

/-- A carry makes it one digit longer. -/
theorem length_fixedText_of_carry (negative : Bool)
    (h : x.Carries places ∨ x.CarriesOver places) :
    (fixedText negative x places).length = wholeLength negative x + 1 + pointLength places := by
  rw [fixedText, fixed_eq, length_signed, length_pointText, digitCount_fixedCoefficient,
    if_pos h, wholeLength, length_signed, length_numeral]
  omega

/-- The text is one character shorter than the width: there is room for no digit behind the point, so that
the point is missing too, or a carry takes this room. After a step that is too long there is no carry
with one place less. -/
def FallsShort (places : ℕ) (x : Magnitude) : Prop :=
  (places = 0 ∧ ¬ x.Carries 0) ∨ (places = 1 ∧ x.Carries 1) ∨ x.CarriesOver places

theorem fitFixed?_eq_none_iff :
    fitFixed? negative x width = none ↔ width < wholeLength negative x + 1 := by
  simp only [fitFixed?]
  split
  · exact iff_of_true rfl ‹_›
  · refine iff_of_false ?_ ‹_›
    split <;> exact Option.some_ne_none _

theorem fitFixed?_of_le {p : ℕ} (hlen : (fixedText negative x p).length ≤ wholeLength negative x + 1 + p) :
    fitFixed? negative x (wholeLength negative x + 1 + p) = some (fixedText negative x p) := by
  have hplaces : wholeLength negative x + 1 + p - (wholeLength negative x + 1) = p := by omega
  rw [wholeLength] at hplaces hlen
  simp only [fitFixed?, wholeLength, hplaces]
  rw [if_neg (by omega), if_neg (by omega)]

theorem fitFixed?_of_lt {p : ℕ}
    (hlen : wholeLength negative x + 1 + (p + 1) < (fixedText negative x (p + 1)).length) :
    fitFixed? negative x (wholeLength negative x + 1 + (p + 1)) = some (fixedText negative x p) := by
  have hplaces : wholeLength negative x + 1 + (p + 1) - (wholeLength negative x + 1) = p + 1 := by omega
  rw [wholeLength] at hplaces hlen
  simp only [fitFixed?, wholeLength, hplaces]
  rw [if_neg (by omega), if_pos ⟨hlen, Nat.succ_pos p⟩, Nat.add_sub_cancel]

/-- In a width with room for so many places stands the number with this many, or with one less. Its length is
the width unless it falls short. -/
structure Fits (negative : Bool) (x : Magnitude) (places p : ℕ) : Prop where
  places_eq : p = places ∨ p + 1 = places
  fit_eq : fitFixed? negative x (wholeLength negative x + 1 + places) = some (fixedText negative x p)
  length_eq : ¬ FallsShort places x → (fixedText negative x p).length = wholeLength negative x + 1 + places
  length_short : FallsShort places x →
    (fixedText negative x p).length + 1 = wholeLength negative x + 1 + places

/-- Without a carry the number has as many places as there is room for, and only the point can be missing. -/
theorem fits_of_not_carries (negative : Bool) (h : ¬ x.Carries places) (h' : ¬ x.CarriesOver places) :
    Fits negative x places places := by
  have hlen := length_fixedText negative h h'
  cases places with
  | zero =>
    refine ⟨.inl rfl, fitFixed?_of_le (by rw [hlen, pointLength]; omega), fun hnot => ?_, fun _ => ?_⟩
    · exact absurd (.inl ⟨rfl, h⟩) hnot
    · rw [hlen, pointLength]
  | succ p =>
    refine ⟨.inl rfl, fitFixed?_of_le (by rw [hlen, pointLength]; omega), fun _ => ?_, ?_⟩
    · rw [hlen, pointLength]
      omega
    · rintro (hshort | hshort | hshort)
      · exact absurd hshort.1 (by omega)
      · rw [hshort.1] at h
        exact absurd hshort.2 h
      · exact absurd hshort h'

/-- Without a place the digit of a carry stands where there was room for the point. -/
theorem fits_zero_of_carries (negative : Bool) (h : x.Carries 0) : Fits negative x 0 0 := by
  have hlen := length_fixedText_of_carry negative (.inl h)
  refine ⟨.inl rfl, fitFixed?_of_le hlen.le, fun _ => hlen, ?_⟩
  rintro (hshort | hshort | hshort)
  · exact absurd h hshort.2
  · exact absurd hshort.1 (by decide)
  · exact absurd hshort x.not_carriesOver_zero

/-- It takes the place of the only digit behind the point, and the point goes with it. -/
theorem fits_one_of_carries (negative : Bool) (h : x.Carries 1 ∨ x.CarriesOver 1) :
    Fits negative x 1 0 := by
  have hlen := length_fixedText_of_carry negative h
  have hpred : x.Carries 0 := h.elim Carries.pred fun h => h.carries_iff.mpr rfl
  have hlen' := length_fixedText_of_carry negative (.inl hpred)
  refine ⟨.inr rfl, fitFixed?_of_lt (by rw [hlen, pointLength]; omega), fun hnot => ?_, fun _ => ?_⟩
  · exact absurd (h.elim (fun h => .inr (.inl ⟨rfl, h⟩)) fun h => .inr (.inr h)) hnot
  · rw [hlen', pointLength]

/-- It takes the place of the last of several digits. A carry by a step that is too long leaves this place
empty. -/
theorem fits_succ_of_carries (negative : Bool) {p : ℕ} (h : x.Carries (p + 2) ∨ x.CarriesOver (p + 2)) :
    Fits negative x (p + 2) (p + 1) := by
  have hlen := length_fixedText_of_carry negative h
  refine ⟨.inr rfl, fitFixed?_of_lt (by rw [hlen, pointLength]; omega), fun hnot => ?_, ?_⟩
  · have hpred : x.Carries (p + 1) := (h.resolve_right fun h => hnot (.inr (.inr h))).pred
    rw [length_fixedText_of_carry negative (.inl hpred), pointLength]
  · rintro (hshort | hshort | hshort)
    · exact absurd hshort.1 (by omega)
    · exact absurd hshort.1 (by omega)
    · have hpred : ¬ x.Carries (p + 1) := fun hpred => absurd (hshort.carries_iff.mp hpred) (by omega)
      rw [length_fixedText negative hpred hshort.not_carriesOver, pointLength]
      omega

theorem exists_fits (negative : Bool) (x : Magnitude) (places : ℕ) : ∃ p, Fits negative x places p := by
  by_cases hcarry : x.Carries places ∨ x.CarriesOver places
  · rcases places with _ | _ | p
    · exact ⟨0, fits_zero_of_carries negative (hcarry.resolve_right x.not_carriesOver_zero)⟩
    · exact ⟨0, fits_one_of_carries negative hcarry⟩
    · exact ⟨p + 1, fits_succ_of_carries negative hcarry⟩
  · obtain ⟨hnot, hover⟩ := not_or.mp hcarry
    exact ⟨places, fits_of_not_carries negative hnot hover⟩

/-! ## Mantissas -/

/-- The mantissa as it is, or with zeros at its end, behind a point if there was none. -/
def IsStretched (mantissa cs : List Char) : Prop :=
  cs = mantissa ∨ ('.' ∈ mantissa ∧ ∃ k, cs = mantissa ++ List.replicate k '0') ∨
    ('.' ∉ mantissa ∧ ∃ k, cs = mantissa ++ '.' :: List.replicate k '0')

/-- The longest beginning of the mantissa that is not too long and does not end in a point. -/
structure IsCut (mantissa : List Char) (size : ℕ) (cs : List Char) : Prop where
  begins : cs <+: mantissa
  length_le : cs.length ≤ size
  noPoint : cs.getLast? ≠ some '.'
  longest : ∀ p, p <+: mantissa → p.length ≤ size → p.getLast? ≠ some '.' → p <+: cs

section

variable {m p cs : List Char} {size : ℕ} {c : Char}

theorem takeWhile_mantissa (hm : 'e' ∉ m) (p : List Char) :
    (m ++ 'e' :: p).takeWhile (· ≠ 'e') = m ∧ (m ++ 'e' :: p).dropWhile (· ≠ 'e') = 'e' :: p := by
  have hne : ∀ c ∈ m, decide (c ≠ 'e') = true := fun c hc => decide_eq_true fun h => hm (h ▸ hc)
  rw [List.takeWhile_append_of_pos hne, List.dropWhile_append_of_pos hne,
    List.takeWhile_cons_of_neg (by decide), List.dropWhile_cons_of_neg (by decide)]
  exact ⟨List.append_nil m, rfl⟩

/-- In a width that is not too small for the whole text the mantissa is stretched. -/
theorem fitExponential?_of_le (hm : 'e' ∉ m) (hwidth : (m ++ 'e' :: p).length ≤ width) :
    ∃ cs, fitExponential? (m ++ 'e' :: p) width = some (cs ++ 'e' :: p) ∧
      (cs ++ 'e' :: p).length = width ∧ IsStretched m cs := by
  obtain ⟨htake, hdrop⟩ := takeWhile_mantissa hm p
  simp only [fitExponential?, htake, hdrop]
  rw [if_pos hwidth]
  rw [List.length_append] at hwidth ⊢
  split
  · refine ⟨m, rfl, ?_, .inl rfl⟩
    rw [List.length_append]
    omega
  split
  · refine ⟨m ++ List.replicate (width - (m.length + ('e' :: p).length)) '0', rfl, ?_,
      .inr (.inl ⟨‹_›, _, rfl⟩)⟩
    rw [List.length_append, List.length_append, List.length_replicate]
    omega
  · refine ⟨m ++ '.' :: List.replicate (width - (m.length + ('e' :: p).length) - 1) '0', rfl, ?_,
      .inr (.inr ⟨‹_›, _, rfl⟩)⟩
    rw [List.length_append, List.length_append, List.length_cons, List.length_replicate]
    omega

/-- In a smaller one it is cut, if there is room for a digit. -/
theorem fitExponential?_of_lt (hm : 'e' ∉ m) (hwidth : width < (m ++ 'e' :: p).length)
    (hsuffix : ('e' :: p).length ≤ width) :
    fitExponential? (m ++ 'e' :: p) width =
      if dropPoint (m.take (width - ('e' :: p).length)) = [] ∨
        dropPoint (m.take (width - ('e' :: p).length)) = ['-'] then none
      else some (dropPoint (m.take (width - ('e' :: p).length)) ++ 'e' :: p) := by
  obtain ⟨htake, hdrop⟩ := takeWhile_mantissa hm p
  simp only [fitExponential?, htake, hdrop]
  rw [if_neg (by omega), if_neg (by omega)]

theorem fitExponential?_of_suffix (hm : 'e' ∉ m) (hsuffix : width < ('e' :: p).length) :
    fitExponential? (m ++ 'e' :: p) width = none := by
  obtain ⟨htake, hdrop⟩ := takeWhile_mantissa hm p
  have hlong : ('e' :: p).length ≤ (m ++ 'e' :: p).length := by
    rw [List.length_append]
    omega
  simp only [fitExponential?, htake, hdrop]
  rw [if_neg (by omega), if_pos hsuffix]

/-! ## Cuts -/

theorem dropPoint_append_point (cs : List Char) : dropPoint (cs ++ ['.']) = cs := by
  rw [dropPoint, List.getLast?_concat, if_pos rfl, List.dropLast_concat]

/-- A text either ends in a point, which is left out, or stays. -/
theorem dropPoint_cases (cs : List Char) :
    (cs = dropPoint cs ++ ['.']) ∨ (cs.getLast? ≠ some '.' ∧ dropPoint cs = cs) := by
  by_cases hlast : cs.getLast? = some '.'
  · obtain ⟨front, rfl⟩ := List.getLast?_eq_some_iff.mp hlast
    rw [dropPoint_append_point]
    exact .inl rfl
  · exact .inr ⟨hlast, if_neg hlast⟩

theorem mem_dropPoint (h : c ∈ cs) (hc : c ≠ '.') : c ∈ dropPoint cs := by
  rcases dropPoint_cases cs with heq | ⟨-, heq⟩
  · rw [heq] at h
    exact (List.mem_append.mp h).resolve_right fun h => hc (List.mem_singleton.mp h)
  · rwa [heq]

/-- With at most one point, what is left does not end in another one. -/
theorem isCut_dropPoint (hm : List.count '.' m ≤ 1) (size : ℕ) : IsCut m size (dropPoint (m.take size)) := by
  have htake : m.take size <+: m := List.take_prefix size m
  rcases dropPoint_cases (m.take size) with heq | ⟨hlast, heq⟩
  · have hcount : List.count '.' (m.take size) ≤ 1 := (htake.sublist.count_le '.').trans hm
    have hlen := List.length_take_le size m
    generalize dropPoint (m.take size) = q at *
    rw [heq, List.length_append] at hlen
    rw [heq, List.count_append, List.count_singleton_self] at hcount
    refine ⟨(List.prefix_append q ['.']).trans (heq ▸ htake), by omega, fun hpoint => ?_, ?_⟩
    · have hmem : '.' ∈ q := List.mem_of_getLast? hpoint
      have := List.count_pos_iff.mpr hmem
      omega
    · intro p hp hsize hpoint
      have hp : p <+: q ++ ['.'] := heq ▸ List.prefix_take_iff.mpr ⟨hp, hsize⟩
      refine (List.prefix_concat_iff.mp hp).resolve_left fun hsame => hpoint ?_
      rw [hsame, List.getLast?_concat]
  · rw [heq]
    exact ⟨htake, List.length_take_le size m, hlast, fun p hp hsize _ => List.prefix_take_iff.mpr ⟨hp, hsize⟩⟩

theorem length_dropPoint (h : size < m.length) :
    (dropPoint (m.take size)).length + (if (m.take size).getLast? = some '.' then 1 else 0) = size := by
  have hlen : (m.take size).length = size := List.length_take_of_le h.le
  rcases dropPoint_cases (m.take size) with heq | ⟨hlast, heq⟩
  · generalize dropPoint (m.take size) = q at *
    rw [heq, List.length_append] at hlen
    rwa [heq, List.getLast?_concat, if_pos rfl]
  · rw [heq, if_neg hlast]
    exact hlen

end

/-! ## Mantissas of numbers -/

section

variable {cs fraction : List Char} {first : Char} {n size : ℕ}

/-- The mantissa of a number: a digit, perhaps a point and more digits, and a sign in front of a negative
one. -/
def mantissa (negative : Bool) (first : Char) (fraction : List Char) : List Char :=
  signed negative (pointed [first] fraction)

theorem mantissa_eq (negative : Bool) (first : Char) (fraction : List Char) :
    mantissa negative first fraction =
      signed negative [first] ++ (if fraction = [] then [] else '.' :: fraction) := by
  rw [mantissa, pointed]
  split <;> cases negative <;> rfl

theorem not_mem_mantissa (hdigits : ∀ c ∈ first :: fraction, c.isDigit = true) :
    'e' ∉ mantissa negative first fraction := fun h =>
  absurd (mem_signed_pointed hdigits h) (by decide)

theorem count_mantissa (hdigits : ∀ c ∈ first :: fraction, c.isDigit = true) :
    List.count '.' (mantissa negative first fraction) ≤ 1 := by
  have hnot : ∀ cs, (∀ c ∈ cs, c.isDigit = true) → List.count '.' cs = 0 := fun cs hcs =>
    List.count_eq_zero_of_not_mem fun h => absurd (hcs '.' h) (by decide)
  have hfirst : List.count '.' (signed negative [first]) = 0 := by
    have h := hnot [first] fun c hc => hdigits c (List.mem_singleton.mp hc ▸ List.mem_cons_self)
    cases negative with
    | false => exact h
    | true => exact (List.count_cons_of_ne (by decide)).trans h
  rw [mantissa_eq, List.count_append, hfirst]
  split
  · exact Nat.zero_le 1
  · rw [List.count_cons_self, hnot fraction fun c hc => hdigits c (List.mem_cons_of_mem _ hc)]

/-- The first digit stays if there is room for it. -/
theorem mem_take_mantissa (h : (if negative then 2 else 1) ≤ size) :
    first ∈ (mantissa negative first fraction).take size := by
  rw [mantissa_eq]
  cases negative with
  | false =>
    obtain ⟨k, rfl⟩ := Nat.exists_eq_add_of_le' h
    exact List.mem_cons_self
  | true =>
    obtain ⟨k, rfl⟩ := Nat.exists_eq_add_of_le' h
    exact List.mem_cons_of_mem _ List.mem_cons_self

/-- If there is none, nothing but the sign is left. -/
theorem dropPoint_take_mantissa (h : size < if negative then 2 else 1) :
    dropPoint ((mantissa negative first fraction).take size) = [] ∨
      dropPoint ((mantissa negative first fraction).take size) = ['-'] := by
  rw [mantissa_eq]
  cases negative with
  | false =>
    obtain rfl : size = 0 := by simpa using h
    exact .inl rfl
  | true =>
    have h : size < 2 := h
    obtain rfl | rfl : size = 0 ∨ size = 1 := by omega
    · exact .inl rfl
    · exact .inr rfl

/-- Both texts are read as literals of the same value. -/
def SameNumber (cs cs' : List Char) : Prop :=
  ∃ l l', DecimalLiteral.ofText? cs = some l ∧ DecimalLiteral.ofText? cs' = some l' ∧
    l.negative = l'.negative ∧ l.value = l'.value

theorem ofText?_mantissa (negative : Bool) (hn : ofNumeral? 10 (first :: fraction) = some n) (e : ℤ) :
    DecimalLiteral.ofText? (mantissa negative first fraction ++ exponentText e) =
      some ⟨negative, n, e - fraction.length⟩ := by
  have he := DecimalLiteral.exponentOf?_exponentText e
  rw [mantissa_eq, List.append_assoc, signed_append]
  split
  · rename_i hfraction
    subst hfraction
    rw [List.nil_append, DecimalLiteral.ofText?_whole negative hn he, List.length_nil, Nat.cast_zero,
      Int.sub_zero]
  · exact DecimalLiteral.ofText?_point negative (List.cons_ne_nil first []) hn he

/-- More zeros behind the point do not change the number. -/
theorem ofText?_zeros_behind (negative : Bool) (hn : ofNumeral? 10 (first :: fraction) = some n) (e : ℤ)
    (k : ℕ) :
    DecimalLiteral.ofText? (signed negative [first] ++ '.' :: (fraction ++ List.replicate k '0') ++
      exponentText e) = some ⟨negative, n * 10 ^ k, e - (fraction.length + k)⟩ := by
  have hzeros : ofNumeral? 10 ([first] ++ (fraction ++ List.replicate k '0')) = some (n * 10 ^ k) :=
    ofNumeral?_append_zeros hn k
  have hread := DecimalLiteral.ofText?_point negative (List.cons_ne_nil first []) hzeros
    (DecimalLiteral.exponentOf?_exponentText e)
  rw [List.length_append, List.length_replicate, Nat.cast_add] at hread
  rw [signed_append, signed_append]
  exact hread

/-- A stretched mantissa belongs to the same number. -/
theorem sameNumber_of_isStretched (hn : ofNumeral? 10 (first :: fraction) = some n)
    (h : IsStretched (mantissa negative first fraction) cs) (e : ℤ) :
    SameNumber (mantissa negative first fraction ++ exponentText e) (cs ++ exponentText e) := by
  -- Zeros behind a point change no value; the two ways to stretch differ in whether the mantissa has a point.
  have hpoint : (∃ k, cs = signed negative [first] ++ '.' :: (fraction ++ List.replicate k '0')) →
      SameNumber (mantissa negative first fraction ++ exponentText e) (cs ++ exponentText e) := by
    rintro ⟨k, rfl⟩
    refine ⟨_, _, ofText?_mantissa negative hn e, ofText?_zeros_behind negative hn e k, rfl, ?_⟩
    have hvalue : (⟨n, e - fraction.length⟩ : Decimal).value =
        (⟨n * 10 ^ k, e - (fraction.length + k)⟩ : Decimal).value := by
      rw [Decimal.value_mk, Decimal.value_mk, Nat.cast_mul, natCast_pow, mul_assoc,
        ← zpow_add₀ (by norm_num)]
      congr 2
      ring
    simp only [DecimalLiteral.value, hvalue]
  rcases h with rfl | ⟨hmem, k, rfl⟩ | ⟨hmem, k, rfl⟩
  · exact ⟨_, _, ofText?_mantissa negative hn e, ofText?_mantissa negative hn e, rfl, rfl⟩
  · refine hpoint ⟨k, ?_⟩
    have hne : fraction ≠ [] := by
      rintro rfl
      have hfirst : first ≠ '.' := ne_of_isDigit ((digits_of_ofNumeral? hn).2 first List.mem_cons_self) rfl
      rw [mantissa_eq, if_pos rfl, List.append_nil] at hmem
      cases negative with
      | false => exact hfirst (List.mem_singleton.mp hmem).symm
      | true =>
        refine hfirst (List.mem_singleton.mp ((List.mem_cons.mp hmem).resolve_left ?_)).symm
        decide
    rw [mantissa_eq, if_neg hne, List.append_assoc, List.cons_append]
  · refine hpoint ⟨k, ?_⟩
    have hnil : fraction = [] := by
      by_contra hne
      refine hmem ?_
      rw [mantissa_eq, if_neg hne]
      exact List.mem_append_right _ List.mem_cons_self
    rw [mantissa_eq, if_pos hnil, hnil, List.append_nil, List.nil_append]

/-- What stands in a width for a mantissa and an exponent: a stretched mantissa of the same number, or the
first characters of the mantissa with a digit among them. One character of the width is left if the
mantissa is cut behind its point. -/
structure IsFitted (mantissa suffix : List Char) (width : ℕ) (cs : List Char) : Prop where
  stretched : mantissa.length + suffix.length ≤ width → (cs ++ suffix).length = width ∧
    IsStretched mantissa cs ∧ SameNumber (mantissa ++ suffix) (cs ++ suffix)
  cut : width < mantissa.length + suffix.length → IsCut mantissa (width - suffix.length) cs ∧
    (∃ c ∈ cs, c.isDigit = true) ∧ (cs ++ suffix).length +
      (if (mantissa.take (width - suffix.length)).getLast? = some '.' then 1 else 0) = width

theorem le_length_mantissa (negative : Bool) (first : Char) (fraction : List Char) :
    1 + (if negative then 1 else 0) ≤ (mantissa negative first fraction).length := by
  rw [mantissa_eq, List.length_append, length_signed]
  exact Nat.le_add_right _ _

/-- No width without room for the exponent, the first digit and the sign is large enough. -/
theorem fitExponential?_eq_none (hn : ofNumeral? 10 (first :: fraction) = some n) {e : ℤ}
    (h : width < (exponentText e).length + 1 + if negative then 1 else 0) :
    fitExponential? (mantissa negative first fraction ++ exponentText e) width = none := by
  have hm : 'e' ∉ mantissa negative first fraction := not_mem_mantissa (digits_of_ofNumeral? hn).2
  have hlen := le_length_mantissa negative first fraction
  obtain ⟨p, hp⟩ : ∃ p, exponentText e = 'e' :: p := ⟨_, rfl⟩
  rw [hp] at h ⊢
  by_cases hsuffix : width < ('e' :: p).length
  · exact fitExponential?_of_suffix hm hsuffix
  · rw [fitExponential?_of_lt hm (by rw [List.length_append]; omega) (by omega), if_pos]
    refine dropPoint_take_mantissa ?_
    cases negative with
    | false => exact Nat.sub_lt_left_of_lt_add (by omega) h
    | true => exact Nat.sub_lt_left_of_lt_add (by omega) h

/-- Any other width is. -/
theorem fitExponential?_eq_some (hn : ofNumeral? 10 (first :: fraction) = some n) {e : ℤ}
    (h : (exponentText e).length + 1 + (if negative then 1 else 0) ≤ width) :
    ∃ cs, fitExponential? (mantissa negative first fraction ++ exponentText e) width =
        some (cs ++ exponentText e) ∧
      IsFitted (mantissa negative first fraction) (exponentText e) width cs := by
  have hdigits := (digits_of_ofNumeral? hn).2
  have hm : 'e' ∉ mantissa negative first fraction := not_mem_mantissa hdigits
  have hfirst : first.isDigit = true := hdigits first List.mem_cons_self
  have hcount : List.count '.' (mantissa negative first fraction) ≤ 1 := count_mantissa hdigits
  have hsame : ∀ cs, IsStretched (mantissa negative first fraction) cs →
      SameNumber (mantissa negative first fraction ++ exponentText e) (cs ++ exponentText e) :=
    fun cs hcs => sameNumber_of_isStretched hn hcs e
  obtain ⟨p, hp⟩ : ∃ p, exponentText e = 'e' :: p := ⟨_, rfl⟩
  rw [hp] at h hsame ⊢
  -- There is room for the first digit, so what is cut is neither empty nor a sign alone.
  have hkept : first ∈ dropPoint ((mantissa negative first fraction).take (width - ('e' :: p).length)) := by
    refine mem_dropPoint (mem_take_mantissa ?_) (ne_of_isDigit hfirst rfl)
    cases negative with
    | false => exact Nat.le_sub_of_add_le' h
    | true => exact Nat.le_sub_of_add_le' h
  generalize mantissa negative first fraction = m at *
  rcases Nat.lt_or_ge width (m ++ 'e' :: p).length with hlt | hle
  · have hlen : m.length + ('e' :: p).length = (m ++ 'e' :: p).length := List.length_append.symm
    have hcut := length_dropPoint (show width - ('e' :: p).length < m.length by omega)
    rw [fitExponential?_of_lt hm hlt (by omega), if_neg]
    · refine ⟨_, rfl, fun hle => absurd hle (by omega), fun _ =>
        ⟨isCut_dropPoint hcount _, ⟨first, hkept, hfirst⟩, ?_⟩⟩
      rw [List.length_append]
      omega
    · rintro (hnil | hsign)
      · rw [hnil] at hkept
        cases hkept
      · rw [hsign] at hkept
        exact ne_of_isDigit hfirst rfl (List.mem_singleton.mp hkept)
  · obtain ⟨cs, hfit, hlen, hstretched⟩ := fitExponential?_of_le hm hle
    rw [List.length_append] at hle
    exact ⟨cs, hfit, fun _ => ⟨hlen, hstretched, hsame cs hstretched⟩, fun hlt => absurd hlt (by omega)⟩

end

end Real

end Stencil
