import Stencil.Json.Number
import Stencil.Number.Reading

/-!
# Tokens of JSON texts

* `Token`: a bracket, a mark, a text or a scalar.
* `Token.scan?`: the tokens of a text, without the blanks between them.
-/

namespace Stencil.Json

open Number

/-- The smallest parts of a JSON text. -/
inductive Token where
  | openArray
  | closeArray
  | openObject
  | closeObject
  | comma
  | colon
  | text (s : List Char)
  | scalar (v : Json)

/-- The blanks between tokens. -/
def isSpace (c : Char) : Bool := c == ' ' || c == '\n' || c == '\t' || c == '\r'

/-! ## Texts -/

/-- The number of four hexadecimal digits, and what follows them. -/
def hexQuad? : List Char → Option (Nat × List Char)
  | a :: b :: c :: d :: rest => (ofNumeral? 16 [a, b, c, d]).map fun n => (n, rest)
  | _ => none

/-- The character of an escape of one letter. -/
def letterEscape? : Char → Option Char
  | '"' => some '"'
  | '\\' => some '\\'
  | '/' => some '/'
  | 'b' => some '\x08'
  | 'f' => some '\x0c'
  | 'n' => some '\n'
  | 'r' => some '\r'
  | 't' => some '\t'
  | _ => none

/-- The character of an escape by code, which may be a pair of surrogates, and what follows it. -/
def codeEscape? (cs : List Char) : Option (Char × List Char) :=
  match hexQuad? cs with
  | none => none
  | some (high, rest) =>
    if 0xD800 ≤ high ∧ high < 0xDC00 then
      match rest with
      | '\\' :: 'u' :: rest =>
        match hexQuad? rest with
        | none => none
        | some (low, rest) =>
          if 0xDC00 ≤ low ∧ low < 0xE000 then
            some (Char.ofNat (0x10000 + (high - 0xD800) * 0x400 + (low - 0xDC00)), rest)
          else none
      | _ => none
    else if 0xDC00 ≤ high ∧ high < 0xE000 then none
    else some (Char.ofNat high, rest)

/-- The character of the escape after a backslash, and what follows it. -/
def escape? : List Char → Option (Char × List Char)
  | [] => none
  | 'u' :: rest => codeEscape? rest
  | c :: rest => (letterEscape? c).map fun e => (e, rest)

theorem hexQuad?_length {cs rest : List Char} {n : Nat} (h : hexQuad? cs = some (n, rest)) :
    rest.length < cs.length := by
  unfold hexQuad? at h
  split at h
  · obtain ⟨_, _, h⟩ := Option.map_eq_some_iff.mp h
    simp only [Prod.mk.injEq] at h
    simp [← h.2]; omega
  · simp at h

theorem codeEscape?_length {cs rest : List Char} {c : Char} (h : codeEscape? cs = some (c, rest)) :
    rest.length < cs.length := by
  unfold codeEscape? at h
  split at h
  · simp at h
  · rename_i high mid hq
    have := hexQuad?_length hq
    split at h
    · split at h
      · split at h
        · simp at h
        · rename_i low last hq'
          have := hexQuad?_length hq'
          split at h
          · simp only [Option.some.injEq, Prod.mk.injEq] at h
            simp only [List.length_cons, ← h.2] at *
            omega
          · simp at h
      · simp at h
    · split at h
      · simp at h
      · simp only [Option.some.injEq, Prod.mk.injEq] at h
        simp only [← h.2]; omega

theorem escape?_length {cs rest : List Char} {c : Char} (h : escape? cs = some (c, rest)) :
    rest.length < cs.length := by
  unfold escape? at h
  split at h
  · simp at h
  · have := codeEscape?_length h; simp; omega
  · obtain ⟨_, _, h⟩ := Option.map_eq_some_iff.mp h
    simp only [Prod.mk.injEq] at h
    simp [h.2]

/-- The characters up to the closing quote, and what follows it. -/
def scanText? (cs : List Char) : Option (List Char × List Char) :=
  match cs with
  | [] => none
  | '"' :: rest => some ([], rest)
  | '\\' :: rest =>
    match _h : escape? rest with
    | none => none
    | some (c, after) => (scanText? after).map fun (s, last) => (c :: s, last)
  | c :: rest =>
    if c.toNat < 0x20 then none
    else (scanText? rest).map fun (s, last) => (c :: s, last)
termination_by cs.length
decreasing_by
  · have := escape?_length _h; simp; omega
  · simp

theorem scanText?_length {cs s rest : List Char} (h : scanText? cs = some (s, rest)) :
    rest.length < cs.length := by
  fun_induction scanText? cs generalizing s rest with
  | case1 => simp at h
  | case2 rest' => simp only [Option.some.injEq, Prod.mk.injEq] at h; simp [h.2]
  | case3 => simp at h
  | case4 rest' c after he ih =>
    obtain ⟨⟨s', last⟩, hs, h⟩ := Option.map_eq_some_iff.mp h
    simp only [Prod.mk.injEq] at h
    have := ih hs
    have := escape?_length he
    simp only [List.length_cons, ← h.2]; omega
  | case5 => simp at h
  | case6 c rest' _ _ _ ih =>
    obtain ⟨⟨s', last⟩, hs, h⟩ := Option.map_eq_some_iff.mp h
    simp only [Prod.mk.injEq] at h
    have := ih hs
    simp only [List.length_cons, ← h.2]; omega

/-! ## Numbers -/

/-- The digits at the start of a text, and what follows them. -/
def scanDigits : List Char → List Nat × List Char
  | [] => ([], [])
  | c :: rest =>
    if c.isDigit then
      let (ds, last) := scanDigits rest
      ((c.toNat - '0'.toNat) :: ds, last)
    else ([], c :: rest)

/-- The digits after a point, if there is one, and what follows them. -/
def scanFraction? : List Char → Option (Option (List Nat) × List Char)
  | '.' :: rest =>
    match scanDigits rest with
    | ([], _) => none
    | (ds, last) => some (some ds, last)
  | cs => some (none, cs)

/-- The exponent, if there is one, and what follows it. -/
def scanExponent? : List Char → Option (Option Int × List Char)
  | [] => some (none, [])
  | c :: rest =>
    if c = 'e' ∨ c = 'E' then
      match scanDigits (splitSign rest).2 with
      | ([], _) => none
      | (ds, last) =>
        some (some (if (splitSign rest).1 then -(ofDigits 10 ds : Int) else ofDigits 10 ds), last)
    else some (none, c :: rest)

/-- The minus sign in front of a number, and what follows it. -/
def splitMinus : List Char → Bool × List Char
  | '-' :: rest => (true, rest)
  | cs => (false, cs)

/-- A number, and what follows it. A leading zero stands alone. -/
def scanNumber? (cs : List Char) : Option (Json × List Char) :=
  match scanDigits (splitMinus cs).2 with
  | ([], _) => none
  | (first :: more, rest) =>
    if first = 0 ∧ more ≠ [] then none
    else
      match scanFraction? rest with
      | none => none
      | some (fraction, rest) =>
        match scanExponent? rest with
        | none => none
        | some (exponent, rest) =>
          let literal := ⟨(splitMinus cs).1, first :: more, fraction, exponent⟩
          (NumberLiteral.value? literal).map fun v => (v, rest)

/-- Digits are neither lost nor added. -/
theorem scanDigits_length (cs : List Char) :
    (scanDigits cs).1.length + (scanDigits cs).2.length = cs.length := by
  fun_induction scanDigits cs with
  | case1 => rfl
  | case2 c rest _ ds last h ih => simp only [h] at ih; simp; omega
  | case3 => simp

theorem scanFraction?_length {cs rest : List Char} {ds : Option (List Nat)}
    (h : scanFraction? cs = some (ds, rest)) : rest.length ≤ cs.length := by
  unfold scanFraction? at h
  split at h
  · rename_i body
    have hl := scanDigits_length body
    split at h
    · simp at h
    · rename_i ds' last _ he
      simp only [Option.some.injEq, Prod.mk.injEq] at h
      simp only [he] at hl
      simp only [← h.2, List.length_cons]; omega
  · simp only [Option.some.injEq, Prod.mk.injEq] at h
    simp [h.2]

theorem splitSign_length (cs : List Char) : (splitSign cs).2.length ≤ cs.length := by
  unfold splitSign; split <;> simp

theorem splitMinus_length (cs : List Char) : (splitMinus cs).2.length ≤ cs.length := by
  unfold splitMinus; split <;> simp

theorem scanExponent?_length {cs rest : List Char} {e : Option Int}
    (h : scanExponent? cs = some (e, rest)) : rest.length ≤ cs.length := by
  unfold scanExponent? at h
  split at h
  · simp only [Option.some.injEq, Prod.mk.injEq] at h
    simp [← h.2]
  · rename_i c body
    split at h
    · have := splitSign_length body
      have hl := scanDigits_length (splitSign body).2
      split at h
      · simp at h
      · rename_i ds last _ he
        simp only [Option.some.injEq, Prod.mk.injEq] at h
        simp only [he] at hl
        simp only [← h.2, List.length_cons]; omega
    · simp only [Option.some.injEq, Prod.mk.injEq] at h
      simp [← h.2]

theorem scanNumber?_length {cs rest : List Char} {v : Json}
    (h : scanNumber? cs = some (v, rest)) : rest.length < cs.length := by
  unfold scanNumber? at h
  have := splitMinus_length cs
  have hl := scanDigits_length (splitMinus cs).2
  split at h
  · simp at h
  · rename_i first more mid hd
    simp only [hd, List.length_cons] at hl
    split at h
    · simp at h
    · split at h
      · simp at h
      · rename_i fraction last hf
        have := scanFraction?_length hf
        split at h
        · simp at h
        · rename_i exponent last he
          have := scanExponent?_length he
          obtain ⟨_, _, h⟩ := Option.map_eq_some_iff.mp h
          simp only [Prod.mk.injEq] at h
          rw [← h.2]; omega

/-! ## All tokens -/

/-- The first token of a text that starts with no blank, and what follows it. -/
def Token.next? : List Char → Option (Token × List Char)
  | '[' :: rest => some (openArray, rest)
  | ']' :: rest => some (closeArray, rest)
  | '\x7b' :: rest => some (openObject, rest)
  | '\x7d' :: rest => some (closeObject, rest)
  | ',' :: rest => some (comma, rest)
  | ':' :: rest => some (colon, rest)
  | '"' :: rest => (scanText? rest).map fun (s, rest) => (text s, rest)
  | 'n' :: 'u' :: 'l' :: 'l' :: rest => some (scalar .null, rest)
  | 't' :: 'r' :: 'u' :: 'e' :: rest => some (scalar (.bool true), rest)
  | 'f' :: 'a' :: 'l' :: 's' :: 'e' :: rest => some (scalar (.bool false), rest)
  | cs => (scanNumber? cs).map fun (v, rest) => (scalar v, rest)

theorem Token.next?_length {cs rest : List Char} {t : Token} (h : next? cs = some (t, rest)) :
    rest.length < cs.length := by
  unfold next? at h
  split at h
  case h_7 body =>
    obtain ⟨⟨s, last⟩, hs, h⟩ := Option.map_eq_some_iff.mp h
    have := scanText?_length hs
    simp only [Prod.mk.injEq] at h
    simp only [List.length_cons, ← h.2]; omega
  case h_11 =>
    obtain ⟨⟨v, last⟩, hv, h⟩ := Option.map_eq_some_iff.mp h
    have := scanNumber?_length hv
    simp only [Prod.mk.injEq] at h
    rw [← h.2]; omega
  all_goals
    simp only [Option.some.injEq, Prod.mk.injEq] at h
    simp [← h.2]; try omega

/-- All tokens of a text. -/
def Token.scan? (cs : List Char) : Option (List Token) :=
  match cs with
  | [] => some []
  | c :: rest =>
    if isSpace c then scan? rest
    else
      match _h : next? (c :: rest) with
      | none => none
      | some (t, last) => (scan? last).map (t :: ·)
termination_by cs.length
decreasing_by
  · simp
  · exact next?_length _h

end Stencil.Json
