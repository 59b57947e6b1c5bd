import Stencil.Number.Binary64
import Stencil.Number.Numeral
import Stencil.Text.Basic

/-!
# Numbers read from texts

Blanks around the text do not count. After an optional sign, `0x` or `0X` starts a hexadecimal
integer, whose digits may have a sign of their own.

* `unsigned?`: digits that denote a natural number of 64 bits.
* `hexadecimal?`: such an integer, if it has 64 bits.
* `DecimalLiteral.ofText?`: digits with an optional point and an optional exponent.
* `Binary64.ofText?`: the number of a literal, and the infinite numbers and NaN by their words.
* `number?`: the finite number that a text denotes.
* `integer?`: the integer at the start of a text.
-/

namespace Stencil.Number

/-- The sign in front of a text, and what follows it. -/
def splitSign : List Char → Bool × List Char
  | '-' :: rest => (true, rest)
  | '+' :: rest => (false, rest)
  | cs => (false, cs)

/-- The range of a signed integer of 64 bits. -/
def inInt64 (i : Int) : Bool := decide (-2 ^ 63 ≤ i) && decide (i < 2 ^ 63)

/-- The 64-bit integer that a numeral with an optional sign denotes. -/
def signedNumeral? (base : Nat) (cs : List Char) : Option Int64 :=
  let (negative, body) := splitSign cs
  match ofNumeral? base body with
  | some n =>
    let i : Int := if negative then -n else n
    if inInt64 i then some (.ofInt i) else none
  | none => none

/-- The natural number of at most 64 bits that decimal digits denote, after an optional plus sign. -/
def unsigned? (cs : List Char) : Option Nat :=
  let body := match cs with
    | '+' :: rest => rest
    | cs => cs
  (ofNumeral? 10 body).filter (· < 2 ^ 64)

/-- What follows the mark of a hexadecimal integer. -/
def afterHexMark? : List Char → Option (List Char)
  | '0' :: 'x' :: rest => some rest
  | '0' :: 'X' :: rest => some rest
  | _ => none

/-- The integer of a text that is marked as hexadecimal; an outer sign reverses an inner one. -/
def hexadecimal? (cs : List Char) : Option Int64 :=
  let (negative, body) := splitSign cs
  match (afterHexMark? body).bind (signedNumeral? 16) with
  | some i => some (if negative then -i else i)
  | none => none

/-- The number `± digits * 10 ^ exponent`. -/
structure DecimalLiteral where
  negative : Bool
  digits : Nat
  exponent : Int

namespace DecimalLiteral

/-- The exponent part, which may be missing. -/
def exponentOf? : List Char → Option Int
  | [] => some 0
  | c :: rest =>
    if c = 'e' ∨ c = 'E' then
      let (negative, body) := splitSign rest
      match ofNumeral? 10 body with
      | some n => some (if negative then -n else n)
      | none => none
    else none

/-- Reads a sign, digits with an optional point among or beside them, and an exponent. -/
def ofText? (cs : List Char) : Option DecimalLiteral :=
  let (negative, body) := splitSign cs
  let whole := body.takeWhile Char.isDigit
  let rest := body.dropWhile Char.isDigit
  let (fraction, rest) :=
    match rest with
    | '.' :: rest => (rest.takeWhile Char.isDigit, rest.dropWhile Char.isDigit)
    | rest => ([], rest)
  match ofNumeral? 10 (whole ++ fraction), exponentOf? rest with
  | some digits, some exponent => some ⟨negative, digits, exponent - fraction.length⟩
  | _, _ => none

/-- The binary64 number nearest to the literal. Beyond 400 places on either side of the point it is
infinite or zero, whatever the digits. -/
def nearest (l : DecimalLiteral) : Binary64 :=
  let leading : Int := l.exponent + digitCount l.digits
  if l.digits = 0 then .finite l.negative .zero
  else if 400 < leading then .infinite l.negative
  else if leading < -400 then .finite l.negative .zero
  else if l.exponent < 0 then .ofRatio l.negative l.digits (10 ^ l.exponent.natAbs)
  else .ofRatio l.negative (l.digits * 10 ^ l.exponent.natAbs) 1

end DecimalLiteral

/-- The number that a word stands for, in any case. -/
def Binary64.ofWord? (negative : Bool) (cs : List Char) : Option Binary64 :=
  let word := cs.map Char.toLower
  if word = "nan".toList then some .nan
  else if word = "inf".toList ∨ word = "infinity".toList then some (.infinite negative)
  else none

/-- The number that a text denotes, which may be infinite or NaN. -/
def Binary64.ofText? (cs : List Char) : Option Binary64 :=
  match DecimalLiteral.ofText? cs with
  | some l => some l.nearest
  | none =>
    let (negative, body) := splitSign cs
    ofWord? negative body

/-- An ASCII letter other than the one of an exponent. -/
def isWordLetter (c : Char) : Bool := c.isAlpha && c != 'e' && c != 'E'

/-- The finite number that a text denotes. Letters keep the words out. -/
def number? (s : String) : Option Binary64 :=
  let cs := Text.trim s.toList
  match hexadecimal? cs with
  | some i => some (.ofInt i.toInt)
  | none =>
    if cs.any isWordLetter then none else (Binary64.ofText? cs).filter Binary64.isFinite

/-- The 64-bit integer at the start of a text; what follows its digits does not count. -/
def integer? (s : String) : Option Int64 :=
  let cs := Text.trim s.toList
  match hexadecimal? cs with
  | some i => some i
  | none =>
    let (negative, body) := splitSign cs
    match signedNumeral? 10 (body.takeWhile Char.isDigit) with
    | some i => some (if negative then -i else i)
    | none => none

end Stencil.Number
