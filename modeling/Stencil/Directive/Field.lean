import Stencil.Text.Basic

/-!
# Fields

The grammar that the bodies of directives share: a minus sign, the digits of a width, a point and
the digits of a precision, and a letter. All but the letter may be missing, but a point has digits.

* `Field.ofBody?`, `Field.body`: the parts of a body, and the body of parts.
* `Padding.pad`: adds characters to a text at one side, up to a width counted in characters.
* `Padding.fit`: pads, and keeps the last characters of a text that is too long.
* `Padding.zeroFill`: `fit` with zeros, which stand after a minus sign.
-/

namespace Stencil

/-- The parts of a body. -/
structure Field where
  /-- The minus sign is there. -/
  leftAligned : Bool
  width : List Char
  precision : Option (List Char)
  conversion : Char
  deriving DecidableEq, Repr

namespace Field

/-- Splits a leading minus sign off. -/
def splitFlag : List Char → Bool × List Char
  | '-' :: rest => (true, rest)
  | cs => (false, cs)

/-- The digits after a leading point, and what follows them; none for a point without digits. -/
def splitPrecision? (isDigit : Char → Bool) : List Char → Option (Option (List Char) × List Char)
  | '.' :: rest =>
    if rest.takeWhile isDigit = [] then none
    else some (some (rest.takeWhile isDigit), rest.dropWhile isDigit)
  | cs => some (none, cs)

/-- The parts of a body, with `isDigit` as its digits. -/
def ofBody? (isDigit : Char → Bool) (body : List Char) : Option Field :=
  let flag := splitFlag body
  let width := flag.2.takeWhile isDigit
  match splitPrecision? isDigit (flag.2.dropWhile isDigit) with
  | some (precision, [conversion]) => some ⟨flag.1, width, precision, conversion⟩
  | _ => none

/-- The minus sign, as the text that it is. -/
def flagText (f : Field) : List Char := if f.leftAligned then ['-'] else []

/-- The body that has these parts. -/
def body (f : Field) : List Char :=
  f.flagText ++ f.width ++ (match f.precision with | some ds => '.' :: ds | none => []) ++
    [f.conversion]

end Field

/-! ## Texts laid out in fields -/

namespace Padding

/-- Adds `fill` up to `width` characters, after the text if it is left-aligned. -/
def pad (cs : List Char) (width : Nat) (fill : Char) (left : Bool) : List Char :=
  let padding := List.replicate (width - cs.length) fill
  if left then cs ++ padding else padding ++ cs

/-- The last `n` characters. -/
def keepLast (cs : List Char) (n : Nat) : List Char := cs.drop (cs.length - n)

/-- The text in exactly `width` characters; with width 0, the text as it is. -/
def fit (cs : List Char) (width : Nat) (fill : Char) (left : Bool) : List Char :=
  if width = 0 then cs else keepLast (pad cs width fill left) width

/-- The text in exactly `width` characters, with zeros between its sign and its digits. -/
def zeroFill (cs : List Char) (width : Nat) : List Char :=
  match cs with
  | '-' :: digits =>
    if cs.length < width then '-' :: pad digits (width - 1) '0' false
    else fit cs width '0' false
  | _ => fit cs width '0' false

end Padding

end Stencil
