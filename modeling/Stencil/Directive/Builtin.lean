import Stencil.Directive
import Stencil.Directive.Field
import Stencil.Directive.Real
import Stencil.Value.Coercion
import Stencil.Value.Tree

/-!
# The built-in directive rules

Eleven rules, each for one form of a body. All but the first take a form of `Field`; none of the
forms overlap.

* `recognize…`: the captures of the bodies that a rule is for.
* `…Text`: the text that a rule puts in place of a directive.
* `builtinRules`: the rules with their names, in the order in which they are tried.
-/

namespace Stencil.Directive

open Number

/-! ## Recognition -/

/-- The captures of a body: the body itself and the given parts. -/
def captured (body : String) (parts : List (Option (List Char))) : List (Option String) :=
  some body :: parts.map (Option.map String.ofList)

/-- The parts of a body with the digits of all scripts. -/
def fieldOf? (body : String) : Option Field := Field.ofBody? Text.isDecimalDigit body.toList

/-- A body of one letter, which is captured. -/
def recognizeLetter (letters : List Char) (body : String) : Option (List (Option String)) :=
  match body.toList with
  | [c] => if c ∈ letters then some (captured body [some [c]]) else none
  | _ => none

/-- A body of one letter, which is not captured. -/
def recognizeExactly (letter : Char) (body : String) : Option (List (Option String)) :=
  if body.toList = [letter] then some (captured body []) else none

/-- A width and `d`. The flag is a minus sign, or a zero in front of another digit. -/
def recognizePaddedInteger (body : String) : Option (List (Option String)) :=
  match fieldOf? body with
  | some ⟨true, first :: more, none, 'd'⟩ =>
    some (captured body [some ['-'], some (first :: more)])
  | some ⟨false, '0' :: second :: more, none, 'd'⟩ =>
    some (captured body [some ['0'], some (second :: more)])
  | some ⟨false, first :: more, none, 'd'⟩ => some (captured body [some [], some (first :: more)])
  | _ => none

/-- A width and `s`. -/
def recognizePaddedText (body : String) : Option (List (Option String)) :=
  match fieldOf? body with
  | some f@⟨_, first :: more, none, 's'⟩ =>
    some (captured body [some f.flagText, some (first :: more)])
  | _ => none

/-- A precision and `s`, perhaps with a width. -/
def recognizeCutText (body : String) : Option (List (Option String)) :=
  match fieldOf? body with
  | some f@⟨_, width, some precision, 's'⟩ =>
    some (captured body [some (f.flagText ++ width), some precision])
  | _ => none

/-- A given letter, perhaps with a width and a precision. -/
def recognizeReal (letter : Char) (body : String) : Option (List (Option String)) :=
  match fieldOf? body with
  | some f =>
    if f.conversion = letter then some (captured body [some f.flagText, some f.width, f.precision])
    else none
  | none => none

/-! ## Arguments -/

/-- The error for an argument that is no number. -/
def notANumber (heap : Heap) (arg : Value) : Error := .typeMismatch "an integer" (arg.display heap)

/-- The error for an argument that is no text. -/
def notAText (heap : Heap) (arg : Value) : Error := .typeMismatch "a string" (arg.display heap)

/-- The number of an argument, without the sign of a zero. -/
def numberOf (heap : Heap) (arg : Value) : Except Error (Bool × Magnitude) :=
  match arg.number? with
  | some (.finite negative x) => .ok (negative && !x.isZero, x)
  | _ => .error (notANumber heap arg)

/-- The 64-bit integer of an argument. -/
def integerOf (heap : Heap) (arg : Value) : Except Error Int64 := do
  let (negative, x) ← numberOf heap arg
  match arg.integer? with
  | some i => .ok i
  | none =>
    if 2 ^ 63 ≤ x.floor then
      .error (.range (.integerPart (String.ofList (Binary64.finite negative x).plainText)))
    else .error (notANumber heap arg)

/-- The contents of a text argument. -/
def textOf (heap : Heap) (arg : Value) : Except Error (List Char) :=
  match arg with
  | .text s => .ok s.toList
  | _ => .error (notAText heap arg)

/-- The largest width and precision. -/
def maxFieldSize : Nat := 100

/-- The size that digits denote. -/
def fieldSize (digits : List Char) : Except Error Nat :=
  match ofNumeral? 10 digits with
  | some n =>
    if n ≤ maxFieldSize then .ok n else .error (.range (.fieldSize (String.ofList digits)))
  | none => .error (.range (.fieldSize (String.ofList digits)))

/-- The characters of a part of the body; those of a missing part are none. -/
def part (d : Directive) (i : Nat) : List Char := ((d.group i).getD "").toList

/-- The size that a part of the body denotes, unless it is missing or empty. -/
def optionalSize (d : Directive) (i : Nat) : Except Error (Option Nat) :=
  if d.part i = [] then .ok none else some <$> fieldSize (d.part i)

/-! ## Texts -/

/-- A rule's text for a directive, the sequences and an argument. -/
abbrev TextOf := Directive → Heap → Value → Except Error (List Char)

/-- `%d` and `%s`: the default text of a number, or of a text or truth value. -/
def plainText : TextOf := fun d heap arg => do
  if d.part 1 = ['d'] then
    let _ ← numberOf heap arg
  else
    match arg with
    | .text _ | .bool _ => pure ()
    | _ => throw (notAText heap arg)
  pure (arg.display heap).toList

/-- `%5d`, `%-5d` and `%05d`: the default text of a number in a field. -/
def paddedIntegerText : TextOf := fun d heap arg => do
  let _ ← numberOf heap arg
  let width ← fieldSize (d.part 2)
  let cs := (arg.display heap).toList
  pure (match d.part 1 with
    | ['-'] => Padding.fit cs width ' ' true
    | ['0'] => Padding.zeroFill cs width
    | _ => Padding.fit cs width ' ' false)

/-- `%o`, `%b` and `%x`: an integer in another base, with its sign in front. -/
def baseText (base : Nat) : TextOf := fun _ heap arg => do
  let i ← integerOf heap arg
  pure (signed (decide (i.toInt < 0)) (numeral base i.toInt.natAbs))

/-- `%x` and `%X`: the case of the letter is that of the digits. -/
def hexadecimalText : TextOf := fun d heap arg => do
  let cs ← baseText 16 d heap arg
  pure (if d.part 1 = ['X'] then cs.map Char.toUpper else cs)

/-- `%c`: the character with the code. -/
def characterText : TextOf := fun _ heap arg => do
  let i ← integerOf heap arg
  if 0 ≤ i.toInt ∧ i.toInt.toNat.isValidChar then pure [Char.ofNat i.toInt.toNat]
  else throw (.range (.characterCode i))

/-- `%u`: the low 32 bits of an integer. -/
def unsignedText : TextOf := fun _ heap arg => do
  let i ← integerOf heap arg
  pure (numeral 10 (i.toInt % 2 ^ 32).toNat)

/-- `%5s` and `%-5s`: a text in a field. -/
def paddedTextText : TextOf := fun d heap arg => do
  let cs ← textOf heap arg
  let width ← fieldSize (d.part 2)
  pure (Padding.fit cs width ' ' (decide (d.part 1 = ['-'])))

/-- `%.4s`, `%5.4s` and `%-5.4s`: the first characters of a text, perhaps in a field. -/
def cutTextText : TextOf := fun d heap arg => do
  let cs ← textOf heap arg
  let count ← fieldSize (d.part 2)
  let (left, digits) := Field.splitFlag (d.part 1)
  if digits = [] then pure (cs.take count)
  else pure (Padding.fit (cs.take count) (← fieldSize digits) ' ' left)

/-- The text in a field that is wide enough, or the error that no field of this width is. -/
def orTooNarrow (width : Nat) (number : List Char) : Option (List Char) → Except Error (List Char)
  | some cs => .ok cs
  | none => .error (.range (.narrowField width (String.ofList number)))

/-- `%e`, `%.2e`, `%15e` and `%-15.2e`: a number with an exponent. -/
def exponentialText : TextOf := fun d heap arg => do
  let (negative, x) ← numberOf heap arg
  let width ← optionalSize d 2
  let precision ← optionalSize d 3
  let cs := Real.exponentialText negative x precision
  match width, precision with
  | some width, some _ =>
    orTooNarrow width cs
      (if width < cs.length then none
        else some (Padding.pad cs width ' ' (decide (d.part 1 = ['-']))))
  | some width, none => orTooNarrow width cs (Real.fitExponential? cs width)
  | none, _ => pure cs

/-- `%f`, `%.2f`, `%10f` and `%-10.2f`: a number without an exponent. -/
def fixedText : TextOf := fun d heap arg => do
  let (negative, x) ← numberOf heap arg
  let width ← optionalSize d 2
  let precision ← optionalSize d 3
  match width, precision with
  | some width, none =>
    orTooNarrow width (Binary64.finite negative x).plainText (Real.fitFixed? negative x width)
  | some width, some places =>
    pure (Padding.pad (Real.fixedText negative x places) width ' ' (decide (d.part 1 = ['-'])))
  | none, places => pure (Real.fixedText negative x (places.getD 6))

end Stencil.Directive

namespace Stencil

/-! ## Rules -/

/-- The rule with this recognition and text. -/
def DirectiveRule.builtin (recognize : String → Option (List (Option String)))
    (text : Directive.TextOf) : DirectiveRule :=
  .ofText recognize fun d heap arg => String.ofList <$> text d heap arg

open Directive in
/-- The built-in rules, in the order in which they are tried. -/
def builtinRules : List (String × DirectiveRule) := [
  ("string-int-parser", .builtin (recognizeLetter ['d', 's']) plainText),
  ("padded-int-parser", .builtin recognizePaddedInteger paddedIntegerText),
  ("octal-parser", .builtin (recognizeExactly 'o') (baseText 8)),
  ("binary-parser", .builtin (recognizeExactly 'b') (baseText 2)),
  ("hex-parser", .builtin (recognizeLetter ['x', 'X']) hexadecimalText),
  ("char-parser", .builtin (recognizeExactly 'c') characterText),
  ("padded-string-parser", .builtin recognizePaddedText paddedTextText),
  ("string-max-parser", .builtin recognizeCutText cutTextText),
  ("unicode-parser", .builtin (recognizeExactly 'u') unsignedText),
  ("exponential-parser", .builtin (recognizeReal 'e') exponentialText),
  ("float-parser", .builtin (recognizeReal 'f') fixedText)]

end Stencil
