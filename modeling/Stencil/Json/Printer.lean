import Stencil.Json
import Stencil.Number.Shortest

/-!
# JSON texts

`Json.render` writes a JSON value without blanks. Quotes, backslashes and control characters in a
text are escaped, and every other character stands for itself.
-/

namespace Stencil.Json

open Number

/-- The written form of a character inside quotes. -/
def escapeChar (c : Char) : List Char :=
  if c = '"' then ['\\', '"']
  else if c = '\\' then ['\\', '\\']
  else if c = '\x08' then ['\\', 'b']
  else if c = '\x0c' then ['\\', 'f']
  else if c = '\n' then ['\\', 'n']
  else if c = '\r' then ['\\', 'r']
  else if c = '\t' then ['\\', 't']
  else if c.toNat < 0x20 then
    ['\\', 'u', '0', '0', Nat.digitChar (c.toNat / 16), Nat.digitChar (c.toNat % 16)]
  else [c]

/-- A text between quotes, with its escapes. -/
def renderText (s : String) : List Char := '"' :: s.toList.flatMap escapeChar ++ ['"']

/-- A number is written without an exponent if its first digit is between `10 ^ -5` and `10 ^ 15`;
then `.0` marks an integer. Of two equally near decimals it is the one with the even digit. -/
def numberStyle : ShortestStyle := ⟨.even, fun e => decide (-5 ≤ e) && decide (e ≤ 15), true⟩

/-- The text of a number; one that is not finite has none and is written as `null`. -/
def renderReal : Binary64 → List Char
  | .finite negative x => signed negative (numberStyle.render x)
  | _ => "null".toList

mutual

/-- The compact text of a value. -/
def render : Json → List Char
  | null => "null".toList
  | bool b => (if b then "true" else "false").toList
  | integer i => intNumeral i
  | real x => renderReal x
  | text s => renderText s
  | array items => '[' :: renderItems items ++ [']']
  | object entries => '\x7b' :: renderEntries entries ++ ['\x7d']
termination_by structural v => v

/-- The texts of elements with commas between them. -/
def renderItems : List Json → List Char
  | [] => []
  | [v] => v.render
  | v :: rest => v.render ++ ',' :: renderItems rest
termination_by structural items => items

/-- The texts of entries with commas between them. -/
def renderEntries : List (String × Json) → List Char
  | [] => []
  | [(key, v)] => renderText key ++ ':' :: v.render
  | (key, v) :: rest => renderText key ++ ':' :: (v.render ++ ',' :: renderEntries rest)
termination_by structural entries => entries

end

/-- The compact text of a value. -/
def toText (v : Json) : String := String.ofList v.render

end Stencil.Json
