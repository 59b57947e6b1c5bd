import Stencil.Text.CaseTable

/-!
# Letter case

The full upper-case and lower-case forms of a text. A character may become several, and a capital
sigma becomes the final form at the end of a word.
-/

namespace Stencil.Text

/-- The code point that the run assigns to `n`. -/
def CaseRun.map? (run : CaseRun) (n : Nat) : Option Nat :=
  if run.first ≤ n && n ≤ run.last && (n - run.first) % run.stride == 0 then
    some (run.target + (n - run.first))
  else none

/-- The form of a code point under a mapping given by runs and special entries. -/
def mapCase (runs : Array CaseRun) (special : Array (Nat × List Nat)) (n : Nat) : List Nat :=
  match special.find? (·.1 == n) with
  | some entry => entry.2
  | none => [(runs.findSome? (·.map? n)).getD n]

/-- The upper-case form of a character. -/
def upperOf (c : Char) : List Char :=
  if c.toNat < 0x80 then [c.toUpper]
  else (mapCase upperRuns upperSpecial c.toNat).map Char.ofNat

/-- The lower-case form of a character that is no capital sigma. -/
def lowerOf (c : Char) : List Char :=
  if c.toNat < 0x80 then [c.toLower]
  else (mapCase lowerRuns lowerSpecial c.toNat).map Char.ofNat

/-- The first character that is not case-ignorable is a cased one. -/
def startsCased (cs : List Char) : Bool :=
  match cs.dropWhile caseIgnorableRanges.holds with
  | [] => false
  | c :: _ => casedRanges.holds c

/-- The lower-case form of a text; `before` holds the characters before it, the last one first. -/
def lowerFrom (before : List Char) : List Char → List Char
  | [] => []
  | c :: rest =>
    let form :=
      if c = 'Σ' then [if startsCased before && !startsCased rest then 'ς' else 'σ'] else lowerOf c
    form ++ lowerFrom (c :: before) rest

/-- The upper-case form of a text. -/
def upper (s : String) : String := String.ofList (s.toList.flatMap upperOf)

/-- The lower-case form of a text. -/
def lower (s : String) : String := String.ofList (lowerFrom [] s.toList)

end Stencil.Text
