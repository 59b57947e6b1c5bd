import Stencil.Number.Numeral

/-!
# Texts and keys of TOML

Blanks, comments and ends of lines, the four kinds of texts, and keys. Every reader gives what it has
read and what follows it, or nothing if there is no such thing.
-/

namespace Stencil.Toml

open Number

/-- What a reader gives. -/
abbrev Reading (α : Type) := Option (α × List Char)

def isBlank (c : Char) : Bool := c == ' ' || c == '\t'

def skipBlanks (cs : List Char) : List Char := cs.dropWhile isBlank

/-- A character that may stand in a comment or a text: no control character but the tab. -/
def isPlain (c : Char) : Bool := c == '\t' || (0x20 ≤ c.toNat && c.toNat != 0x7F)

/-- What follows the end of a line. -/
def newline? : List Char → Option (List Char)
  | '\n' :: rest => some rest
  | '\r' :: '\n' :: rest => some rest
  | _ => none

/-- Drops a comment. -/
def skipComment : List Char → List Char
  | '#' :: rest => rest.dropWhile isPlain
  | cs => cs

/-- What follows the line, if only blanks and a comment are left of it. -/
def endOfLine? (cs : List Char) : Option (List Char) :=
  match skipComment (skipBlanks cs) with
  | [] => some []
  | rest => newline? rest

/-- Drops blanks, comments and ends of lines, at most `fuel` of them. -/
def skipLines : Nat → List Char → List Char
  | 0, cs => cs
  | fuel + 1, cs =>
    let rest := skipComment (skipBlanks cs)
    match newline? rest with
    | some rest => skipLines fuel rest
    | none => rest

/-! ## Texts -/

/-- The character with the code that `n` hexadecimal digits denote. -/
def codeEscape? (n : Nat) (cs : List Char) : Reading Char :=
  if cs.length < n then none
  else
    match ofNumeral? 16 (cs.take n) with
    | some code => if code.isValidChar then some (Char.ofNat code, cs.drop n) else none
    | none => none

/-- The character of the escape after a backslash. -/
def escape? : List Char → Reading Char
  | 'b' :: rest => some ('\x08', rest)
  | 't' :: rest => some ('\t', rest)
  | 'n' :: rest => some ('\n', rest)
  | 'f' :: rest => some ('\x0c', rest)
  | 'r' :: rest => some ('\r', rest)
  | '"' :: rest => some ('"', rest)
  | '\\' :: rest => some ('\\', rest)
  | 'u' :: rest => codeEscape? 4 rest
  | 'U' :: rest => codeEscape? 8 rest
  | _ => none

/-- Adds a character to a reading. -/
def prepend (c : Char) : Reading (List Char) → Reading (List Char) :=
  Option.map fun reading => (c :: reading.1, reading.2)

/-- A text on one line, after its opening quote. -/
def lineText? (quote : Char) : Nat → List Char → Reading (List Char)
  | 0, _ => none
  | _, [] => none
  | fuel + 1, c :: rest =>
    if c = quote then some ([], rest)
    else if c = '\\' ∧ quote = '"' then
      match escape? rest with
      | some (e, rest) => prepend e (lineText? quote fuel rest)
      | none => none
    else if isPlain c then prepend c (lineText? quote fuel rest)
    else none

/-- What follows a backslash at the end of a line, up to the next character that is no blank. -/
def joinedLine? (fuel : Nat) (cs : List Char) : Option (List Char) :=
  (newline? (skipBlanks cs)).map (skipBlankLines fuel)
where
  /-- Drops blanks and ends of lines. -/
  skipBlankLines : Nat → List Char → List Char
    | 0, cs => cs
    | fuel + 1, cs =>
      match newline? (skipBlanks cs) with
      | some rest => skipBlankLines fuel rest
      | none => skipBlanks cs

/-- A text on several lines, after its opening quotes and the end of their line. Three quotes close
it; up to two more in front of them belong to it. -/
def blockText? (quote : Char) : Nat → List Char → Reading (List Char)
  | 0, _ => none
  | _, [] => none
  | fuel + 1, c :: rest =>
    if c = quote then
      let quotes := (c :: rest).takeWhile (· = quote)
      let n := quotes.length
      if n < 3 then prepend c (blockText? quote fuel rest)
      else some (quotes.take (min (n - 3) 2), (c :: rest).drop (min n 5))
    else if c = '\\' ∧ quote = '"' then
      match joinedLine? fuel rest with
      | some rest => blockText? quote fuel rest
      | none =>
        match escape? rest with
        | some (e, rest) => prepend e (blockText? quote fuel rest)
        | none => none
    else if isPlain c then prepend c (blockText? quote fuel rest)
    else
      match newline? (c :: rest) with
      | some rest => prepend '\n' (blockText? quote fuel rest)
      | none => none

/-- A text of any kind. -/
def text? (cs : List Char) : Reading (List Char) :=
  let block (quote : Char) (rest : List Char) :=
    blockText? quote (rest.length + 1) ((newline? rest).getD rest)
  match cs with
  | '"' :: '"' :: '"' :: rest => block '"' rest
  | '"' :: rest => lineText? '"' (rest.length + 1) rest
  | '\'' :: '\'' :: '\'' :: rest => block '\'' rest
  | '\'' :: rest => lineText? '\'' (rest.length + 1) rest
  | _ => none

/-! ## Keys -/

/-- A character of a key without quotes. -/
def isBare (c : Char) : Bool := c.isAlphanum || c == '_' || c == '-'

/-- One part of a key. -/
def simpleKey? (cs : List Char) : Reading String :=
  match cs with
  | '"' :: rest => (lineText? '"' (rest.length + 1) rest).map fun r => (String.ofList r.1, r.2)
  | '\'' :: rest => (lineText? '\'' (rest.length + 1) rest).map fun r => (String.ofList r.1, r.2)
  | _ =>
    if cs.takeWhile isBare = [] then none
    else some (String.ofList (cs.takeWhile isBare), cs.dropWhile isBare)

/-- The parts of a key with dots, of which there are fewer than 80, and blanks around them. -/
def keyParts? : Nat → List Char → Reading (List String)
  | 0, _ => none
  | fuel + 1, cs =>
    match simpleKey? (skipBlanks cs) with
    | none => none
    | some (part, rest) =>
      match skipBlanks rest with
      | '.' :: rest => (keyParts? fuel rest).map fun r => (part :: r.1, r.2)
      | rest => some ([part], rest)

/-- A key: the parts before the last one, and the last one. -/
def key? (cs : List Char) : Reading (List String × String) :=
  match keyParts? 79 cs with
  | some (parts, rest) => parts.getLast?.map fun last => ((parts.dropLast, last), rest)
  | none => none

end Stencil.Toml
