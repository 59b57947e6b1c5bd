import Stencil.Json
import Stencil.Number.Reading
import Stencil.Toml.Text

/-!
# Numbers and times of TOML

A number or a time starts with a digit or a sign. A time becomes a text in the form of RFC 3339, and
a number that is not finite becomes `null`.
-/

namespace Stencil.Toml

open Number

/-! ## Numbers -/

/-- The sign in front of a number, as text. -/
def sign : List Char → List Char × List Char
  | '+' :: rest => (['+'], rest)
  | '-' :: rest => (['-'], rest)
  | cs => ([], cs)

/-- Digits with single underscores between them. The underscores are left out. -/
def digitRun (isDigit : Char → Bool) : List Char → List Char × List Char
  | '_' :: c :: rest =>
    if isDigit c then
      let run := digitRun isDigit rest
      (c :: run.1, run.2)
    else ([], '_' :: c :: rest)
  | c :: rest =>
    if isDigit c then
      let run := digitRun isDigit rest
      (c :: run.1, run.2)
    else ([], c :: rest)
  | [] => ([], [])

/-- Digits of which the first one is no underscore. -/
def digits? (isDigit : Char → Bool) : List Char → Reading (List Char)
  | c :: rest => if isDigit c then some (digitRun isDigit (c :: rest)) else none
  | [] => none

/-- A decimal integer with its sign; a leading zero stands alone. -/
def decimalInteger? (cs : List Char) : Reading (List Char) :=
  match (sign cs).2 with
  | '0' :: rest => some ((sign cs).1 ++ ['0'], rest)
  | body => (digits? Char.isDigit body).map fun r => ((sign cs).1 ++ r.1, r.2)

/-- An exponent. -/
def exponent? : List Char → Reading (List Char)
  | c :: rest =>
    if c = 'e' ∨ c = 'E' then
      (digits? Char.isDigit (sign rest).2).map fun r => ('e' :: (sign rest).1 ++ r.1, r.2)
    else none
  | [] => none

/-- A point and digits. -/
def fraction? : List Char → Reading (List Char)
  | '.' :: rest => (digits? Char.isDigit rest).map fun r => ('.' :: r.1, r.2)
  | _ => none

/-- The text of a number with a point or an exponent. -/
def realText? (cs : List Char) : Reading (List Char) :=
  match decimalInteger? cs with
  | none => none
  | some (whole, rest) =>
    match exponent? rest with
    | some (e, rest) => some (whole ++ e, rest)
    | none =>
      match fraction? rest with
      | none => none
      | some (f, rest) =>
        match exponent? rest with
        | some (e, rest) => some (whole ++ f ++ e, rest)
        | none => some (whole ++ f, rest)

/-- A number as a JSON value. -/
def ofReal (x : Binary64) : Json := if x.isFinite then .real x else .null

/-- A number with a point or an exponent; one that is too large is refused. -/
def real? (cs : List Char) : Reading Json :=
  match realText? cs with
  | none => none
  | some (text, rest) =>
    match DecimalLiteral.ofText? text with
    | none => none
    | some l => if l.nearest = .infinite false then none else some (ofReal l.nearest, rest)

/-- The special numbers, with or without a sign. -/
def special? (cs : List Char) : Reading Json :=
  match (sign cs).2 with
  | 'i' :: 'n' :: 'f' :: rest => some (.null, rest)
  | 'n' :: 'a' :: 'n' :: rest => some (.null, rest)
  | _ => none

/-- An integer of 64 bits in some base. -/
def integerOf? (base : Nat) (text rest : List Char) : Reading Json :=
  (signedNumeral? base text).map fun i => (.integer i.toInt, rest)

/-- An integer in a base with a mark. -/
def markedInteger? (base : Nat) (cs : List Char) : Reading Json :=
  (digits? (fun c => (digitValue? base c).isSome) cs).bind fun r => integerOf? base r.1 r.2

/-- An integer. -/
def integer? : List Char → Reading Json
  | '0' :: 'x' :: rest => markedInteger? 16 rest
  | '0' :: 'o' :: rest => markedInteger? 8 rest
  | '0' :: 'b' :: rest => markedInteger? 2 rest
  | cs => (decimalInteger? cs).bind fun r => integerOf? 10 r.1 r.2

/-! ## Times -/

/-- A number of exactly `n` digits in a range. -/
def fixedDigits? (n low high : Nat) (cs : List Char) : Reading Nat :=
  if (cs.take n).all Char.isDigit then
    match ofNumeral? 10 (cs.take n) with
    | some v => if cs.length < n ∨ v < low ∨ high < v then none else some (v, cs.drop n)
    | none => none
  else none

/-- What follows a given character. -/
def after? (c : Char) : List Char → Option (List Char)
  | d :: rest => if d = c then some rest else none
  | [] => none

/-- The number of days of a month. -/
def daysOf (year month : Nat) : Nat :=
  if month = 2 then
    if year % 4 = 0 ∧ (year % 100 ≠ 0 ∨ year % 400 = 0) then 29 else 28
  else if month = 4 ∨ month = 6 ∨ month = 9 ∨ month = 11 then 30
  else 31

/-- A number with zeros in front up to `width` digits. -/
def padded (width n : Nat) : List Char :=
  let cs := numeral 10 n
  List.replicate (width - cs.length) '0' ++ cs

/-- A day. -/
def date? (cs : List Char) : Option (List Char × List Char) := do
  let (year, rest) ← fixedDigits? 4 0 9999 cs
  let (month, rest) ← fixedDigits? 2 1 12 (← after? '-' rest)
  let (day, rest) ← fixedDigits? 2 1 31 (← after? '-' rest)
  if daysOf year month < day then none
  else some (padded 4 year ++ '-' :: padded 2 month ++ '-' :: padded 2 day, rest)

/-- The digits of a fraction of a second, of which nine count; zeros at the end are not shown. -/
def secondFraction (cs : List Char) : List Char :=
  match (cs.take 9).reverse.dropWhile (· = '0') with
  | [] => []
  | shown => '.' :: shown.reverse

/-- A time of day. -/
def time? (cs : List Char) : Option (List Char × List Char) := do
  let (hour, rest) ← fixedDigits? 2 0 23 cs
  let (minute, rest) ← fixedDigits? 2 0 59 (← after? ':' rest)
  let (second, rest) ← fixedDigits? 2 0 60 (← after? ':' rest)
  let text := padded 2 hour ++ ':' :: padded 2 minute ++ ':' :: padded 2 second
  match rest with
  | '.' :: c :: more =>
    if c.isDigit then
      let run := (c :: more).takeWhile Char.isDigit
      some (text ++ secondFraction run, (c :: more).dropWhile Char.isDigit)
    else some (text, rest)
  | _ => some (text, rest)

/-- The distance of a time from universal time. -/
def offset? : List Char → Option (List Char × List Char)
  | c :: rest =>
    if c = 'Z' ∨ c = 'z' then some (['Z'], rest)
    else if c = '+' ∨ c = '-' then do
      let (hour, rest) ← fixedDigits? 2 0 23 rest
      let (minute, rest) ← fixedDigits? 2 0 59 (← after? ':' rest)
      let shown := if c = '-' ∧ (hour ≠ 0 ∨ minute ≠ 0) then '-' else '+'
      some (shown :: padded 2 hour ++ ':' :: padded 2 minute, rest)
    else none
  | [] => none

/-- A day, perhaps with a time and its offset, or a time. -/
def moment? (cs : List Char) : Reading (List Char) :=
  match date? cs with
  | none => time? cs
  | some (date, rest) =>
    match rest with
    | c :: body =>
      if c = 'T' ∨ c = 't' ∨ c = ' ' then
        match time? body with
        | none => some (date, rest)
        | some (time, last) =>
          match offset? last with
          | some (offset, last) => some (date ++ 'T' :: time ++ offset, last)
          | none => some (date ++ 'T' :: time, last)
      else some (date, rest)
    | [] => some (date, rest)

/-- A number or a time. -/
def scalar? (cs : List Char) : Reading Json :=
  match moment? cs with
  | some (text, rest) => some (.text (String.ofList text), rest)
  | none => (real? cs).or ((special? cs).or (integer? cs))

end Stencil.Toml
