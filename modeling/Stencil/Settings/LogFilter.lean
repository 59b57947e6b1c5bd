import Stencil.Number.Reading
import Stencil.Settings
import Stencil.Text.Alphanumeric
import Stencil.Text.Basic

/-!
# Log filters

A log filter says down to which level the events of each target, and of the spans in it, are logged.
It is a list of directives with the most specific one first.

* `LogDirective.ofText?`: the directive that a text denotes: a level, or a target, a span in
  brackets or both, perhaps with `=` and a level. Conditions on the fields of a span are not read.
* `LogFilter.parse?`: the filter that a text denotes: directives with commas between them.
* `Settings.logFilter`: the filter of settings.
* `LogFilter.render`: a filter as a text.
-/

namespace Stencil

/-- How much is logged. -/
inductive LogLevel where
  | off
  | error
  | warn
  | info
  | debug
  | trace
  deriving DecidableEq, Repr

namespace LogLevel

/-- The name of a level. -/
def name : LogLevel → String
  | off => "off"
  | error => "error"
  | warn => "warn"
  | info => "info"
  | debug => "debug"
  | trace => "trace"

/-- All levels; the number of a level is its position. -/
def all : List LogLevel := [off, error, warn, info, debug, trace]

/-- The level with a name, in any case. -/
def ofName? (s : String) : Option LogLevel :=
  all.find? fun level => level.name == String.ofList (s.toList.map Char.toLower)

/-- The level with a name or a number. -/
def ofText? (cs : List Char) : Option LogLevel :=
  match Number.unsigned? cs with
  | some n => all[n]?
  | none => ofName? (String.ofList cs)

end LogLevel

/-- The level of a target, of a span in a target or in all of them, or of everything. -/
structure LogDirective where
  target : Option String
  span : Option String
  level : LogLevel
  deriving DecidableEq, Repr

namespace LogDirective

/-- A character with which a target may start. What follows it may be any characters. -/
def startsTarget (c : Char) : Bool := Text.isAlphanumeric c || c == '-' || c == '_' || c == ':'

/-- The level after a target or a span; everything is logged if there is none. -/
def levelAfter? : List Char → Option LogLevel
  | [] | ['='] => some .trace
  | '=' :: name => LogLevel.ofText? name
  | _ => none

/-- The name of a span and the level after it. -/
def spanAfter? (cs : List Char) : Option (String × LogLevel) :=
  match cs.dropWhile (fun c => c ≠ ']' ∧ c ≠ '\x7b') with
  | ']' :: rest => (levelAfter? rest).map (String.ofList (cs.takeWhile (· ≠ ']')), ·)
  | _ => none

/-- The directive that a text denotes. A text that is no level is a target. -/
def ofText? (cs : List Char) : Option LogDirective :=
  let head := cs.takeWhile fun c => c ≠ '=' ∧ c ≠ '['
  let rest := cs.dropWhile fun c => c ≠ '=' ∧ c ≠ '['
  let target := if head = [] then none else some (String.ofList head)
  if ¬head.head?.all startsTarget then none
  else
    match rest with
    | '[' :: rest => (spanAfter? rest).map fun (span, level) => ⟨target, some span, level⟩
    | [] =>
      match LogLevel.ofText? head with
      | some level => some ⟨none, none, level⟩
      | none => target.map (⟨some ·, none, .trace⟩)
    | rest => target.bind fun target => (levelAfter? rest).map (⟨some target, none, ·⟩)

/-- The target `a` is more specific than `b`: a target than none, a longer one than a shorter one,
and of two equally long ones the later one in order. -/
def moreSpecific (a b : Option String) : Bool :=
  match a, b with
  | some s, some t =>
    decide (t.utf8ByteSize < s.utf8ByteSize) ||
      (s.utf8ByteSize == t.utf8ByteSize && decide (t < s))
  | some _, none => true
  | none, _ => false

/-- The directive `a` comes before `b`: those with a span last, and more specific targets first. -/
def before (a b : LogDirective) : Bool :=
  match a.span, b.span with
  | none, some _ => true
  | some _, none => false
  | none, none => moreSpecific a.target b.target
  | some s, some t =>
    moreSpecific a.target b.target || (a.target == b.target && decide (t < s))

/-- A directive as it is written. -/
def render (d : LogDirective) : String :=
  let scope := d.target.getD "" ++ (d.span.elim "" fun span => "[" ++ span ++ "]")
  if scope = "" then d.level.name else scope ++ "=" ++ d.level.name

end LogDirective

/-- Directives of distinct targets and spans, the most specific one first. -/
abbrev LogFilter := List LogDirective

namespace LogFilter

/-- Adds a directive, in place of one with the same target and span. -/
def insert (d : LogDirective) : LogFilter → LogFilter
  | [] => [d]
  | first :: rest =>
    if first.target = d.target ∧ first.span = d.span then d :: rest
    else if d.before first then d :: first :: rest
    else first :: insert d rest

/-- The filter that a text denotes. Without a directive only errors are logged. -/
def parse? (s : String) : Option LogFilter :=
  let parts := (Text.splitOn ',' s.toList).filter (· ≠ [])
  (parts.mapM fun part => LogDirective.ofText? (Text.trim part)).map fun directives =>
    if directives = [] then [⟨none, none, .error⟩] else directives.foldl (fun f d => f.insert d) []

def render (f : LogFilter) : String := ",".intercalate (f.map LogDirective.render)

/-- The filter with one level for the targets of this library, and warnings of all others. -/
def ofLibrary (level : LogLevel) : LogFilter :=
  ["textfmt", "textfmt_core", "textfmt_template"].foldl
    (fun f target => f.insert ⟨some target, none, level⟩) [⟨none, none, .warn⟩]

end LogFilter

/-- The log filter of settings. A level alone is that of the targets of this library, and so is the
level `info` if the text denotes no filter. -/
def Settings.logFilter (s : Settings) : LogFilter :=
  let text := Text.trimString s.logLevel
  match LogLevel.ofName? text with
  | some level => .ofLibrary level
  | none => (LogFilter.parse? text).getD (.ofLibrary .info)

end Stencil
