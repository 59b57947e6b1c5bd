import Stencil.Formatter
import Stencil.Text.Printable

/-!
# Engines

An engine runs a chain of formatters over a template, in the order in which they were added. The
first formatter that matches decides the result; in multi mode every formatter runs, each on the
result of those before it.

* `Engine.format`: the text of a template.
* `Engine.addFormatter`, `removeFormatter`, `updateFormatter`: changes to the chain.
* `Engine.describe`: the state of an engine on one line.
-/

namespace Stencil

/-- A chain of formatters. -/
structure Engine where
  formatters : Registry Formatter
  multi : Bool

namespace Engine

/-- The engine without formatters. -/
def empty : Engine := ⟨.empty, false⟩

/-- What an error calls a formatter. -/
def formatterKind : String := "Formatter"

/-- Adds a formatter at the end of the chain. -/
def addFormatter (e : Engine) (f : Formatter) : Except Error Engine :=
  (fun formatters => { e with formatters }) <$> e.formatters.add formatterKind f.name f

/-- Removes a formatter from the chain. -/
def removeFormatter (e : Engine) (name : String) : Except Error Engine :=
  (fun formatters => { e with formatters }) <$> e.formatters.remove formatterKind name

def hasFormatter (e : Engine) (name : String) : Bool := e.formatters.contains name

def formatter? (e : Engine) (name : String) : Option Formatter := e.formatters.find? name

/-- The names of the formatters in the order of the chain. -/
def formatterNames (e : Engine) : List String := e.formatters.names

/-- Changes a formatter in its place; none if the chain does not hold it. -/
def updateFormatter (e : Engine) (name : String) (change : Formatter → Except Error Formatter) :
    Option (Except Error Engine) :=
  (e.formatter? name).map fun f =>
    (fun f => { e with formatters := e.formatters.replace name f }) <$> change f

def setMulti (e : Engine) (multi : Bool) : Engine := { e with multi }

/-- The engine with the brace and the percent formatter, in this order. -/
def default : Engine :=
  ⟨.ofList [(Formatter.braceName, .braceDefault), (Formatter.percentName, .percentDefault)], false⟩

/-- Runs a chain on a text. -/
def run (multi : Bool) (args : List Value) : List (String × Formatter) → String → Action String
  | [], s => pure s
  | (_, f) :: rest, s => do
    let formatted ← f.format s args
    if formatted.matched then
      if multi then run multi args rest formatted.output else pure formatted.output
    else run multi args rest s

/-- The text of a template with its arguments. -/
def format (e : Engine) (template : String) (args : List Value) : Action String :=
  run e.multi args e.formatters.entries template

/-- The state of the engine on one line. -/
def describe (e : Engine) : String :=
  "Engine \x7b formatters: [" ++ ", ".intercalate (e.formatterNames.map Text.quoted) ++
    "], multi_formatter_mode: " ++ (if e.multi then "true" else "false") ++ " \x7d"

end Engine

end Stencil
