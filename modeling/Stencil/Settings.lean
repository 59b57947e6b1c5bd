import Stencil.Formatter

/-!
# Settings

What can be configured, and its JSON form.

* `Settings.default`: the settings that hold without a configuration.
* `Settings.toJson`, `ofJson?`: the JSON form, an object with a key for each field. A list of the
  fields in their order is read as well.
-/

namespace Stencil

/-- What can be configured. -/
structure Settings where
  debug : Bool
  logLevel : String
  /-- Every formatter runs, each on the result of those before it. -/
  multi : Bool
  /-- The names of the formatters, in the order of the chain. -/
  formatters : List String
  deriving DecidableEq, Repr

namespace Settings

/-- The settings that hold without a configuration. -/
def default : Settings := ⟨false, "info", false, [Formatter.braceName, Formatter.percentName]⟩

/-- The JSON form. -/
def toJson (s : Settings) : Json :=
  .object (Entries.ofList [
    ("debug", .bool s.debug),
    ("log_level", .text s.logLevel),
    ("multi_formatter_mode", .bool s.multi),
    ("formatters", .array (s.formatters.map .text))])

/-- A truth value. -/
def boolOf? : Json → Option Bool
  | .bool b => some b
  | _ => none

/-- A text. -/
def textOf? : Json → Option String
  | .text s => some s
  | _ => none

/-- A list of texts. -/
def textsOf? : Json → Option (List String)
  | .array items => items.mapM textOf?
  | _ => none

/-- The settings whose fields have these JSON forms. -/
def ofFields? (debug logLevel multi formatters : Json) : Option Settings :=
  match boolOf? debug, textOf? logLevel, boolOf? multi, textsOf? formatters with
  | some debug, some logLevel, some multi, some formatters =>
    some ⟨debug, logLevel, multi, formatters⟩
  | _, _, _, _ => none

/-- The settings that a JSON value denotes. Keys that are not of a field do not count. -/
def ofJson? : Json → Option Settings
  | .object entries =>
    let field := fun key => Entries.find? key entries
    match field "debug", field "log_level", field "multi_formatter_mode", field "formatters" with
    | some debug, some logLevel, some multi, some formatters =>
      ofFields? debug logLevel multi formatters
    | _, _, _, _ => none
  | .array [debug, logLevel, multi, formatters] => ofFields? debug logLevel multi formatters
  | _ => none

end Settings

end Stencil
