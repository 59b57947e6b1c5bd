import Stencil.Settings
import Stencil.Text.Basic
import Stencil.Text.Case

/-!
# Settings from the environment

Four variables override the fields of settings, each one field.

* `Environment`: the variables that are set.
* `Settings.override`: the settings with the overrides.
-/

namespace Stencil

/-- The value of every variable that is set. -/
abbrev Environment := String → Option String

namespace Settings

/-- The truth value that a word stands for. Case and blanks around it do not count. -/
def flag? (s : String) : Option Bool :=
  let word := Text.lower (Text.trimString s)
  if word ∈ ["true", "1", "yes", "on"] then some true
  else if word ∈ ["false", "0", "no", "off"] then some false
  else none

/-- The names in a text, which are separated by commas. Blanks around a name do not count, and
neither do empty names. -/
def names (s : String) : List String :=
  ((Text.splitOn ',' s.toList).map fun part => String.ofList (Text.trim part)).filter (· ≠ "")

/-- The settings with the fields whose variables are set replaced. -/
def override (environment : Environment) (s : Settings) : Settings where
  debug := ((environment "TEXTFMT_DEBUG").bind flag?).getD s.debug
  logLevel := (environment "TEXTFMT_LOG_LEVEL").getD s.logLevel
  multi := ((environment "TEXTFMT_MULTI_FORMATTER_MODE").bind flag?).getD s.multi
  formatters := ((environment "TEXTFMT_FORMATTERS").map names).getD s.formatters

/-- The default settings with the overrides of an environment. -/
def ofEnvironment (environment : Environment) : Settings := default.override environment

end Settings

end Stencil
