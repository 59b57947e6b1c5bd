import Stencil.Json
import Stencil.Json.Parser
import Stencil.Settings
import Stencil.Toml

/-!
# Sources of settings

Settings are read from a text, in TOML or JSON, over the default ones: what the text does not set has
its default.

* `Settings.ofText`: the settings of a text.
* `Settings.ofFile`: the settings of a file.
-/

namespace Stencil.Settings

/-- The JSON value that a text denotes in one of the languages. -/
def document? : SettingsFormat → List Char → Option Json
  | .toml => Toml.parse?
  | .json => Json.parse?

/-- The settings of a text, over the default ones. -/
def ofText (format : SettingsFormat) (s : String) : Except Error Settings :=
  match document? format s.toList with
  | none => .error (.configuration (.unreadable format))
  | some v =>
    match ofJson? (Json.merge default.toJson v) with
    | some settings => .ok settings
    | none => .error (.configuration (.mismatch format))

/-- The settings of a file with these bytes; none if it does not exist. -/
def ofFile (format : SettingsFormat) : Option ByteArray → Except Error Settings
  | none => .error (.file .missing)
  | some bytes =>
    match String.fromUTF8? bytes with
    | some s => ofText format s
    | none => .error (.file .notText)

end Stencil.Settings
