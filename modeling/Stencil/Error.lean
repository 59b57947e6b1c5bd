import Stencil.Number.Numeral
import Stencil.Value

/-!
# Errors

Everything that can go wrong, as causes. Each has a code, which is stable, and a message.

* `Error`: the causes.
* `Error.code`, `Error.message`: how they are reported.
* `Action`: a computation that may fail and works on the store; what it has done to the store
  before it fails stays done.
-/

namespace Stencil

open Number

/-- What is wrong with a number. -/
inductive RangeFault where
  /-- It is the code of no character. -/
  | characterCode (value : Int64)
  /-- Its integer part does not fit in 64 bits; it is given as text. -/
  | integerPart (number : String)
  /-- The digits of a width or precision denote no size that is allowed. -/
  | fieldSize (digits : String)
  /-- A field of this width cannot hold the number, which is given as text. -/
  | narrowField (width : Nat) (number : String)
  | other (detail : String)
  deriving DecidableEq, Repr

/-- The languages in which settings are written. -/
inductive SettingsFormat where
  | toml
  | json
  deriving DecidableEq, Repr

/-- What is wrong with a configuration. -/
inductive ConfigurationFault where
  | unknownFormatter (name : String)
  /-- The text of the settings is not well-formed. -/
  | unreadable (format : SettingsFormat)
  /-- The settings hold a value of the wrong kind, or lack one. -/
  | mismatch (format : SettingsFormat)
  | other (detail : String)
  deriving DecidableEq, Repr

/-- What is wrong with a file. -/
inductive FileFault where
  | missing
  | notText
  | other (detail : String)
  deriving DecidableEq, Repr

/-- What can go wrong. -/
inductive Error where
  /-- A registry of things of some kind holds the name already. -/
  | duplicateName (kind name : String)
  /-- A registry of things of some kind does not hold the name. -/
  | notFound (kind name : String)
  | unsupported (formatter operation : String)
  /-- A value, given as text, is not of the kind that a directive takes. -/
  | typeMismatch (expected value : String)
  | range (fault : RangeFault)
  /-- A template mixes two ways of choosing arguments. -/
  | indexingConflict (current next : String)
  | unknownTransformer (name : String)
  | configuration (fault : ConfigurationFault)
  | serialization (detail : String)
  | file (fault : FileFault)
  deriving DecidableEq, Repr

/-- A signed integer in decimal. -/
def Number.int64Text (i : Int64) : String := String.ofList (intNumeral i.toInt)

namespace RangeFault

/-- What a message says of the fault. -/
def message : RangeFault → String
  | characterCode value => int64Text value ++ " is not a valid character code"
  | integerPart number => number ++ " is outside the integer range"
  | fieldSize digits => "field size '" ++ digits ++ "' is out of range"
  | narrowField width number =>
    "width (" ++ String.ofList (numeral 10 width) ++ ") is too small for value (" ++ number ++ ")"
  | other detail => detail

end RangeFault

namespace SettingsFormat

/-- The name of a language in messages. -/
def name : SettingsFormat → String
  | toml => "TOML"
  | json => "JSON"

end SettingsFormat

namespace ConfigurationFault

/-- What a message says of the fault, without the text of a library. -/
def message : ConfigurationFault → String
  | unknownFormatter name => "unknown formatter '" ++ name ++ "'"
  | unreadable format => "Failed to parse " ++ format.name
  | mismatch format => "Failed to deserialize settings from " ++ format.name
  | other detail => detail

end ConfigurationFault

namespace FileFault

def message : FileFault → String
  | missing => "No such file or directory (os error 2)"
  | notText => "stream did not contain valid UTF-8"
  | other detail => detail

end FileFault

namespace Error

/-- The stable name of the kind of error. -/
def code : Error → String
  | duplicateName .. => "duplicate_name"
  | notFound .. => "not_found"
  | unsupported .. => "unsupported_operation"
  | typeMismatch .. => "type_mismatch"
  | range _ => "range_error"
  | indexingConflict .. => "indexing_mode_conflict"
  | unknownTransformer _ => "unknown_transformer"
  | configuration _ => "configuration_error"
  | serialization _ => "serialization_error"
  | file _ => "io_error"

/-- The text shown to a user. -/
def message : Error → String
  | duplicateName kind name => kind ++ " '" ++ name ++ "' already exists"
  | notFound kind name => kind ++ " '" ++ name ++ "' does not exist"
  | unsupported formatter operation => formatter ++ " does not support " ++ operation
  | typeMismatch expected value => value ++ " is not " ++ expected
  | range fault => "Range error: " ++ fault.message
  | indexingConflict current next =>
    "cannot switch from " ++ current ++ " to " ++ next ++ " format indexing"
  | unknownTransformer name => "no transformer named \"" ++ name ++ "\""
  | configuration fault => "Configuration error: " ++ fault.message
  | serialization detail => "Serialization error: " ++ detail
  | file fault => "IO error: " ++ fault.message

end Error

/-- A computation on the store that may fail. -/
abbrev Action := ExceptT Error (StateM Store)

end Stencil
