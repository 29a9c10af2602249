import PooledTcp.Config.Reading
import PooledTcp.Config.Validation
import PooledTcp.Toml.Document

/-!
# Loading settings

A text becomes settings in three steps: it must be a document, its values must have the right shape, and
the settings must keep the rules. A file goes through one step more: it must be there and hold text.
-/

namespace PooledTcp

/-- Why there are no settings. -/
inductive ConfigError where
  /-- The file cannot be read as text. -/
  | io (cause : IoError)
  /-- The text is no document. -/
  | syntactic
  /-- A value has the wrong shape. -/
  | shape (cause : Config.ReadError)
  /-- Rules are broken. -/
  | invalid (violations : List Violation)
  deriving DecidableEq, Repr

namespace ConfigError

/-- The text that a user reads; the wording of a syntax error is not part of it. -/
def message : ConfigError → String
  | io cause => "IO error: " ++ cause.message
  | syntactic => "Parse error"
  | shape cause => "Parse error: " ++ cause.message
  | invalid vs => "Validation failed: " ++ ", ".intercalate (vs.map (·.message))

/-- How a report shows it; a text that cannot be read has no report of its own. -/
def debugText? : ConfigError → Option String
  | io cause => some (Text.wrapped "Io" cause.debugText)
  | invalid vs => some (Text.wrapped "Validation" (Text.bracketed (vs.map (·.debugText))))
  | syntactic | shape _ => none

end ConfigError

namespace Config

/-- The settings that a text holds. -/
def parse (text : String) : Except ConfigError Settings :=
  match Toml.document? text with
  | none => .error .syntactic
  | some document =>
    match read document with
    | .error e => .error (.shape e)
    | .ok settings => settings.validate.mapError .invalid

/-- The settings in a file: its bytes, or `none` when there is no file. -/
def load : Option Bytes → Except ConfigError Settings
  | none => .error (.io (.system .noSuchFile))
  | some bytes =>
    match bytes.toText? with
    | none => .error (.io (.standard .invalidData "stream did not contain valid UTF-8"))
    | some text => parse text

end Config
end PooledTcp
