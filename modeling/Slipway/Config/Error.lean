import Slipway.Disk.Basic

/-!
# Configuration errors

Model of `ConfigError` (`keel_config::error`). Why a configuration cannot be used.
-/

namespace Slipway

/-- `ConfigError`: why a configuration cannot be used. -/
inductive ConfigError where
  /-- No file at the path, nor in a directory above it. -/
  | notFound (path : String)
  /-- The file cannot be read. -/
  | unreadable (path : String) (cause : DiskError)
  /-- The file is no TOML, or does not fit the schema. -/
  | unparsable (path : String) (reason : String)
  /-- A value cannot drive a release. -/
  | invalid (field : String) (reason : String)
  deriving DecidableEq, Repr

namespace ConfigError

/-- `ConfigError::fmt`: the wording of an error. -/
def message : ConfigError → String
  | notFound path => s!"configuration file not found: {path}"
  | unreadable path cause => s!"failed to read {path}: {cause.message}"
  | unparsable path reason => s!"failed to parse {path}: {reason}"
  | invalid field reason => s!"invalid configuration: {field} {reason}"

/-- The wordings of the causes behind an error, the nearest first. -/
def causes : ConfigError → List String
  | unreadable _ cause => [cause.message]
  | unparsable _ reason => [reason]
  | notFound _ | invalid _ _ => []

end ConfigError

end Slipway
