import Slipway.Config.Decode
import Slipway.Config.Validate

/-!
# Loading configurations

Model of `load_config` and `find_and_load_config_from` (`keel_config::loader`). `Config.load` reads
and validates the configuration at a path. `Config.find` looks for the file in a directory and in
those above it; the directory that holds it is the root of the project.
-/

namespace Slipway.Config

/-- What is told about a text that is no configuration. -/
def unparsableReason : String := "not a TOML document that fits the schema"

/-- `load_config`: reads and validates the configuration at a path. -/
def load (disk : Disk) (path : String) : Except ConfigError Config :=
  if !disk.pathExists path then .error (.notFound path)
  else
    match disk.readText path with
    | .error cause => .error (.unreadable path cause)
    | .ok text =>
      match ofText? text with
      | none => .error (.unparsable path unparsableReason)
      | some c => c.validate.map fun _ => c

/-- The first directory in a list that holds a configuration file. -/
def nearest? (disk : Disk) (dirs : List String) : Option String :=
  dirs.find? fun dir => disk.pathExists (Path.join dir fileName)

/-- `find_and_load_config_from`: the root of the project around a directory, and its
configuration. -/
def find (disk : Disk) (start : String) : Except ConfigError (String × Config) :=
  match nearest? disk (start :: Path.above start) with
  | none => .error (.notFound (Path.join start fileName))
  | some dir => (load disk (Path.join dir fileName)).map fun c => (dir, c)

end Slipway.Config
