import Slipway.Config.Error
import Slipway.Config.Schema
import Slipway.Text.Blank
import Slipway.Text.Search

/-!
# Validation of configurations

Model of `validate` (`keel_config::loader`). Values that a configuration may hold by its schema and
that still cannot drive a release. The first one in the order of `Config.problems` is reported.
-/

namespace Slipway.Config

/-- A text of blank characters only. -/
def isBlankText (s : String) : Bool := Text.blank s.toList

/-- The command has a program, and its name is blank. -/
def hasBlankProgram (words : List String) : Bool := words.head?.any isBlankText

/-- The template holds the marker for the version. -/
def holdsMarker (template : String) : Bool := Text.occursIn Text.versionMarker template.toList

/-- An error about a field, if a condition holds. -/
def problemIf (condition : Bool) (field reason : String) : List ConfigError :=
  if condition then [.invalid field reason] else []

/-- What is wrong with the artifact of a number. -/
def artifactProblems (a : Artifact) (index : Nat) : List ConfigError :=
  problemIf (isBlankText a.path) s!"artifacts[{index}].path" "is empty"
    ++ problemIf (!holdsMarker a.search) s!"artifacts[{index}].search"
        "must contain \x7bversion\x7d"
    ++ problemIf (a.matcher = .regex && a.replace.isNone) s!"artifacts[{index}].replace"
        "is required for regex matchers"

/-- All that is wrong with a configuration, the most important problem first. -/
def problems (c : Config) : List ConfigError :=
  problemIf c.commands.build.isEmpty "commands.build" "is empty"
    ++ problemIf (hasBlankProgram c.commands.test) "commands.test" "has a blank program"
    ++ problemIf (hasBlankProgram c.commands.build) "commands.build" "has a blank program"
    ++ problemIf (hasBlankProgram c.commands.deploy) "commands.deploy" "has a blank program"
    ++ (c.artifacts.mapIdx fun index a => artifactProblems a index).flatten
    ++ problemIf (isBlankText c.version.source) "version.source" "is empty"
    ++ problemIf (isBlankText c.backup.dir) "backup.dir" "is empty"

/-- `validate`: refuses a configuration with a problem. -/
def validate (c : Config) : Except ConfigError Unit :=
  match c.problems with
  | [] => .ok ()
  | problem :: _ => .error problem

theorem validate_eq_ok_iff {c : Config} : c.validate = .ok () ↔ c.problems = [] := by
  unfold validate
  cases c.problems <;> simp

end Slipway.Config
