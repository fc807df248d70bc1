import Slipway.Text.Search
import Slipway.Error
import Slipway.Release.Outcome
import Slipway.Version.Basic

/-!
# Error reports

Model of the report that `main` (`keel`) leaves to `anyhow`. A failed command ends with its error
and the causes behind it: one cause stands alone, several are numbered. The further lines of a text
are indented as its first one.
-/

namespace Slipway.Cli

/-- An error with its causes, the nearest first. -/
structure Fault where
  message : String
  causes : List String
  deriving DecidableEq, Repr

namespace Fault

/-- An error without causes. -/
def plain (message : String) : Fault := ⟨message, []⟩

/-- An error that puts a message before another error. -/
def context (message : String) (cause : Fault) : Fault := ⟨message, cause.message :: cause.causes⟩

/-- The fault of an error. -/
def ofError (e : ReleaseError) : Fault := ⟨e.message, e.causes⟩

/-- The fault of an error in a configuration. -/
def ofConfig (e : ConfigError) : Fault := ⟨e.message, e.causes⟩

/-- The fault of a failed release. -/
def ofFailure (f : ReleaseFailure) : Fault := context f.message (ofError f.error)

/-- Puts blanks before the lines after the first one. -/
def indent (width : Nat) (s : String) : String :=
  let lines := (Version.splitAtChar '\n' s.toList).map String.ofList
  ("\n" ++ "".pushn ' ' width).intercalate lines

/-- The lines of numbered causes. -/
def numbered (causes : List String) : List String :=
  causes.mapIdx fun i cause =>
    let number := toString i
    "".pushn ' ' (5 - number.length) ++ number ++ ": " ++ indent 7 cause

/-- The report of an error. -/
def report (f : Fault) : String :=
  let tail :=
    match f.causes with
    | [] => ""
    | [cause] => "\n\nCaused by:\n    " ++ indent 4 cause
    | causes => "\n\nCaused by:\n" ++ "\n".intercalate (numbered causes)
  s!"Error: {f.message}{tail}\n"

end Fault

end Slipway.Cli
