/-!
# Issues with artifacts

Model of `ArtifactProblem` and `ArtifactIssue` (`keel_core::files`). Why a declared file could not
be brought to the new version.
-/

namespace Slipway

/-- `ArtifactProblem`: what is wrong with an artifact. -/
inductive ArtifactProblem where
  | notFound
  | notMatched
  deriving DecidableEq, Repr

/-- `ArtifactProblem::fmt`: the wording of a problem. -/
def ArtifactProblem.message : ArtifactProblem → String
  | .notFound => "file not found"
  | .notMatched => "pattern not matched"

/-- `ArtifactIssue`: an artifact, by its declared path, and what is wrong with it. -/
structure ArtifactIssue where
  path : String
  problem : ArtifactProblem
  deriving DecidableEq, Repr

/-- `ArtifactIssue::fmt`: the wording of an issue. -/
def ArtifactIssue.message (i : ArtifactIssue) : String := s!"{i.path} ({i.problem.message})"

end Slipway
