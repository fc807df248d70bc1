import Slipway.Command
import Slipway.Pipeline.Kind
import Slipway.Vault.Report

/-!
# Steps

Model of `PipelineStep`, `StepResult` and `StepFailure` (`keel_core::pipeline`). A `Step` is a
command with its place in the pipeline. Running one gives a `StepResult`, or a `StepFailure` when
the step is required and does not succeed.
-/

namespace Slipway

/-- `PipelineStep`: one command of the pipeline. The failure of a required step ends the release. -/
structure Step where
  kind : StepKind
  description : String
  command : Command
  required : Bool
  deriving DecidableEq, Repr

/-- How far the effect of a step escapes. -/
def Step.reach (s : Step) : Reach := s.kind.reach

/-- `StepResult`: the outcome of a step that does not end the release. -/
inductive StepResult where
  | succeeded (output : CommandOutput)
  | failed (output : CommandOutput)
  | unavailable (reason : String)
  deriving DecidableEq, Repr

/-- `StepFailure`: a required step that did not succeed, with what it did, why it counts as failed,
what the command wrote if it ran, and what became of the backup. -/
structure StepFailure where
  kind : StepKind
  description : String
  command : Command
  detail : String
  output : Option CommandOutput
  restore : Option RestoreReport
  deriving DecidableEq, Repr

/-- `StepFailure::fmt`: the wording of a failure. -/
def StepFailure.message (f : StepFailure) : String := s!"{f.description} failed: {f.detail}"

end Slipway
