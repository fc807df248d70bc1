import Slipway.Pipeline.Step
import Slipway.Vault.Basic
import Slipway.World.Session

/-!
# Running steps

Model of `StepRunner::run` (`keel_core::pipeline`). A step succeeds if its command exits with status
zero. A required step that does not succeed copies the backup back and fails.
-/

namespace Slipway.Step

variable {σ : Type}

/-- What is told about a status other than zero. -/
def exitDetail (o : CommandOutput) : String := s!"exited with status {o.exit}"

/-- What is told about a program that could not be launched. -/
def launchDetail (c : Command) (reason : String) : String :=
  s!"could not launch {c.program}: {reason}"

/-- The failure of a step. The backup, if there is one, is copied back. -/
def fail (step : Step) (backup : Option BackupSet) (detail : String)
    (output : Option CommandOutput) (s : Session σ) : StepFailure × Session σ :=
  match backup with
  | none => (⟨step.kind, step.description, step.command, detail, output, none⟩, s)
  | some set =>
    let (report, disk) := Vault.restore set s.disk
    (⟨step.kind, step.description, step.command, detail, output, some report⟩,
      { s with disk := disk })

/-- `StepRunner::run`: runs a step. -/
def run (w : World σ) (backup : Option BackupSet) (step : Step) (s : Session σ) :
    Except StepFailure StepResult × Session σ :=
  match s.launch w step.command with
  | (.ok output, s) =>
    if output.success then (.ok (.succeeded output), s)
    else if step.required then
      let (failure, s) := step.fail backup (exitDetail output) (some output) s
      (.error failure, s)
    else (.ok (.failed output), s)
  | (.error reason, s) =>
    if step.required then
      let (failure, s) := step.fail backup (launchDetail step.command reason) none s
      (.error failure, s)
    else (.ok (.unavailable (launchDetail step.command reason)), s)

end Slipway.Step
