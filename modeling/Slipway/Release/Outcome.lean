import Slipway.Artifact.Update
import Slipway.Release.State

/-!
# Outcomes of releases

Model of `ReleaseOutcome`, `ReleaseReport` and `ReleaseFailure` (`keel_core::release`). A release
ends because the operator declines it, with a `ReleaseReport`, or with a `ReleaseFailure` that tells
the cause, the state that was reached, what was undone and what cannot be undone.
-/

namespace Slipway

/-- `ReleaseReport`: what a release has done. -/
structure ReleaseReport where
  previous : Version
  version : Version
  tag : String
  artifacts : ApplyReport
  completed : List StepKind
  skipped : List (StepKind × String)
  live : List String
  warnings : List String
  deriving DecidableEq, Repr

/-- `ReleaseFailure`: why and where a release stopped. `live` are the effects that others see,
`localEffects` the commits and tags on this machine; `backupDir` is where copies of the files were
left. -/
structure ReleaseFailure where
  error : ReleaseError
  state : ReleaseState
  restore : Option RestoreReport
  live : List String
  localEffects : List String
  backupDir : Option String
  deriving DecidableEq, Repr

namespace ReleaseFailure

/-- The files were copied back. -/
def rolledBack (f : ReleaseFailure) : Bool := f.restore.isSome

/-- `ReleaseFailure::is_irreversible`: something that others see cannot be undone. -/
def isIrreversible (f : ReleaseFailure) : Bool := !f.live.isEmpty

/-- `ReleaseFailure::fmt`: the wording of a failure. -/
def message (f : ReleaseFailure) : String :=
  "release stopped after reaching state '" ++ f.state.name ++ "'"

end ReleaseFailure

/-- `ReleaseOutcome`: how a release ends. -/
inductive ReleaseOutcome where
  /-- The operator declined it. -/
  | aborted
  | released (report : ReleaseReport)
  | failed (failure : ReleaseFailure)
  deriving DecidableEq, Repr

end Slipway
