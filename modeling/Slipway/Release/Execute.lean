import Slipway.Pipeline.Run
import Slipway.Release.Outcome
import Slipway.Release.Plan

/-!
# Executing releases

Model of `ReleaseOrchestrator::execute` (`keel_core::release`). `Project.execute` carries out a
plan. It checks the changelog, asks the operator, copies the files into the vault, updates them and
runs the steps. Until a step has had an effect that others see, a request to stop is honoured before
each step. A release that fails copies the files back, and removes the vault if that is complete;
only a stop after such an effect leaves the files as they are, with the copies in the vault.
-/

namespace Slipway

/-- `ReleaseContext`: what a release has achieved so far. -/
structure Progress where
  state : ReleaseState
  completed : List StepKind
  skipped : List (StepKind × String)
  live : List String
  localEffects : List String
  warnings : List String
  deriving DecidableEq, Repr

namespace Progress

/-- The progress when the version is known. -/
def start (warnings : List String) : Progress := ⟨.versionComputed, [], [], [], [], warnings⟩

/-- The progress in a further state. -/
def reach (p : Progress) (state : ReleaseState) : Progress := { p with state := state }

/-- Adds warnings. -/
def warn (p : Progress) (warnings : List String) : Progress :=
  { p with warnings := p.warnings ++ warnings }

/-- `ReleaseContext::skip`: records a step that was skipped. -/
def skip (p : Progress) (kind : StepKind) (reason : String) : Progress :=
  { p with
    skipped := p.skipped ++ [(kind, reason)]
    warnings := p.warnings ++ [s!"{kind.name} skipped: {reason}"] }

/-- The failure of a release that has come so far. -/
def failure (p : Progress) (error : ReleaseError) (restore : Option RestoreReport)
    (backupDir : Option String) : ReleaseFailure :=
  ⟨error, p.state, restore, p.live, p.localEffects, backupDir⟩

end Progress

namespace Project

variable [Regex.SizeLimit] {σ : Type}

/-! ## Updating the files -/

/-- Promotes the changelog on the disk. -/
def promoteChangelog (p : Project) (o : ReleaseOptions) (next : Version) (disk : Disk) :
    Except ReleaseError Disk := do
  let changelog ← p.loadChangelog disk
  let text ← changelog.promote next o.date
  ofDisk (disk.write p.changelogPath (.text text))

/-- `mutate`: updates the artifacts, then the changelog, which may be an artifact itself. -/
def updateFiles (p : Project) (o : ReleaseOptions) (plan : ReleasePlan) (disk : Disk) :
    Except ReleaseError ApplyReport × Disk :=
  match Artifacts.apply p.root plan.current plan.next p.config.artifacts disk with
  | (.error e, disk) => (.error e, disk)
  | (.ok report, disk) =>
    if report.issues ≠ [] then (.error (.artifactsNotUpdated report.issues), disk)
    else
      match p.promoteChangelog o plan.next disk with
      | .error e => (.error e, disk)
      | .ok disk => (.ok report, disk)

/-- The warnings about optional artifacts that were not updated. -/
def artifactWarnings (report : ApplyReport) : List String :=
  report.warnings.map fun issue => s!"optional artifact not updated: {issue.message}"

/-! ## Failing -/

/-- `abort`: ends a release that fails with a vault. The files are copied back, unless a report
tells that they have been; if that is complete, the vault is removed. -/
def rollBack (set : BackupSet) (progress : Progress) (error : ReleaseError)
    (restored : Option RestoreReport) (s : Session σ) : ReleaseFailure × Session σ :=
  let (report, disk) :=
    match restored with
    | some report => (report, s.disk)
    | none => Vault.restore set s.disk
  let (left, disk) :=
    if report.complete then
      match Vault.discard set disk with
      | .ok disk => (none, disk)
      | .error _ => (some set.dir, disk)
    else (some set.dir, disk)
  (progress.failure error (some report) left, { s with disk := disk })

/-- `check_cancel`: ends a release that was asked to stop. Once others see an effect, the files stay
as they are. -/
def interrupt (set : BackupSet) (progress : Progress) (s : Session σ) :
    ReleaseFailure × Session σ :=
  if progress.live = [] then rollBack set progress .interrupted none s
  else (progress.failure .interrupted none (some set.dir), s)

/-! ## Running the steps -/

/-- The effect of a step that has succeeded. -/
def effect (p : Project) (plan : ReleasePlan) : StepKind → String
  | .deploy => s!"package {plan.next.text} deployed"
  | .pushCommits => "release commit pushed"
  | .pushTags => s!"tag {plan.tag} pushed"
  | .publish => s!"hosted release {plan.tag} published"
  | .commit => s!"commit \"{p.commitMessage plan.next}\""
  | .tag => s!"tag {plan.tag}"
  | .test | .build | .stage => ""

/-- `record_success`: records a step that has succeeded. -/
def recordSuccess (p : Project) (plan : ReleasePlan) (kind : StepKind) (progress : Progress) :
    Progress :=
  let progress := { progress with
    state := progress.state.advance kind
    completed := progress.completed ++ [kind] }
  match kind.reach with
  | .world => { progress with live := progress.live ++ [p.effect plan kind] }
  | .repository => { progress with localEffects := progress.localEffects ++ [p.effect plan kind] }
  | .worktree => progress

/-- Records the result of a step. -/
def recordResult (p : Project) (plan : ReleasePlan) (kind : StepKind) (progress : Progress) :
    StepResult → Progress
  | .succeeded _ => p.recordSuccess plan kind progress
  | .failed output => progress.skip kind (Step.exitDetail output)
  | .unavailable reason => progress.skip kind reason

/-- The entry of the released version in the changelog on the disk. -/
def releasedEntry? (p : Project) (plan : ReleasePlan) (disk : Disk) : Option String :=
  match p.loadChangelog disk with
  | .ok changelog => changelog.entry? plan.next
  | .error _ => none

/-- The notes of a release, from the changelog on the disk. -/
def releaseNotes (p : Project) (plan : ReleasePlan) (disk : Disk) : String :=
  p.host.notes plan.next (p.releasedEntry? plan disk) p.config.changelog.path

/-- `ReleaseOrchestrator::publish`: publishes a release on the host. The notes are on the disk as
long as the command runs. Gives the warnings, too. -/
def publish (w : World σ) (p : Project) (plan : ReleasePlan) (set : BackupSet) (s : Session σ) :
    StepResult × List String × Session σ :=
  let host := p.host
  match host.status w s with
  | (.missing reason, s) | (.unauthenticated reason, s) => (.unavailable reason, [], s)
  | (.ready, s) =>
    match s.disk.write host.notesPath (.text (p.releaseNotes plan s.disk)) with
    | .error cause =>
      (.unavailable s!"could not write release notes: {cause.message}", [], s)
    | .ok disk =>
      let warnings := (host.assetWarning? disk).toList
      let step := host.publishStep disk plan.tag plan.next
      let (result, s) :=
        match step.run w (some set) { s with disk := disk } with
        | (.ok result, s) => (result, s)
        | (.error failure, s) => (.unavailable failure.message, s)
      (result, warnings, { s with disk := s.disk.attempt (·.removeFile host.notesPath) })

/-- The question before a deployment. -/
def deployQuestion (plan : ReleasePlan) : String := s!"Deploy {plan.next.text}?"

/-- Runs one step of the plan, and records what came of it. -/
def runStep (w : World σ) (p : Project) (plan : ReleasePlan) (set : BackupSet) (step : Step)
    (progress : Progress) (s : Session σ) : Except StepFailure Progress × Session σ :=
  let runPlain (s : Session σ) :=
    let (result, s) := step.run w (some set) s
    (result.map (p.recordResult plan step.kind progress), s)
  match step.kind with
  | .deploy =>
    let (yes, s) := s.ask w (deployQuestion plan)
    if yes then runPlain s else (.ok (progress.skip .deploy "declined by operator"), s)
  | .publish =>
    let (result, warnings, s) := p.publish w plan set s
    (.ok (p.recordResult plan .publish (progress.warn warnings) result), s)
  | _ => runPlain s

/-- Runs the steps of the plan. Before each one a request to stop is honoured. -/
def runSteps (w : World σ) (p : Project) (plan : ReleasePlan) (set : BackupSet) :
    List Step → Progress → Session σ → Except ReleaseFailure Progress × Session σ
  | [], progress, s => (.ok progress, s)
  | step :: steps, progress, s =>
    if s.stopped then
      let (failure, s) := interrupt set progress s
      (.error failure, s)
    else
      match p.runStep w plan set step progress s with
      | (.ok progress, s) => runSteps w p plan set steps progress s
      | (.error failure, s) =>
        let (failure, s) := rollBack set progress (.step failure) failure.restore s
        (.error failure, s)

/-! ## The phases of a release -/

/-- Removes the vault after the last step; gives a warning if that is refused. -/
def emptyVault (p : Project) (set : BackupSet) (disk : Disk) : List String × Disk :=
  match Vault.discard set disk with
  | .ok disk => ([], disk)
  | .error e => ([s!"could not remove {p.vaultDir}: {e.message}"], disk)

/-- The report of a release that has run all its steps. -/
def report (plan : ReleasePlan) (artifacts : ApplyReport) (progress : Progress) : ReleaseReport :=
  ⟨plan.current, plan.next, plan.tag, artifacts, progress.completed, progress.skipped,
    progress.live, progress.warnings⟩

/-- What follows the capture: the files are updated and the steps run. -/
def executeSecured (w : World σ) (p : Project) (o : ReleaseOptions) (plan : ReleasePlan)
    (set : BackupSet) (progress : Progress) (s : Session σ) : ReleaseOutcome × Session σ :=
  match p.updateFiles o plan s.disk with
  | (.error e, disk) =>
    let (failure, s) := rollBack set progress e none { s with disk := disk }
    (.failed failure, s)
  | (.ok artifacts, disk) =>
    let progress := (progress.warn (artifactWarnings artifacts)).reach .filesMutated
    match p.runSteps w plan set plan.steps progress (s.work w disk) with
    | (.error failure, s) => (.failed failure, s)
    | (.ok progress, s) =>
      let (warnings, disk) := p.emptyVault set s.disk
      (.released (report plan artifacts (progress.warn warnings)), { s with disk := disk })

/-- The question before anything is touched. -/
def releaseQuestion (plan : ReleasePlan) : String :=
  s!"Release {plan.current.text} -> {plan.next.text} ({plan.tag}). Continue?"

/-- Checks that the changelog has something to release. -/
def checkChangelog (p : Project) (disk : Disk) : Except ReleaseError Unit :=
  p.loadChangelog disk >>= fun c => c.checkReady p.config.changelog.minPendingChars

/-- `ReleaseOrchestrator::execute`: carries out a plan. -/
def execute (w : World σ) (p : Project) (o : ReleaseOptions) (plan : ReleasePlan) (s : Session σ) :
    ReleaseOutcome × Session σ :=
  let progress := Progress.start plan.warnings
  match p.checkChangelog s.disk with
  | .error e => (.failed (progress.failure e none none), s)
  | .ok () =>
    let progress := progress.reach .changelogValidated
    let (yes, s) := s.ask w (releaseQuestion plan)
    if !yes then (.aborted, s)
    else if s.stopped then (.failed (progress.failure .interrupted none none), s)
    else
      match Vault.capture p.vaultDir plan.touched s.disk with
      | (.error e, disk) => (.failed (progress.failure e none none), { s with disk := disk })
      | (.ok set, disk) =>
        p.executeSecured w o plan set (progress.reach .backedUp) { s with disk := disk }

end Project

end Slipway
