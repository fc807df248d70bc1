import Slipway.Cli.Arguments
import Slipway.Cli.Render
import Slipway.Cli.Report
import Slipway.Cli.Terminal
import Slipway.Config.Detect
import Slipway.Config.Load
import Slipway.Release.Execute
import Slipway.Repository

/-!
# The command line

Model of `Cli::run` (`keel::cli`) and of the `run` of each command (`keel::commands`). `Machine.run`
carries out a command line on a machine: it tells the exit status, what was written, and the disk
afterwards.
-/

namespace Slipway.Cli

/-- The machine on which a command runs: its disk, the directory and the input of the command, the
repository that is there, and the date. -/
structure Machine where
  disk : Disk
  dir : String
  input : String
  repository : Option Repository
  today : Date

/-- What a command leaves. -/
structure Result where
  exit : Nat
  stdout : String
  stderr : String
  disk : Disk

namespace Result

/-- A command that succeeds. -/
def done (stdout : String) (disk : Disk) : Result := ⟨0, stdout, "", disk⟩

/-- A command that fails, after it has written something. -/
def failed (stdout stderr : String) (f : Fault) (disk : Disk) : Result :=
  ⟨1, stdout, stderr ++ f.report, disk⟩

end Result

namespace Machine

/-- The text that names the program and its version. -/
def versionText : String := "keel 0.1.0\n"

/-- What a wrong command line is answered with. -/
def usageText : String := "<usage>"

/-- The repository around a directory. -/
def repositoryAt? (m : Machine) (dir : String) : Option Repository :=
  Repository.discover? m.repository m.disk dir

/-- Puts a message before the fault of an operation. -/
def within {α : Type} (message : String) : Except ReleaseError α → Except Fault α
  | .ok a => .ok a
  | .error e => .error (.context message (.ofError e))

/-- `load_project`: the project around a directory. -/
def loadProject (m : Machine) (dir : String) : Except Fault Project :=
  match Config.find m.disk dir with
  | .ok (root, config) => .ok ⟨root, config⟩
  | .error e =>
    .error (.context "failed to load configuration (run `keel init` to create one)" (.ofConfig e))

/-- What a command writes, or its fault. -/
def finish (m : Machine) : Except Fault String → Result
  | .ok text => .done text m.disk
  | .error f => .failed "" "" f m.disk

variable [Regex.SizeLimit]

/-! ## The commands -/

/-- `version::run`: shows the current and the next version. -/
def showVersion (m : Machine) (i : Invocation) (dir : String) : Except Fault String := do
  let p ← m.loadProject dir
  let settings := p.config.version
  let current ← within s!"failed to read version from {settings.source}"
    (VersionSource.read p.root m.disk settings)
  let next ← (current.bump i.bumpKind).mapError Fault.ofError
  let latest :=
    match m.repositoryAt? p.root with
    | some r => [s!"latest tag: {(r.latestVersionTag? settings.tagPrefix).getD noTag}"]
    | none => []
  return lines ([s!"{current.text} -> {next.text} ({i.bumpKind.name})",
    s!"next tag: {p.config.tagName next.text}"] ++ latest)
where
  /-- What stands for a tag that is not there. -/
  noTag : String := "none"

/-- Checks that the changelog has something to release. -/
def checkChangelog (p : Project) (c : Changelog) : Except Fault String :=
  let path := p.config.changelog.path
  let min := p.config.changelog.minPendingChars
  match c.pendingLength? with
  | none => .error (.plain s!"{path} has no [Unreleased] section")
  | some found =>
    if found < min then
      .error (.plain
        (s!"[Unreleased] section in {path} has {found} characters of content; "
          ++ s!"at least {min} required"))
    else
      .ok (lines ([s!"Changelog ready: {found} characters pending."]
        ++ match c.pendingEntry? with
          | some entry => ["", entry]
          | none => []))

/-- Shows the notes of a released version. -/
def showNotes (p : Project) (c : Changelog) (version : String) : Except Fault String := do
  let v ← (Version.parse version).mapError Fault.ofError
  match c.entry? v with
  | some entry => return p.host.notes v (some entry) p.config.changelog.path
  | none => throw (.plain s!"no changelog entry for {v.text}")

/-- `changelog::run`: runs a command on the changelog. -/
def withChangelog (m : Machine) (dir : String)
    (command : Project → Changelog → Except Fault String) : Except Fault String := do
  let p ← m.loadProject dir
  command p (← within "failed to read changelog" (p.loadChangelog m.disk))

/-- `init::run`: writes a configuration for a new project. -/
def initialise (m : Machine) (i : Invocation) (dir : String) : Result :=
  let path := Path.join dir Config.fileName
  if m.disk.pathExists path ∧ !i.has .force then
    .failed "" "" (.plain s!"{path} already exists (use --force to overwrite)") m.disk
  else
    let c := Config.detect m.disk dir
    match m.disk.write path (.text c.newFileText) with
    | .ok disk => .done s!"Created {path} (version source: {c.version.source})\n" disk
    | .error e => .failed "" "" (.context s!"failed to write {path}" (.plain e.message)) m.disk

/-- `ReleaseArgs::options`: the parts of a release that are asked for. -/
def releaseOptions (m : Machine) (i : Invocation) : ReleaseOptions :=
  { bump := i.bumpKind, date := m.today, runTests := !i.has .skipTests, deploy := !i.has .noDeploy,
    push := !i.has .noPush, publish := !i.has .noRelease }

/-- `preflight`: the plan of a release, if the repository allows it. -/
def planRelease (m : Machine) (p : Project) (o : ReleaseOptions) : Except Fault ReleasePlan := do
  let plan ← within "failed to prepare release" (p.prepare o m.disk)
  match m.repositoryAt? p.root with
  | some r => if r.hasTag plan.tag then throw (.plain s!"tag {plan.tag} already exists")
  | none => pure ()
  return plan

/-- Shows the planned changes. -/
def dryRun (m : Machine) (p : Project) (o : ReleaseOptions) (plan : ReleasePlan) : Result :=
  match within "failed to compute planned changes" (p.preview o plan m.disk) with
  | .ok preview =>
    .done (planText plan ++ previewText preview p.config.changelog.path) m.disk
  | .error f => .failed (planText plan) "" f m.disk

/-- Carries out a plan. -/
def carryOut (m : Machine) (i : Invocation) (p : Project) (o : ReleaseOptions)
    (plan : ReleasePlan) : Result :=
  let world := Terminal.world p.root (i.has .yes)
  let (outcome, s) := p.execute world o plan (Session.start m.disk (Terminal.start m.input))
  let shown := planText plan ++ s.world.shown
  match outcome with
  | .released report => .done (shown ++ reportText report (!i.has .noPush)) s.disk
  | .aborted => .done (shown ++ "Release aborted; nothing was changed.\n") s.disk
  | .failed failure =>
    .failed shown (failureText failure)
      (.context s!"release {plan.next.text} failed" (.ofFailure failure)) s.disk

/-- `release::run`: runs a release. -/
def release (m : Machine) (i : Invocation) (dir : String) : Result :=
  let o := m.releaseOptions i
  match (m.loadProject dir).bind fun p => (m.planRelease p o).map fun plan => (p, plan) with
  | .error f => .failed "" "" f m.disk
  | .ok (p, plan) => if i.has .dryRun then m.dryRun p o plan else m.carryOut i p o plan

/-- The directory in which a command runs. -/
def startDir (m : Machine) (i : Invocation) : Except Fault String :=
  match i.value? .directory with
  | none => .ok m.dir
  | some dir =>
    let path := Path.join m.dir dir
    match m.disk.lookup path, m.disk.resolve path with
    | .ok _, .ok p => .ok ("/" ++ "/".intercalate p)
    | .error e, _ | _, .error e =>
      .error (.context s!"cannot access directory {dir}" (.plain e.message))

/-- Runs a command in a directory. -/
def runIn (m : Machine) (i : Invocation) (dir : String) : Result :=
  match i.level with
  | .release => m.release i dir
  | .version => m.finish (m.showVersion i dir)
  | .changelogCheck => m.finish (m.withChangelog dir checkChangelog)
  | .changelogNotes =>
    m.finish (m.withChangelog dir fun p c => showNotes p c (i.plain.head?.getD ""))
  | .init => m.initialise i dir
  | .top | .changelog => ⟨2, "", usageText, m.disk⟩

/-- `Cli::run`: carries out a command line. -/
def run (m : Machine) (args : List String) : Result :=
  match Arguments.parse args with
  | .error .usage => ⟨2, "", usageText, m.disk⟩
  | .error .version => .done versionText m.disk
  | .error .help => .done "" m.disk
  | .ok i =>
    match m.startDir i with
    | .ok dir => m.runIn i dir
    | .error f => .failed "" "" f m.disk

end Machine

end Slipway.Cli
