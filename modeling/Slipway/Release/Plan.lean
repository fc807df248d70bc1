import Slipway.Artifact.Update
import Slipway.Changelog.Basic
import Slipway.Pipeline.Step
import Slipway.Release.Host
import Slipway.Version.Source

/-!
# Release plans

Model of `ReleaseOrchestrator::prepare`, `plan_steps` and `ReleaseOrchestrator::preview`
(`keel_core::release`). `Project.prepare` computes everything that a release will do, and touches
nothing: the next version, its tag, the files that will change and the steps in their order.
`Project.preview` shows how the files would change.
-/

namespace Slipway

/-- `ReleaseOptions`: what a release may leave out, the component that it bumps, and its date. -/
structure ReleaseOptions where
  bump : BumpKind := .default
  date : Date
  runTests : Bool := true
  deploy : Bool := true
  push : Bool := true
  publish : Bool := true
  deriving DecidableEq, Repr

/-- `ReleasePlan`: everything that a release will do. -/
structure ReleasePlan where
  current : Version
  next : Version
  tag : String
  pendingChars : Nat
  minPendingChars : Nat
  steps : List Step
  touched : List String
  warnings : List String
  deriving DecidableEq, Repr

/-- `ReleasePlan::changelog_ready`: the pending section of the changelog is long enough. -/
def ReleasePlan.changelogReady (p : ReleasePlan) : Bool := p.minPendingChars ≤ p.pendingChars

/-- `ReleasePreview`: how a release would change the files. -/
structure ReleasePreview where
  artifacts : List ArtifactPreview
  changelog : List Diff.Change

/-- `ReleaseOrchestrator`: the directory that is the root of a project, and its configuration. -/
structure Project where
  root : String
  config : Config
  deriving DecidableEq, Repr

namespace Project

/-- `changelog_path`: the path of the changelog. -/
def changelogPath (p : Project) : String := Path.join p.root p.config.changelog.path

/-- The directory that holds copies of the files while a release runs. -/
def vaultDir (p : Project) : String := Path.join p.root p.config.backup.dir

/-- The release host of the project. -/
def host (p : Project) : ReleaseHost := ⟨p.config.releaseHost, p.root⟩

/-- `load_changelog`: reads the changelog. -/
def loadChangelog (p : Project) (disk : Disk) : Except ReleaseError Changelog :=
  Changelog.load disk p.changelogPath p.config.version.tagPrefix

/-- The files that a release changes: the artifacts and the changelog, each one once. -/
def touched (p : Project) : List String :=
  Artifacts.addPath (Artifacts.paths p.root p.config.artifacts) p.changelogPath

/-- The files to change that exist, by their paths below the root. -/
def stagePaths (p : Project) (disk : Disk) : List String :=
  (p.touched.filter disk.pathExists).filterMap (Path.below? p.root)

/-- A configured command with its place in the pipeline. -/
structure Tool where
  kind : StepKind
  description : String
  words : List String

/-- The step of a configured command. -/
def Tool.step? (t : Tool) : Option Step :=
  (Command.ofWords? t.words).map fun c => ⟨t.kind, t.description, c, true⟩

/-- The warning about a command that is not configured. -/
def Tool.warning? (t : Tool) : Option String :=
  if t.words = [] then some s!"no {t.kind.name} command configured" else none

/-- The configured commands that a release asks for. -/
def tools (p : Project) (o : ReleaseOptions) : List Tool :=
  let commands := p.config.commands
  (if o.runTests then [⟨.test, "Running tests", commands.test⟩] else [])
    ++ [⟨.build, "Building package", commands.build⟩]
    ++ (if o.deploy then [⟨.deploy, "Deploying package", commands.deploy⟩] else [])

/-- A required step that runs version control. -/
def gitStep (p : Project) (kind : StepKind) (description : String) (args : List String) : Step :=
  ⟨kind, description, ⟨p.config.git.program, args⟩, true⟩

/-- The message of the commit of a version. -/
def commitMessage (p : Project) (version : Version) : String :=
  Text.expandString p.config.git.commitMessage version.text

/-- The message of the tag of a version. -/
def tagMessage (p : Project) (version : Version) : String :=
  Text.expandString p.config.git.tagMessage version.text

/-- The steps that record a version in the repository. -/
def recordSteps (p : Project) (disk : Disk) (next : Version) (tag : String) : List Step :=
  [p.gitStep .stage "Staging files" ("add" :: p.stagePaths disk),
   p.gitStep .commit "Committing changes" ["commit", "-m", p.commitMessage next],
   p.gitStep .tag s!"Creating tag {tag}" ["tag", "-a", tag, "-m", p.tagMessage next]]

/-- The steps that push the commit and the tag. -/
def pushSteps (p : Project) : List Step :=
  [p.gitStep .pushCommits "Pushing commits" ["push"],
   p.gitStep .pushTags "Pushing tags" ["push", "--tags"]]

/-- `plan_steps`: the steps of a release, in their order. -/
def steps (p : Project) (o : ReleaseOptions) (disk : Disk) (next : Version) (tag : String) :
    List Step :=
  (p.tools o).filterMap Tool.step?
    ++ p.recordSteps disk next tag
    ++ (if o.push then p.pushSteps else [])
    ++ (if o.publish then [p.host.publishStep disk tag next] else [])

/-- The warning about a version source that no release updates. -/
def sourceWarning? (p : Project) : Option String :=
  let source := p.config.version.source
  if p.config.artifacts.any fun a => a.path = source then none
  else some s!"version source {source} is not among the declared artifacts and will not be updated"

/-- What is noticed while a release is planned. -/
def planWarnings (p : Project) (o : ReleaseOptions) : List String :=
  p.sourceWarning?.toList ++ (p.tools o).filterMap Tool.warning?

variable [Regex.SizeLimit]

/-- `ReleaseOrchestrator::prepare`: computes everything that a release will do. -/
def prepare (p : Project) (o : ReleaseOptions) (disk : Disk) : Except ReleaseError ReleasePlan := do
  let current ← VersionSource.read p.root disk p.config.version
  let next ← current.bump o.bump
  let tag := p.config.tagName next.text
  let changelog ← p.loadChangelog disk
  return {
    current := current
    next := next
    tag := tag
    pendingChars := changelog.pendingLength?.getD 0
    minPendingChars := p.config.changelog.minPendingChars
    steps := p.steps o disk next tag
    touched := p.touched
    warnings := p.planWarnings o }

/-- `ReleaseOrchestrator::preview`: shows how the files would change. -/
def preview (p : Project) (o : ReleaseOptions) (plan : ReleasePlan) (disk : Disk) :
    Except ReleaseError ReleasePreview := do
  let artifacts ← Artifacts.preview p.root disk plan.current plan.next p.config.artifacts
  let changelog ← p.loadChangelog disk
  return ⟨artifacts, ← changelog.previewPromotion plan.next o.date⟩

end Project

end Slipway
