import Slipway.Artifact.Substitute
import Slipway.Diff.Lines

/-!
# Updating artifacts

Model of `ArtifactMutator` and `ApplyReport` (`keel_core::files`). `Artifacts.apply` brings the
declared artifacts to a new version, one after the other, and reports what became of each.
`Artifacts.preview` shows what it would do. Both rest on `Artifact.examine`.
-/

namespace Slipway

/-- `ArtifactOutcome`: what became of an artifact. -/
inductive ArtifactOutcome where
  /-- Written back, with so many replacements. -/
  | updated (replacements : Nat)
  /-- The replacements left the text as it was. -/
  | unchanged
  | failed (problem : ArtifactProblem)
  deriving DecidableEq, Repr

/-- `ArtifactResult`: what became of an artifact, by its declared path. -/
structure ArtifactResult where
  path : String
  optional : Bool
  outcome : ArtifactOutcome
  deriving DecidableEq, Repr

/-- `ApplyReport`: what became of the declared artifacts, in the order of their declaration. -/
structure ApplyReport where
  results : List ArtifactResult
  deriving DecidableEq, Repr

namespace ArtifactResult

/-- The artifact was written back. -/
def isUpdated (r : ArtifactResult) : Bool :=
  match r.outcome with
  | .updated _ => true
  | .unchanged | .failed _ => false

/-- The issue of an artifact that failed. -/
def issue? (r : ArtifactResult) : Option ArtifactIssue :=
  match r.outcome with
  | .failed problem => some ⟨r.path, problem⟩
  | .updated _ | .unchanged => none

end ArtifactResult

namespace ApplyReport

/-- `ApplyReport::applied_count`: the number of artifacts that were written back. -/
def applied (r : ApplyReport) : Nat := r.results.countP ArtifactResult.isUpdated

/-- `ApplyReport::issues`: the failures of required artifacts. -/
def issues (r : ApplyReport) : List ArtifactIssue :=
  (r.results.filter fun x => !x.optional).filterMap ArtifactResult.issue?

/-- `ApplyReport::warnings`: the failures of optional artifacts. -/
def warnings (r : ApplyReport) : List ArtifactIssue :=
  (r.results.filter fun x => x.optional).filterMap ArtifactResult.issue?

end ApplyReport

/-- What an examination of an artifact finds: a problem, or the text and its substitution. -/
inductive Finding where
  | problem (p : ArtifactProblem)
  | found (before : String) (after : Substitution)
  deriving DecidableEq, Repr

/-- `ArtifactPreview`: what a preview shows of an artifact. -/
structure ArtifactPreview where
  path : String
  changes : Except ArtifactProblem (List Diff.Change)

variable [Regex.SizeLimit]

namespace Artifact

/-- The path of an artifact in a project. -/
def fullPath (root : String) (a : Artifact) : String := Path.join root a.path

/-- Looks at an artifact without changing it. -/
def examine (root : String) (disk : Disk) (a : Artifact) (old new : Version) :
    Except ReleaseError Finding :=
  if !disk.pathExists (a.fullPath root) then .ok (.problem .notFound)
  else do
    let before ← ofDisk (disk.readText (a.fullPath root))
    match ← a.substitute before old new with
    | some after => return .found before after
    | none => return .problem .notMatched

/-- Brings an artifact to a new version. -/
def update (root : String) (disk : Disk) (a : Artifact) (old new : Version) :
    Except ReleaseError (ArtifactOutcome × Disk) :=
  match a.examine root disk old new with
  | .error e => .error e
  | .ok (.problem p) => .ok (.failed p, disk)
  | .ok (.found before after) =>
    if after.text = before then .ok (.unchanged, disk)
    else
      (ofDisk (disk.write (a.fullPath root) (.text after.text))).map fun disk =>
        (.updated after.count, disk)

/-- Shows what an update would change. -/
def preview (root : String) (disk : Disk) (a : Artifact) (old new : Version) :
    Except ReleaseError ArtifactPreview :=
  (a.examine root disk old new).map fun finding =>
    match finding with
    | .problem p => ⟨a.path, .error p⟩
    | .found before after => ⟨a.path, .ok (Diff.lineDiff before after.text)⟩

end Artifact

namespace Artifacts

/-- Adds a path to a list that does not hold it yet. -/
def addPath (paths : List String) (path : String) : List String :=
  if paths.any (Path.same path) then paths else paths ++ [path]

/-- `ArtifactMutator::paths`: the paths of the artifacts, each one once. -/
def paths (root : String) (artifacts : List Artifact) : List String :=
  (artifacts.map (Artifact.fullPath root)).foldl addPath []

/-- `ArtifactMutator::apply_version`: brings the artifacts to a new version, one after the other. An
error ends it; what was written before stays. -/
def apply (root : String) (old new : Version) :
    List Artifact → Disk → Except ReleaseError ApplyReport × Disk
  | [], disk => (.ok ⟨[]⟩, disk)
  | a :: artifacts, disk =>
    match a.update root disk old new with
    | .error e => (.error e, disk)
    | .ok (outcome, disk) =>
      let (rest, disk) := apply root old new artifacts disk
      (rest.map fun r => ⟨⟨a.path, a.optional, outcome⟩ :: r.results⟩, disk)

/-- `ArtifactMutator::preview`: shows what an update of the artifacts would change. -/
def preview (root : String) (disk : Disk) (old new : Version) (artifacts : List Artifact) :
    Except ReleaseError (List ArtifactPreview) :=
  artifacts.mapM fun a => a.preview root disk old new

end Artifacts

end Slipway
