import Slipway.Artifact.Issue
import Slipway.Config.Error
import Slipway.Pipeline.Step
import Slipway.Text.Quoted
import Slipway.Version.Basic

/-!
# Errors

Model of `CoreError` and `ErrorKind` (`keel_core::error`). Why an operation of a release fails, one
constructor per cause. `ReleaseError.message` holds the wording, `ReleaseError.kind` the class that
tells how far the release had come.
-/

namespace Slipway

/-- `ErrorKind`: classes of errors. -/
inductive ErrorKind where
  /-- Refused before anything was touched. -/
  | validation
  /-- A file could not be updated as declared. -/
  | mutation
  /-- An external command failed. -/
  | step
  /-- The operator stopped the run. -/
  | interrupted
  /-- The disk failed. -/
  | io
  deriving DecidableEq, Repr

/-- `CoreError`: why an operation fails. -/
inductive ReleaseError where
  | config (error : ConfigError)
  | invalidVersion (text : String)
  | versionOverflow (version : Version) (kind : BumpKind)
  | fileNotFound (path : String)
  | versionNotFound (path : String)
  | parse (file reason : String)
  | invalidPattern (pattern reason : String)
  | changelogMissing (path : String)
  | pendingTooShort (found required : Nat)
  | sectionNotFound (label : String)
  | duplicateSection (label : String)
  | artifactsNotUpdated (issues : List ArtifactIssue)
  | staleBackup (path : String)
  | backupStaging (path : String) (cause : DiskError)
  | step (failure : StepFailure)
  | interrupted
  | io (cause : DiskError)
  deriving DecidableEq, Repr

namespace ReleaseError

/-- `CoreError::fmt`: the wording of an error. -/
def message : ReleaseError → String
  | config error => s!"config error: {error.message}"
  | invalidVersion text => s!"invalid version format: {Text.quoted text}"
  | versionOverflow version kind =>
    s!"cannot apply a {kind.name} bump to {version.text}: component overflows"
  | fileNotFound path => s!"file not found: {path}"
  | versionNotFound path => s!"version not found in {path}"
  | parse file reason => s!"failed to parse {file}: {reason}"
  | invalidPattern pattern reason => s!"invalid pattern {Text.quoted pattern}: {reason}"
  | changelogMissing path => s!"changelog not found: {path}"
  | pendingTooShort found required =>
    s!"pending changelog section needs at least {required} characters of content (found {found})"
  | sectionNotFound label => s!"changelog section not found: [{label}]"
  | duplicateSection label => s!"changelog already has a section for [{label}]"
  | artifactsNotUpdated issues =>
    "artifacts not updated: " ++ ", ".intercalate (issues.map ArtifactIssue.message)
  | staleBackup path =>
    s!"backup directory {path} already exists; inspect and remove it before releasing"
  | backupStaging path cause => s!"failed to stage backups in {path}: {cause.message}"
  | step failure => failure.message
  | interrupted => "release interrupted"
  | io cause => s!"IO error: {cause.message}"

/-- `CoreError::kind`: the class of an error. -/
def kind : ReleaseError → ErrorKind
  | config _ | invalidVersion _ | versionOverflow _ _ | fileNotFound _ | versionNotFound _
  | parse _ _ | invalidPattern _ _ | changelogMissing _ | pendingTooShort _ _ | staleBackup _ =>
    .validation
  | sectionNotFound _ | duplicateSection _ | artifactsNotUpdated _ => .mutation
  | step _ => .step
  | interrupted => .interrupted
  | backupStaging _ _ | io _ => .io

/-- `CoreError::source`: the wordings of the causes behind an error, the nearest first. -/
def causes : ReleaseError → List String
  | config error => error.message :: error.causes
  | backupStaging _ cause | io cause => [cause.message]
  | _ => []

end ReleaseError

/-- `VersionManager::parse`: reads a version, or tells the text that is none. -/
def Version.parse (text : String) : Except ReleaseError Version :=
  match Version.parse? text with
  | some v => .ok v
  | none => .error (.invalidVersion text)

/-- `VersionManager::bump`: the version after a bump, or the component that cannot grow. -/
def Version.bump (v : Version) (kind : BumpKind) : Except ReleaseError Version :=
  match v.bump? kind with
  | some w => .ok w
  | none => .error (.versionOverflow v kind)

/-- An operation of the disk as an operation of a release. -/
def ofDisk {α : Type} : Except DiskError α → Except ReleaseError α
  | .ok a => .ok a
  | .error e => .error (.io e)

end Slipway
