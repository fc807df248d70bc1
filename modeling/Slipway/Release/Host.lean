import Slipway.Config.Schema
import Slipway.Pipeline.Step
import Slipway.Text.Search
import Slipway.Text.Blank
import Slipway.Version.Basic
import Slipway.World.Session

/-!
# The release host

Model of `ReleaseHost` (`keel_core::host`). A release may be published on a host through a program
of its own. `ReleaseHost.status` asks the program whether it can be used, `ReleaseHost.notes`
composes what is published, and `ReleaseHost.createCommand` is the command that publishes it.
-/

namespace Slipway

/-- `ReleaseHost`: the settings of a release host, and the root of the project. -/
structure ReleaseHost where
  settings : Config.HostSettings
  root : String

/-- `HostStatus`: whether the program of a release host can be used. -/
inductive HostStatus where
  | ready
  | missing (reason : String)
  | unauthenticated (reason : String)
  deriving DecidableEq, Repr

namespace ReleaseHost

variable {σ : Type}

/-- `NOTES_FILE`: the name of the file that holds the notes while a release is published. -/
def notesName : String := ".release-notes.md"

/-- `ReleaseHost::notes_path`: the path of the notes. -/
def notesPath (h : ReleaseHost) : String := Path.join h.root notesName

/-- The command that asks for the version of the program. -/
def probe (h : ReleaseHost) : Command := ⟨h.settings.program, ["--version"]⟩

/-- The command that asks whether the operator is known to the host. -/
def authProbe (h : ReleaseHost) : Command := ⟨h.settings.program, ["auth", "status"]⟩

/-- `ReleaseHost::status`: asks whether the program can be used, by one command and, if that
succeeds, by another one. -/
def status (w : World σ) (h : ReleaseHost) (s : Session σ) : HostStatus × Session σ :=
  let program := h.settings.program
  match s.launch w h.probe with
  | (.error reason, s) => (.missing s!"{program} not found: {reason}", s)
  | (.ok output, s) =>
    if !output.success then
      (.missing s!"{program} --version exited with status {output.exit}", s)
    else
      match s.launch w h.authProbe with
      | (.error reason, s) =>
        (.unauthenticated s!"could not check {program} auth status: {reason}", s)
      | (.ok output, s) =>
        if output.success then (.ready, s)
        else
          (.unauthenticated s!"{program} is not authenticated; run `{program} auth login`", s)

/-- Cuts the slashes at the end of an address. -/
def cutSlashes (url : String) : String :=
  String.ofList (url.toList.reverse.dropWhile (· == '/')).reverse

/-- What is published about a version without an entry in the changelog. -/
def fallbackBody (h : ReleaseHost) (version : Version) (changelog : String) : String :=
  match h.settings.repositoryUrl with
  | some url =>
    let link := s!"[{changelog}]({cutSlashes url}/blob/main/{changelog})"
    s!"Release {version.text}\n\nSee {link} for details."
  | none => s!"Release {version.text}\n\nSee {changelog} for details."

/-- The end of the notes. -/
def footer (h : ReleaseHost) (version : Version) : String :=
  match h.settings.notesFooter with
  | some template =>
    let text := Text.expand template.toList version.text.toList
    "\n" ++ String.ofList (Text.trimEnd text) ++ "\n"
  | none => ""

/-- `ReleaseHost::compose_notes`: the notes of a version. A heading, the entry of the changelog and
the footer make them up. -/
def notes (h : ReleaseHost) (version : Version) (entry : Option String) (changelog : String) :
    String :=
  let body := entry.getD (h.fallbackBody version changelog)
  s!"# Release {version.text}\n\n" ++ body ++ "\n" ++ h.footer version

/-- The path of an asset. -/
def assetPath (h : ReleaseHost) (asset : String) : String := Path.join h.root asset

/-- The label of an asset: the configured one, or the name of its file. -/
def assetLabel (h : ReleaseHost) (asset : String) : String :=
  h.settings.assetLabel.getD ((Path.fileName? (h.assetPath asset)).getD asset)

/-- The argument that attaches the asset, if it is there. -/
def assetArgs (h : ReleaseHost) (disk : Disk) : List String :=
  match h.settings.asset with
  | none => []
  | some asset =>
    if disk.pathExists (h.assetPath asset) then [s!"{h.assetPath asset}#{h.assetLabel asset}"]
    else []

/-- The warning about an asset that is not there. -/
def assetWarning? (h : ReleaseHost) (disk : Disk) : Option String :=
  match h.settings.asset with
  | none => none
  | some asset =>
    if disk.pathExists (h.assetPath asset) then none
    else some s!"asset {asset} not found, creating release without it"

/-- `ReleaseHost::create_command`: the command that publishes a release. -/
def createCommand (h : ReleaseHost) (disk : Disk) (tag : String) (version : Version) : Command :=
  ⟨h.settings.program,
    ["release", "create", tag, "--title", Text.expandString h.settings.title version.text,
      "--notes-file", h.notesPath] ++ h.assetArgs disk⟩

/-- The step that publishes a release; the release does not fail with it. -/
def publishStep (h : ReleaseHost) (disk : Disk) (tag : String) (version : Version) : Step :=
  ⟨.publish, s!"Creating release {tag}", h.createCommand disk tag version, false⟩

end ReleaseHost

end Slipway
