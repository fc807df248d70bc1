import Slipway.Release.Outcome
import Slipway.Release.Plan

/-!
# What a release shows

Model of `print_plan`, `print_preview`, `print_report` and `print_failure`
(`keel::commands::release`). The texts for the operator: the plan, the planned changes of a dry run,
the report of a release and the account of a failure.
-/

namespace Slipway.Cli

/-- Lines with their line ends. -/
def lines (ls : List String) : String := String.join (ls.map (· ++ "\n"))

/-- A heading with a list below it, if there is anything in the list. -/
def section? (heading : String) (items : List String) : List String :=
  if items = [] then [] else ["", heading] ++ items.map ("  - " ++ ·)

/-- The state of the changelog. -/
def changelogLine (p : ReleasePlan) : String :=
  if p.changelogReady then s!"Changelog: ready ({p.pendingChars} characters pending)"
  else s!"Changelog: NOT READY ({p.pendingChars} of {p.minPendingChars} characters pending)"

/-- The line of a step. -/
def stepLine (index : Nat) (s : Step) : String :=
  let optional := if s.required then "" else " (optional)"
  s!"  {index + 1}. {s.description}{optional}: {s.command.line}"

/-- `print_plan`: the plan of a release. -/
def planText (p : ReleasePlan) : String :=
  lines <|
    [s!"Release {p.current.text} -> {p.next.text} (tag {p.tag})", "", changelogLine p, "", "Steps:"]
    ++ p.steps.mapIdx stepLine
    ++ section? "Warnings:" p.warnings
    ++ [""]

/-- The planned changes of an artifact. -/
def artifactLines (p : ArtifactPreview) : List String :=
  match p.changes with
  | .error problem => ["", s!"  {p.path}: {problem.message}"]
  | .ok [] => ["", s!"  {p.path}: unchanged"]
  | .ok changes => ["", s!"  {p.path}:"] ++ changes.map fun c => s!"    {c.shown}"

/-- `print_preview`: the planned changes of a dry run. -/
def previewText (p : ReleasePreview) (changelogPath : String) : String :=
  lines <|
    ["Planned file changes:"]
    ++ p.artifacts.flatMap artifactLines
    ++ ["", s!"  {changelogPath}:"]
    ++ (p.changelog.map fun c => s!"    {c.shown}")
    ++ ["", "Dry run: no files were changed and no commands were run."]

/-- `print_report`: the report of a release. -/
def reportText (r : ReleaseReport) (pushed : Bool) : String :=
  lines <|
    ["", s!"Released {r.previous.text} -> {r.version.text} ({r.tag}).",
     s!"  {r.artifacts.applied} artifact(s) updated, {r.completed.length} step(s) completed"]
    ++ section? "Warnings:" r.warnings
    ++ (if pushed then [] else ["", "Next steps:", "  git push && git push --tags"])

/-- An output of a command, unless it is blank. -/
def outputLines (name text : String) : List String :=
  if Text.blank text.toList then []
  else s!"  {name}:" :: (Text.lines text.toList).map fun l => s!"    {String.ofList l}"

/-- The step that failed. -/
def failedStepLines (f : StepFailure) : List String :=
  s!"  command: {f.command.line}"
    :: match f.output with
      | some o => outputLines "stdout" o.stdout ++ outputLines "stderr" o.stderr
      | none => []

/-- What became of the files. -/
def restoreLines (f : ReleaseFailure) : List String :=
  match f.restore with
  | some r =>
    if r.complete then ["", s!"Local files were restored ({r.restored.length} file(s))."]
    else
      ["", "Some files could not be restored:"]
        ++ r.failed.map fun (path, reason) => s!"  - {path}: {reason}"
  | none =>
    if ReleaseState.filesMutated ≤ f.state then ["", "Local files were NOT restored."] else []

/-- `print_failure`: the account of a failure. -/
def failureText (f : ReleaseFailure) : String :=
  lines <|
    ["", s!"Release failed: {f.error.message}"]
    ++ (match f.error with
      | .step failure => failedStepLines failure
      | _ => [])
    ++ restoreLines f
    ++ section? "These effects are already live and cannot be rolled back automatically:" f.live
    ++ section? "Local repository changes that were not undone:" f.localEffects
    ++ (match f.backupDir with
      | some dir => ["", s!"Backups kept in {dir}; remove it after inspecting the working tree."]
      | none => [])

end Slipway.Cli
