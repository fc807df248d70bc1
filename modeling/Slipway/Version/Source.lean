import Slipway.Config.Schema
import Slipway.Error
import Slipway.Json.Reader
import Slipway.Regex.Search

/-!
# The source of the version

Model of `read_version_source` (`keel_core::files`). Where the current version of a project is read
from. A configured regular expression comes first; without one the name of the file decides: the
first `version = "…"` line of a TOML file, the member `version` of a JSON file, or all of the
content.
-/

namespace Slipway.VersionSource

/-- Reads `version = "…"` at the start of a text, with blanks between its parts. -/
def assignment? (cs : List Char) : Option (List Char) := do
  let cs ← Text.after? "version".toList (Text.trimStart cs)
  let cs ← Text.after? ['='] (Text.trimStart cs)
  let cs ← Text.after? ['"'] (Text.trimStart cs)
  let value := cs.takeWhile (· ≠ '"')
  if value ≠ [] ∧ value.length < cs.length then some value else none

/-- The value of the first assignment to `version` at the start of a line. The flag tells that the
text starts a line. -/
def scanLines? : (atStart : Bool) → List Char → Option (List Char)
  | _, [] => none
  | atStart, c :: cs =>
    match if atStart then assignment? (c :: cs) else none with
    | some value => some value
    | none => scanLines? (c == '\n') cs

/-- `read_toml_version`: the version in the text of a TOML file. -/
def ofToml? (content : List Char) : Option (List Char) := scanLines? true content

/-- The ways to find a version in a text. -/
inductive Format where
  | pattern (regex : String)
  | toml
  | json
  | plain
  deriving DecidableEq, Repr

/-- The way to find the version of a project. -/
def format (s : Config.VersionSettings) (path : String) : Format :=
  match s.pattern with
  | some regex => .pattern regex
  | none =>
    let name := (Path.fileName? path).getD ""
    let extension := Path.extension? path
    if name = "Cargo.toml" ∨ extension = some "toml" then .toml
    else if name = "package.json" ∨ extension = some "json" then .json
    else .plain

/-- `read_with_pattern`: the first group of the first match of a regular expression, or all of the
match where there is no group. -/
def ofPattern? (p : Regex.Program) (content : List Char) : Option (List Char) :=
  let text := content.toArray
  (Regex.matchFrom? p text 0).map fun m => (m.group? text 1).getD (m.text text)

/-- What is told about a text that is no JSON. -/
def notJson : String := "not a JSON document"

variable [Regex.SizeLimit]

/-- Finds the text of the version in a content; `file` names it in errors. -/
def raw (file : String) (content : List Char) : Format → Except ReleaseError (List Char)
  | .pattern regex =>
    match Regex.compile regex.toList with
    | .error defect => .error (.invalidPattern regex defect.message)
    | .ok p => found (ofPattern? p content)
  | .toml => found (ofToml? content)
  | .json =>
    match Json.Value.read? content with
    | none => .error (.parse file notJson)
    | some v => found ((v.member? "version").bind Json.Value.string?)
  | .plain => .ok (Text.trim content)
where
  /-- What was found, or an error that names the file. -/
  found : Option (List Char) → Except ReleaseError (List Char)
    | some text => .ok text
    | none => .error (.versionNotFound file)

/-- `read_version_source`: reads the current version of a project. -/
def read (root : String) (disk : Disk) (s : Config.VersionSettings) :
    Except ReleaseError Version := do
  let path := Path.join root s.source
  if !disk.pathExists path then throw (.fileNotFound s.source)
  let content ← ofDisk (disk.readText path)
  let text ← raw s.source content.toList (format s path)
  Version.parse (String.ofList text)

end Slipway.VersionSource
