import Slipway.Config.Schema
import Slipway.Toml.Reader

/-!
# Configurations from TOML

Model of `Config` as `serde` reads it (`keel_config::schema`). A configuration is the root table of
a document. Names that the schema does not know are ignored, names that are missing take their
defaults. A table may also be written as an array that gives the values in the order of the schema;
a date or a time stands for a table without known names.
-/

namespace Slipway.Config

/-- Looks up a setting by its name, or by its number in the schema. -/
abbrev Settings := (name : String) → (index : Nat) → Option Toml.Value

/-- The settings that a value gives. -/
def settings? : Toml.Value → Option Settings
  | .table _ members => some fun name _ => Toml.Members.get? members name
  | .array items | .tables items => some fun _ index => items[index]?
  | .moment _ => some fun _ _ => none
  | _ => none

/-- Reads a string. -/
def string? : Toml.Value → Option String
  | .string s => some s
  | _ => none

/-- Reads a truth value. -/
def flag? : Toml.Value → Option Bool
  | .boolean b => some b
  | _ => none

/-- Reads a number of characters, below 2^64. -/
def count? : Toml.Value → Option Nat
  | .integer n => if 0 ≤ n ∧ n < UInt64.size then some n.toNat else none
  | _ => none

/-- The items of an array. -/
def items? : Toml.Value → Option (List Toml.Value)
  | .array items | .tables items => some items
  | _ => none

/-- Reads a list of words. -/
def words? (v : Toml.Value) : Option (List String) := do (← items? v).mapM string?

/-- Whether a value is an array or a table that holds nothing. -/
def isEmptyValue : Toml.Value → Bool
  | .array [] | .table _ [] => true
  | _ => false

/-- Reads a choice: its name, or a table with the name over an empty value. -/
def choice? {α : Type} (ofName? : String → Option α) : Toml.Value → Option α
  | .string name => ofName? name
  | .table _ [(name, v)] => if isEmptyValue v then ofName? name else none
  | _ => none

/-- A setting with a default. -/
def setting {α : Type} (default : α) (read? : Toml.Value → Option α) : Option Toml.Value → Option α
  | none => some default
  | some v => read? v

/-- A setting that may be unset. -/
def optional {α : Type} (read? : Toml.Value → Option α) : Option Toml.Value → Option (Option α)
  | none => some none
  | some v => (read? v).map some

/-- Reads the settings of the version. -/
def version? (v : Toml.Value) : Option VersionSettings := do
  let s ← settings? v
  let d : VersionSettings := {}
  return { source := ← setting d.source string? (s "source" 0)
           pattern := ← optional string? (s "pattern" 1)
           tagPrefix := ← setting d.tagPrefix string? (s "tag_prefix" 2) }

/-- Reads an artifact; its path and its search template must be there. -/
def artifact? (v : Toml.Value) : Option Artifact := do
  let s ← settings? v
  return { path := ← (s "path" 0).bind string?
           search := ← (s "search" 1).bind string?
           replace := ← optional string? (s "replace" 2)
           matcher := ← setting .literal (choice? Matcher.ofName?) (s "matcher" 3)
           occurrence := ← setting .first (choice? Occurrence.ofName?) (s "occurrence" 4)
           optional := ← setting false flag? (s "optional" 5) }

/-- Reads the artifacts. -/
def artifacts? (v : Toml.Value) : Option (List Artifact) := do (← items? v).mapM artifact?

/-- Reads the settings of the changelog. -/
def changelog? (v : Toml.Value) : Option ChangelogSettings := do
  let s ← settings? v
  let d : ChangelogSettings := {}
  return { path := ← setting d.path string? (s "path" 0)
           minPendingChars := ← setting d.minPendingChars count? (s "min_pending_chars" 1) }

/-- Reads the commands. -/
def commands? (v : Toml.Value) : Option CommandSettings := do
  let s ← settings? v
  let d : CommandSettings := {}
  return { test := ← setting d.test words? (s "test" 0)
           build := ← setting d.build words? (s "build" 1)
           deploy := ← setting d.deploy words? (s "deploy" 2) }

/-- Reads the settings of version control. -/
def git? (v : Toml.Value) : Option GitSettings := do
  let s ← settings? v
  let d : GitSettings := {}
  return { program := ← setting d.program string? (s "program" 0)
           commitMessage := ← setting d.commitMessage string? (s "commit_message" 1)
           tagMessage := ← setting d.tagMessage string? (s "tag_message" 2) }

/-- Reads the settings of the release host. -/
def releaseHost? (v : Toml.Value) : Option HostSettings := do
  let s ← settings? v
  let d : HostSettings := {}
  return { program := ← setting d.program string? (s "program" 0)
           title := ← setting d.title string? (s "title" 1)
           asset := ← optional string? (s "asset" 2)
           assetLabel := ← optional string? (s "asset_label" 3)
           notesFooter := ← optional string? (s "notes_footer" 4)
           repositoryUrl := ← optional string? (s "repository_url" 5) }

/-- Reads the settings of the backup. -/
def backup? (v : Toml.Value) : Option BackupSettings := do
  let s ← settings? v
  let d : BackupSettings := {}
  return { dir := ← setting d.dir string? (s "dir" 0) }

/-- Reads a configuration from the root table of a document. -/
def ofMembers? (ms : Toml.Members) : Option Config := do
  return { version := ← setting {} version? (ms.get? "version")
           artifacts := ← setting defaultArtifacts artifacts? (ms.get? "artifacts")
           changelog := ← setting {} changelog? (ms.get? "changelog")
           commands := ← setting {} commands? (ms.get? "commands")
           git := ← setting {} git? (ms.get? "git")
           releaseHost := ← setting {} releaseHost? (ms.get? "release_host")
           backup := ← setting {} backup? (ms.get? "backup") }

/-- The integers that a configuration may hold: those of 128 bits, signed or not. -/
def integerRange : Toml.Scalar.IntegerRange :=
  ⟨-0x80000000000000000000000000000000, 0xffffffffffffffffffffffffffffffff⟩

/-- Reads a configuration from a text. -/
def ofText? (text : String) : Option Config :=
  (Toml.Document.read? integerRange text).bind ofMembers?

end Slipway.Config
