import Slipway.Config.Printer
import Slipway.Disk.Basic
import Slipway.Toml.Reader

/-!
# Configurations for new projects

Model of `detect` and `package_name` (`keel::commands::init`). `Config.detect` proposes a
configuration for a directory: the defaults, with the lock file of the package as a further
artifact, or what fits a project that only has a `package.json`.
-/

namespace Slipway.Config

/-- The integers that a manifest may hold: those of 64 bits with a sign. -/
def manifestRange : Toml.Scalar.IntegerRange := ⟨-0x8000000000000000, 0x7fffffffffffffff⟩

/-- The member of a table. -/
def memberOf? (name : String) : Toml.Value → Option Toml.Value
  | .table _ members => Toml.Members.get? members name
  | _ => none

/-- `package_name`: the name of the package that a manifest declares. -/
def packageName? (text : String) : Option String := do
  let members ← Toml.Document.read? manifestRange text
  match ← memberOf? "name" (← Toml.Members.get? members "package") with
  | .string name => some name
  | _ => none

/-- The artifact for the lock file of a package. -/
def lockArtifact (name : String) : Artifact :=
  { Artifact.ofSearch "Cargo.lock" s!"name = \"{name}\"\nversion = \"\x7bversion\x7d\"" with
    optional := true }

/-- The configuration of a project that has a `package.json`. -/
def ofPackageJson : Config :=
  { version := { source := "package.json" }
    artifacts := [Artifact.ofSearch "package.json" "\"version\": \"\x7bversion\x7d\""]
    commands :=
      { test := ["npm", "test"], build := ["npm", "run", "build"], deploy := ["npm", "publish"] } }

/-- `detect`: proposes a configuration for a directory. -/
def detect (disk : Disk) (dir : String) : Config :=
  let manifest := Path.join dir "Cargo.toml"
  if disk.pathExists manifest ∨ !disk.pathExists (Path.join dir "package.json") then
    match (disk.readText manifest).toOption.bind packageName? with
    | some name => { ({} : Config) with artifacts := defaultArtifacts ++ [lockArtifact name] }
    | none => {}
  else ofPackageJson

/-- The lines before the tables of a new configuration. -/
def heading (c : Config) : String :=
  "# Keel release configuration\n"
    ++ (if c.version.source = "Cargo.toml" then
          "#\n# Files are backed up and restored on failure only when listed under\n"
            ++ "# [[artifacts]]. Keep the Cargo.lock entry if the lock file is committed.\n"
        else "")
    ++ "\n"

/-- The text of a new configuration file. -/
def newFileText (c : Config) : String := c.heading ++ c.text

end Slipway.Config
