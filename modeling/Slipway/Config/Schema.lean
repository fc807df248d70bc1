import Slipway.Artifact.Basic

/-!
# Configurations

Model of `Config` and its tables (`keel_config::schema`). What a project declares about its
releases, table by table. Every setting has a default, so that an empty configuration is one.
-/

namespace Slipway

namespace Config

/-- `VersionConfig`: the file that holds the version, the regular expression that finds it there,
and the prefix of release tags. -/
structure VersionSettings where
  source : String := "Cargo.toml"
  pattern : Option String := none
  tagPrefix : String := "v"
  deriving DecidableEq, Repr

/-- `ChangelogConfig`: where the changelog is, and how many characters its pending section needs. -/
structure ChangelogSettings where
  path : String := "CHANGELOG.md"
  minPendingChars : Nat := 20
  deriving DecidableEq, Repr

/-- `CommandsConfig`: the commands that test, build and deploy, each a list of words. -/
structure CommandSettings where
  test : List String := ["cargo", "test"]
  build : List String := ["cargo", "build", "--release"]
  deploy : List String := ["cargo", "publish"]
  deriving DecidableEq, Repr

/-- `GitConfig`: the version control program, and the templates of its messages. -/
structure GitSettings where
  program : String := "git"
  commitMessage : String := "Bump version to \x7bversion\x7d"
  tagMessage : String := "Release \x7bversion\x7d"
  deriving DecidableEq, Repr

/-- `ReleaseHostConfig`: the program of the release host, the title and the notes of a release, and
its asset. -/
structure HostSettings where
  program : String := "gh"
  title : String := "Release \x7bversion\x7d"
  asset : Option String := none
  assetLabel : Option String := none
  notesFooter : Option String := none
  repositoryUrl : Option String := none
  deriving DecidableEq, Repr

/-- `BackupConfig`: the directory that holds copies of the files while a release runs. -/
structure BackupSettings where
  dir : String := ".release-backup"
  deriving DecidableEq, Repr

/-- `default_artifacts`: the artifacts of a configuration that declares none. -/
def defaultArtifacts : List Artifact :=
  [Artifact.ofSearch "Cargo.toml" "version = \"\x7bversion\x7d\""]

end Config

/-- `Config`: what a project declares about its releases. -/
structure Config where
  version : Config.VersionSettings := {}
  artifacts : List Artifact := Config.defaultArtifacts
  changelog : Config.ChangelogSettings := {}
  commands : Config.CommandSettings := {}
  git : Config.GitSettings := {}
  releaseHost : Config.HostSettings := {}
  backup : Config.BackupSettings := {}
  deriving DecidableEq, Repr

namespace Config

/-- `CONFIG_FILE_NAME`: the name of the file that holds the configuration of a project. -/
def fileName : String := "keel.toml"

/-- `Config::tag_name`: the tag of a version. -/
def tagName (c : Config) (version : String) : String := c.version.tagPrefix ++ version

end Config

end Slipway
