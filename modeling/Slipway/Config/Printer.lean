import Slipway.Config.Schema
import Slipway.Toml.Writer

/-!
# Printing configurations

Model of the text that `init::run` (`keel::commands`) has `toml` write. A configuration is written
with all its settings, those without a value apart.
-/

namespace Slipway.Config

/-- The line of a setting. -/
def settingLine (name value : String) : String := s!"{name} = {value}\n"

/-- The line of a setting that is a string. -/
def stringLine (name value : String) : String := settingLine name (Toml.stringText value)

/-- The line of a setting that may be unset. -/
def optionalLine (name : String) : Option String → String
  | some value => stringLine name value
  | none => ""

/-- The word of a truth value. -/
def flagText (b : Bool) : String := if b then "true" else "false"

/-- A table with its header. -/
def tableText (header : String) (lines : List String) : String :=
  s!"[{header}]\n" ++ String.join lines

/-- The table of an artifact. -/
def artifactText (a : Artifact) : String :=
  tableText "[artifacts]"
    [stringLine "path" a.path, stringLine "search" a.search, optionalLine "replace" a.replace,
     stringLine "matcher" a.matcher.name, stringLine "occurrence" a.occurrence.name,
     settingLine "optional" (flagText a.optional)]

/-- The tables of a configuration, with blank lines between them. -/
def text (c : Config) : String :=
  "\n".intercalate <|
    [tableText "version"
      [stringLine "source" c.version.source, optionalLine "pattern" c.version.pattern,
       stringLine "tag_prefix" c.version.tagPrefix]]
    ++ c.artifacts.map artifactText
    ++ [tableText "changelog"
          [stringLine "path" c.changelog.path,
           settingLine "min_pending_chars" (toString c.changelog.minPendingChars)],
        tableText "commands"
          [settingLine "test" (Toml.listText c.commands.test),
           settingLine "build" (Toml.listText c.commands.build),
           settingLine "deploy" (Toml.listText c.commands.deploy)],
        tableText "git"
          [stringLine "program" c.git.program, stringLine "commit_message" c.git.commitMessage,
           stringLine "tag_message" c.git.tagMessage],
        tableText "release_host"
          [stringLine "program" c.releaseHost.program, stringLine "title" c.releaseHost.title,
           optionalLine "asset" c.releaseHost.asset,
           optionalLine "asset_label" c.releaseHost.assetLabel,
           optionalLine "notes_footer" c.releaseHost.notesFooter,
           optionalLine "repository_url" c.releaseHost.repositoryUrl],
        tableText "backup" [stringLine "dir" c.backup.dir]]

end Slipway.Config
