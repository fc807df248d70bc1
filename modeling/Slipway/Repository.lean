import Slipway.Disk.Basic
import Slipway.Text.Lines
import Slipway.Text.Search
import Slipway.Version.Semantic

/-!
# Repositories

Model of `Repository` (`keel_git::repository`). A `Repository` is what version control knows of a
project: the names of its tags, the files of the last commit and the files that are staged. From
that come the latest version among the tags and the paths with changes that are not committed.
-/

namespace Slipway

/-- Files by their paths below the top of a repository. -/
abbrev TrackedFiles := List (String × Content)

/-- `Repository`: what version control knows of the files below a directory, its top. -/
structure Repository where
  top : Place
  tags : List String
  head : TrackedFiles
  staged : TrackedFiles

/-- The content of a tracked file. -/
def TrackedFiles.get? (fs : TrackedFiles) (path : String) : Option Content :=
  (fs.find? fun f => f.1 = path).map Prod.snd

namespace Repository

/-- The name of the directory in which version control keeps its own files. -/
def metaName : String := ".git"

/-- A repository in which nothing was committed. -/
def init (top : Place) : Repository := ⟨top, [], [], []⟩

/-- `Repository::path`: the path of the top, with a slash at its end. -/
def path (r : Repository) : String := "/" ++ String.join (r.top.map (· ++ "/"))

/-- The files below the top, by their paths. -/
def workingFiles (r : Repository) (disk : Disk) : TrackedFiles :=
  ((disk.filesBelow r.top).filter fun f => !f.1.contains metaName).map fun f =>
    ("/".intercalate f.1, f.2)

/-- Commits every file below the top. -/
def commitAll (r : Repository) (disk : Disk) : Repository :=
  { r with head := r.workingFiles disk, staged := r.workingFiles disk }

/-- Adds a tag. -/
def addTag (r : Repository) (tag : String) : Repository := { r with tags := r.tags ++ [tag] }

/-- Stages the file at a path below the top, or its removal. -/
def stage (r : Repository) (disk : Disk) (path : String) : Repository :=
  let others := r.staged.filter fun f => f.1 ≠ path
  match (r.workingFiles disk).get? path with
  | some content => { r with staged := others ++ [(path, content)] }
  | none => { r with staged := others }

/-- Whether a place lies in the repository. -/
def holds (r : Repository) (p : Place) : Bool := r.top.isPrefixOf p

/-- `Repository::discover`: the repository around a path that exists. -/
def discover? (known : Option Repository) (disk : Disk) (start : String) : Option Repository := do
  let r ← known
  let p ← (disk.resolve start).toOption
  if (disk.at? p).isSome ∧ r.holds p then some r else none

/-- `GitError::NotARepo`: what is told about a directory outside of every repository. -/
def notFoundMessage (start : String) : String := s!"not a git repository: {start}"

/-! ## Tags -/

/-- `Repository::tags`: the tags in a list of references. Each line holds a number, a blank and the
full name. -/
def packedTags (text : String) : List String :=
  (Text.lines text.toList).filterMap fun line =>
    (Text.after? " refs/tags/".toList (line.dropWhile (· ≠ ' '))).map String.ofList

/-- `Repository::tag_exists`: whether there is a tag of a name. -/
def hasTag (r : Repository) (tag : String) : Bool := r.tags.contains tag

/-- The version that a tag names after a prefix. -/
def tagVersion? (tagPrefix tag : String) : Option SemanticVersion :=
  (Text.after? tagPrefix.toList tag.toList).bind SemanticVersion.parse?

/-- The tags that name a version after a prefix, with their versions. -/
def versionTags (tagPrefix : String) (tags : List String) : List (String × SemanticVersion) :=
  tags.filterMap fun tag => (tagVersion? tagPrefix tag).map fun v => (tag, v)

/-- The one of two tags with the greater version; the first one if they are equal. -/
def greater (a b : String × SemanticVersion) : String × SemanticVersion :=
  if a.2.compare b.2 = .lt then b else a

/-- The tag of the greatest version. -/
def latestOf? : List (String × SemanticVersion) → Option (String × SemanticVersion)
  | [] => none
  | t :: ts => some (ts.foldl greater t)

/-- `Repository::latest_version_tag`: the tag of the greatest version among those with a prefix. -/
def latestVersionTag? (r : Repository) (tagPrefix : String) : Option String :=
  (latestOf? (versionTags tagPrefix r.tags)).map Prod.fst

/-! ## Changes -/

/-- Whether a tracked path differs between the last commit, the staged files and the disk. -/
def isDirty (r : Repository) (disk : Disk) (path : String) : Bool :=
  let staged := r.staged.get? path
  r.head.get? path ≠ staged
    || (staged.isSome && (r.workingFiles disk).get? path ≠ staged)

/-- `Repository::dirty_paths`: the paths of committed or staged files with changes that are not
committed. -/
def dirtyPaths (r : Repository) (disk : Disk) : List String :=
  (((r.head ++ r.staged).map Prod.fst).eraseDups).filter (r.isDirty disk)

end Repository

end Slipway
