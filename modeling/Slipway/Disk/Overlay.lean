import Slipway.Disk.Basic

/-!
# Overlays

An `Overlay` tells what shall stand at some paths, and what shall be gone. Laying it over a disk
removes first, then makes the directories and writes the files, with the directories that lead to
them.
-/

namespace Slipway

/-- What shall stand at a path. -/
inductive Placement where
  | file (content : Content)
  | directory
  | absent
  deriving DecidableEq

/-- What shall stand at some paths. -/
abbrev Overlay := List (String × Placement)

namespace Disk

/-- Removes the file or the directory at a path. -/
def removeAny (d : Disk) (path : String) : Except DiskError Disk :=
  if d.isDirectory path then d.removeTree path else d.removeFile path

/-- Makes a directory at a path, instead of the file that stands there. -/
def placeDirectory (d : Disk) (path : String) : Disk :=
  let d := if d.isDirectory path then d else d.attempt (·.removeAny path)
  (d.makeDirectories path).2

/-- Writes a file at a path, instead of the directory that stands there. -/
def placeFile (d : Disk) (path : String) (content : Content) : Disk :=
  let d := match Path.parent? path with
    | some up => (d.makeDirectories up).2
    | none => d
  let d := if d.isDirectory path then d.attempt (·.removeTree path) else d
  d.attempt (·.write path content)

/-- Removes what an overlay wants gone, below a directory. -/
def removeAbsent (base : String) (d : Disk) (entry : String × Placement) : Disk :=
  match entry.2 with
  | .absent => d.attempt (·.removeAny (Path.join base entry.1))
  | .file _ | .directory => d

/-- Places the files and directories of an overlay, below a directory. -/
def place (base : String) (d : Disk) (entry : String × Placement) : Disk :=
  match entry.2 with
  | .absent => d
  | .directory => d.placeDirectory (Path.join base entry.1)
  | .file content => d.placeFile (Path.join base entry.1) content

/-- Lays an overlay over the files below a directory. -/
def lay (d : Disk) (base : String) (o : Overlay) : Disk :=
  o.foldl (place base) (o.foldl (removeAbsent base) d)

end Disk

end Slipway
