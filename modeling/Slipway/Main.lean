import Slipway.Cli.Run
import Std.Time.Zoned

/-!
# The program

Model of `main` (`keel`). `main` reads the files of the project around the directory where it
starts, carries out the command line on them, and writes back what changed. The commands of a
release run on the library's own machine, which has a shell and a few programs on files.
-/

namespace Slipway.Cli

/-- The date of today. -/
def today : IO Date := do
  let date ← Std.Time.PlainDate.now
  return ⟨date.year, date.month.val.toNat, date.day.val.toNat⟩

/-- The path of a place. -/
def pathOf (p : Place) : String := "/" ++ "/".intercalate p

/-- The place of a path without links. -/
def placeOf (path : String) : Place := Path.parts path

/-- The places from below the root down to a place. -/
def placesTo (p : Place) : List Place := (List.range p.length).map fun n => p.take (n + 1)

/-! ## Reading -/

/-- What stands at a directory entry and below it. What cannot be read is left out, and so are the
files that version control keeps. -/
partial def entriesAt (above : Place) (e : IO.FS.DirEntry) : IO (List (Place × Entry)) := do
  let here := above ++ [e.fileName]
  if e.fileName = Repository.metaName then return []
  match (← e.path.symlinkMetadata).type with
  | .dir =>
    let inner ← (← e.path.readDir).toList.mapM (entriesAt here)
    return (here, .directory) :: inner.flatten
  | .file | .symlink | .other =>
    try return [(here, .file (.ofBytes (← IO.FS.readBinFile e.path)))]
    catch _ => return []

/-- What stands below a directory. -/
def entriesBelow (dir : Place) : IO (List (Place × Entry)) := do
  let path ← IO.FS.realPath (pathOf dir)
  return (← (← path.readDir).toList.mapM (entriesAt dir)).flatten

/-- The names of the tags whose files stand at a directory entry and below it. -/
partial def tagsAt (above : List String) (e : IO.FS.DirEntry) : IO (List String) := do
  let here := above ++ [e.fileName]
  if ← e.path.isDir then
    return (← (← e.path.readDir).toList.mapM (tagsAt here)).flatten
  else return ["/".intercalate here]

/-- The repository with a given top, with its tags. -/
def readRepository (top : Place) : IO Repository := do
  let own := pathOf (top ++ [Repository.metaName])
  let loose ←
    try
      let path ← IO.FS.realPath (own ++ "/refs/tags")
      pure (← (← path.readDir).toList.mapM (tagsAt [])).flatten
    catch _ => pure []
  let packed ← try IO.FS.readFile (own ++ "/packed-refs") catch _ => pure ""
  return (loose ++ Repository.packedTags packed).eraseDups.foldl .addTag (.init top)

/-- Whether a directory holds an entry of a name. -/
def holdsEntry (dir : Place) (name : String) : IO Bool := do
  try
    let path ← IO.FS.realPath (pathOf dir)
    return (← path.readDir).any fun e => e.fileName = name
  catch _ => return false

/-- The machine on which a command line runs: the files below the topmost directory around its start
that holds a configuration, or below the start itself. -/
def readMachine (dir : Place) (given : Option String) (input : String) : IO (Place × Machine) := do
  let start ←
    match given with
    | some path =>
      try pure (placeOf (← IO.FS.realPath (Path.join (pathOf dir) path)).toString)
      catch _ => pure dir
    | none => pure dir
  let around := [] :: placesTo start
  let top := ((← around.filterM (holdsEntry · Config.fileName)).head?).getD start
  let known ← (← around.filterM (holdsEntry · Repository.metaName)).getLast?.mapM readRepository
  let leading := (placesTo dir ++ placesTo top).eraseDups.map fun p => (p, Entry.directory)
  return (top, ⟨⟨leading ++ (← entriesBelow top)⟩, pathOf dir, input, known, ← today⟩)

/-! ## Writing -/

/-- Writes back what differs below a directory. -/
def writeBack (top : Place) (before after : Disk) : IO Unit := do
  for (name, _) in before.filesBelow top do
    let p := top ++ name
    if after.at? p = none then IO.FS.removeFile (pathOf p)
  for (p, e) in after.entries do
    if top.isPrefixOf p ∧ before.at? p ≠ some e then
      match e with
      | .directory => IO.FS.createDirAll (pathOf p)
      | .file content =>
        IO.FS.createDirAll (pathOf p.dropLast)
        IO.FS.writeBinFile (pathOf p) content.bytes
  for (p, e) in before.entries do
    if e = .directory ∧ after.at? p = none ∧ top.isPrefixOf p then
      try IO.FS.removeDirAll (pathOf p) catch _ => pure ()

end Slipway.Cli

/-- Carries out the command line that the program was started with. -/
def main (args : List String) : IO UInt32 := do
  let invocation := (Slipway.Cli.Arguments.parse args).toOption
  let given := invocation.bind (·.value? .directory)
  let input ← if invocation.any (·.asks) then (← IO.getStdin).readToEnd else pure ""
  let dir := Slipway.Cli.placeOf (← IO.currentDir).toString
  let (top, machine) ← Slipway.Cli.readMachine dir given input
  let result := machine.run args
  (← IO.getStdout).putStr result.stdout
  (← IO.getStderr).putStr result.stderr
  Slipway.Cli.writeBack top machine.disk result.disk
  return result.exit.toUInt32
