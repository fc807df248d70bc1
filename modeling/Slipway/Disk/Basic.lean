import Slipway.Disk.Path

/-!
# Disks

Model of `std::fs`, as far as `keel_core` and `keel_config` use it. A `Disk` holds directories and
regular files by their place, the list of names from the root down. A path is looked up name by
name: every name but the last has to be that of a directory, and `..` leads to the directory above.
The operations fail with a `DiskError`, the cause that the system reports.
-/

namespace Slipway

/-- Why the disk refuses an operation. -/
inductive DiskError where
  | notFound
  | notADirectory
  | isADirectory
  | permissionDenied
  | alreadyExists
  | nameTooLong
  | nulInPath
  | nulInArgument
  | notRegular
  | notText
  deriving DecidableEq, Repr

namespace DiskError

/-- The wording of a cause, without its number. -/
def reason : DiskError → String
  | notFound => "No such file or directory"
  | notADirectory => "Not a directory"
  | isADirectory => "Is a directory"
  | permissionDenied => "Permission denied"
  | alreadyExists => "File exists"
  | nameTooLong => "File name too long"
  | nulInPath => "file name contained an unexpected NUL byte"
  | nulInArgument => "nul byte found in provided data"
  | notRegular => "the source path is neither a regular file nor a symlink to a regular file"
  | notText => "stream did not contain valid UTF-8"

/-- The number that the system gives a cause, if it comes from there. -/
def number? : DiskError → Option Nat
  | notFound => some 2
  | notADirectory => some 20
  | isADirectory => some 21
  | permissionDenied => some 13
  | alreadyExists => some 17
  | nameTooLong => some 36
  | nulInPath | nulInArgument | notRegular | notText => none

/-- The wording of a cause. -/
def message (e : DiskError) : String :=
  match e.number? with
  | some n => s!"{e.reason} (os error {n})"
  | none => e.reason

end DiskError

/-- What a file holds: text, or bytes that are no text. -/
inductive Content where
  | text (s : String)
  | binary (bytes : ByteArray)

namespace Content

/-- Contents are compared by their kind and what they hold. -/
instance : DecidableEq Content
  | .text s, .text t => decidable_of_iff (s = t) (by simp)
  | .binary a, .binary b => decidable_of_iff (a.data = b.data) (by simp [ByteArray.ext_iff])
  | .text _, .binary _ => isFalse nofun
  | .binary _, .text _ => isFalse nofun

/-- The content of the given bytes. -/
def ofBytes (bytes : ByteArray) : Content :=
  match String.fromUTF8? bytes with
  | some s => .text s
  | none => .binary bytes

/-- The bytes of a content. -/
def bytes : Content → ByteArray
  | .text s => s.toUTF8
  | .binary b => b

end Content

/-- The names on the way from the root of the disk to a file or directory. -/
abbrev Place := List String

/-- What stands at a place. -/
inductive Entry where
  | file (content : Content)
  | directory
  deriving DecidableEq

/-- A disk: the files and directories below its root. -/
structure Disk where
  entries : List (Place × Entry)

namespace Disk

/-- A disk with nothing on it. -/
def empty : Disk := ⟨[]⟩

/-- What stands at a place; the root is a directory. -/
def at? (d : Disk) (p : Place) : Option Entry :=
  if p = [] then some .directory else (d.entries.find? fun e => e.1 = p).map Prod.snd

/-- Puts an entry at a place, instead of the one that stands there. -/
def put (d : Disk) (p : Place) (e : Entry) : Disk :=
  ⟨(p, e) :: d.entries.filter fun x => x.1 ≠ p⟩

/-- Removes what stands at a place and below it. -/
def cut (d : Disk) (p : Place) : Disk := ⟨d.entries.filter fun x => !p.isPrefixOf x.1⟩

/-- Removes what stands below a place. -/
def clear (d : Disk) (p : Place) : Disk :=
  ⟨d.entries.filter fun x => x.1 = p ∨ ¬ p.isPrefixOf x.1⟩

/-- The longest name that the system accepts, in bytes. -/
def maxName : Nat := 255

/-- Walks along names from a place. What is reached need not exist, all that leads to it does. -/
def walk (d : Disk) : Place → List String → Except DiskError Place
  | here, [] => .ok here
  | here, name :: names =>
    match d.at? here with
    | none => .error .notFound
    | some (.file _) => .error .notADirectory
    | some .directory =>
      if name = "" ∨ name = "." then d.walk here names
      else if name = ".." then d.walk here.dropLast names
      else if maxName < name.utf8ByteSize then .error .nameTooLong
      else d.walk (here ++ [name]) names

/-- The place that a path leads to; the place need not be taken. -/
def resolve (d : Disk) (path : String) : Except DiskError Place :=
  if path = "" then .error .notFound
  else if path.toList.contains '\x00' then .error .nulInPath
  else d.walk [] ((Path.splitSlash path.toList).map String.ofList)

/-- What a path leads to. -/
def lookup (d : Disk) (path : String) : Except DiskError Entry := do
  match d.at? (← d.resolve path) with
  | some e => return e
  | none => throw .notFound

/-- `Path::exists`: whether a path leads to anything. -/
def pathExists (d : Disk) (path : String) : Bool := (d.lookup path).toOption.isSome

/-- `Path::is_dir`: whether a path leads to a directory. -/
def isDirectory (d : Disk) (path : String) : Bool :=
  match d.lookup path with
  | .ok .directory => true
  | _ => false

/-- `fs::read`: the content of the file at a path. -/
def read (d : Disk) (path : String) : Except DiskError Content := do
  match ← d.lookup path with
  | .file c => return c
  | .directory => throw .isADirectory

/-- `fs::read_to_string`: the text of the file at a path. -/
def readText (d : Disk) (path : String) : Except DiskError String := do
  match ← d.read path with
  | .text s => return s
  | .binary _ => throw .notText

/-- `fs::write`: writes a file, over the one that stands there. -/
def write (d : Disk) (path : String) (content : Content) : Except DiskError Disk :=
  if path.toList.getLast? = some '/' then
    match d.lookup path with
    | .ok _ => .error .isADirectory
    | .error .notFound =>
      match d.resolve (Path.dropSlashes path) with
      | .ok _ => .error .isADirectory
      | .error e => .error e
    | .error e => .error e
  else do
    let p ← d.resolve path
    match d.at? p with
    | some .directory => throw .isADirectory
    | _ => return d.put p (.file content)

/-- `fs::copy`: copies a file over another one, or to a new place. -/
def copy (d : Disk) (source target : String) : Except DiskError Disk := do
  match ← d.lookup source with
  | .file content => d.write target content
  | .directory => throw .notRegular

/-- `fs::create_dir`: makes one directory. -/
def makeDirectory (d : Disk) (path : String) : Except DiskError Disk := do
  let p ← d.resolve (if Path.parts path = [] then path else Path.dropSlashes path)
  match d.at? p with
  | some _ => throw .alreadyExists
  | none => return d.put p .directory

/-- Makes one directory, or keeps the one that stands there. -/
def ensureDirectory (d : Disk) (path : String) : Except DiskError Disk :=
  match d.makeDirectory path with
  | .ok d => .ok d
  | .error e => if d.isDirectory path then .ok d else .error e

/-- The outcome of an operation, with the disk after it: as it was, if the operation is refused. -/
def settle (d : Disk) : Except DiskError Disk → Except DiskError Unit × Disk
  | .ok d => (.ok (), d)
  | .error e => (.error e, d)

/-- Makes the directory of a path, given the paths above it, the nearest first. A directory that
stands there already is kept. -/
def makeAlong (d : Disk) :
    (path : String) → (above : List String) → Except DiskError Unit × Disk
  | path, [] => d.settle (d.ensureDirectory path)
  | path, up :: above =>
    match d.makeDirectory path with
    | .error .notFound =>
      match d.makeAlong up above with
      | (.ok (), d) => d.settle (d.ensureDirectory path)
      | (.error e, d) => (.error e, d)
    | _ => d.settle (d.ensureDirectory path)

/-- `fs::create_dir_all`: makes a directory and all the directories above it that are missing. If
that is refused, those that were made are left. -/
def makeDirectories (d : Disk) (path : String) : Except DiskError Unit × Disk :=
  d.makeAlong path (Path.above path)

/-- `fs::remove_file`: removes the file at a path. -/
def removeFile (d : Disk) (path : String) : Except DiskError Disk := do
  let p ← d.resolve path
  match d.at? p with
  | none => throw .notFound
  | some .directory => throw .isADirectory
  | some (.file _) => return d.cut p

/-- `fs::remove_dir_all`: removes a directory and all that it holds. A path that ends in `..` names
the directory from within, and such a directory is only emptied. -/
def removeTree (d : Disk) (path : String) : Except DiskError Disk := do
  let p ← d.resolve path
  match d.at? p with
  | none => throw .notFound
  | some (.file _) => throw .notADirectory
  | some .directory =>
    return if (Path.parts path).getLast? = some ".." then d.clear p else d.cut p

/-- The disk after an operation, or as it was if the operation is refused. -/
def attempt (d : Disk) (operation : Disk → Except DiskError Disk) : Disk :=
  match operation d with
  | .ok d => d
  | .error _ => d

/-- The regular files below a place, by the names that lead on from it. -/
def filesBelow (d : Disk) (p : Place) : List (Place × Content) :=
  d.entries.filterMap fun (q, e) =>
    match e with
    | .file c => if p.isPrefixOf q then some (q.drop p.length, c) else none
    | .directory => none

/-- The directories below a place that hold nothing. -/
def emptyDirectoriesBelow (d : Disk) (p : Place) : List Place :=
  d.entries.filterMap fun (q, e) =>
    if e = .directory ∧ p.isPrefixOf q ∧ p ≠ q ∧ d.entries.all (fun x => x.1.dropLast ≠ q) then
      some (q.drop p.length)
    else none

end Disk

end Slipway
