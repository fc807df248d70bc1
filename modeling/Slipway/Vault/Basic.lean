import Slipway.Error

/-!
# The vault

Model of `BackupVault` and `BackupSet` (`keel_core::backup`). Before a release changes files, it
copies them into the vault, a directory that must not exist yet. `Vault.capture` makes the copies,
one slot per file, `Vault.restore` copies them back, and `Vault.discard` removes the directory. A
capture that fails removes the directory again, but not the directories above it that it had to
make.
-/

namespace Slipway

/-- `Snapshot`: a path that was captured. A path at which nothing stood has no slot. -/
structure CapturedPath where
  path : String
  slot : Option String
  deriving DecidableEq, Repr

/-- `BackupSet`: the directory that a capture makes, and the captured paths in their order. -/
structure BackupSet where
  dir : String
  paths : List CapturedPath
  deriving DecidableEq, Repr

namespace Vault

/-- `MANIFEST_FILE`: the file in the vault that lists slots and paths. -/
def manifestName : String := "MANIFEST"

/-- The name of the file at a path, for its slot. -/
def slotName (path : String) : String := (Path.fileName? path).getD "file"

/-- The slot of a path. Its number makes it differ from the other slots. -/
def slotPath (dir : String) (index : Nat) (path : String) : String :=
  Path.join dir s!"{Text.padded 2 index}-{slotName path}"

/-- The path of the manifest. -/
def manifestPath (dir : String) : String := Path.join dir manifestName

/-- The line of the manifest for a captured path. -/
def manifestLine (c : CapturedPath) : String :=
  match c.slot with
  | some slot => s!"{slot}\t{c.path}\n"
  | none => ""

/-- The text of the manifest. -/
def manifestText (paths : List CapturedPath) : String := String.join (paths.map manifestLine)

/-- `copy_all`: copies paths into slots, from a number on. -/
def copyAll (dir : String) :
    (index : Nat) → List String → Disk → Except ReleaseError (List CapturedPath) × Disk
  | _, [], disk => (.ok [], disk)
  | index, path :: paths, disk =>
    if !disk.pathExists path then
      let (rest, disk) := copyAll dir (index + 1) paths disk
      (rest.map fun captured => ⟨path, none⟩ :: captured, disk)
    else
      let slot := slotPath dir index path
      match disk.copy path slot with
      | .error cause => (.error (.backupStaging path cause), disk)
      | .ok disk =>
        let (rest, disk) := copyAll dir (index + 1) paths disk
        (rest.map fun captured => ⟨path, some slot⟩ :: captured, disk)

/-- Fills a vault whose directory is there: the slots, then the manifest. -/
def fill (dir : String) (paths : List String) (disk : Disk) :
    Except ReleaseError BackupSet × Disk :=
  match copyAll dir 0 paths disk with
  | (.error e, disk) => (.error e, disk)
  | (.ok captured, disk) =>
    match disk.write (manifestPath dir) (.text (manifestText captured)) with
    | .error cause => (.error (.backupStaging (manifestPath dir) cause), disk)
    | .ok disk => (.ok ⟨dir, captured⟩, disk)

/-- `BackupVault::capture`: copies every path at which something stands into a slot of its own. -/
def capture (dir : String) (paths : List String) (disk : Disk) :
    Except ReleaseError BackupSet × Disk :=
  if disk.pathExists dir then (.error (.staleBackup dir), disk)
  else
    match disk.makeDirectories dir with
    | (.error cause, made) => (.error (.backupStaging dir cause), made)
    | (.ok (), made) =>
      match fill dir paths made with
      | (.ok set, filled) => (.ok set, filled)
      | (.error e, filled) => (.error e, filled.attempt (·.removeTree dir))

/-- Adds the outcome of one path to the front of a report. -/
def restoreOne (c : CapturedPath) (disk : Disk) : (RestoreReport → RestoreReport) × Disk :=
  match c.slot with
  | none => (fun r => { r with skipped := c.path :: r.skipped }, disk)
  | some slot =>
    if !disk.pathExists slot then (fun r => { r with skipped := c.path :: r.skipped }, disk)
    else
      match disk.copy slot c.path with
      | .ok disk => (fun r => { r with restored := c.path :: r.restored }, disk)
      | .error cause =>
        (fun r => { r with failed := (c.path, cause.message) :: r.failed }, disk)

/-- Copies slots back to their paths. -/
def restoreAll : List CapturedPath → Disk → RestoreReport × Disk
  | [], disk => (.empty, disk)
  | c :: paths, disk =>
    let (add, disk) := restoreOne c disk
    let (report, disk) := restoreAll paths disk
    (add report, disk)

/-- `BackupVault::restore`: copies every slot back to its path, as far as it goes. -/
def restore (set : BackupSet) (disk : Disk) : RestoreReport × Disk := restoreAll set.paths disk

/-- `BackupVault::discard`: removes the directory of a set, if it is still there. -/
def discard (set : BackupSet) (disk : Disk) : Except ReleaseError Disk :=
  if disk.pathExists set.dir then ofDisk (disk.removeTree set.dir) else .ok disk

end Vault

end Slipway
