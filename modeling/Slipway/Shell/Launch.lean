import Slipway.Command
import Slipway.Shell.Run

/-!
# The programs of a machine

Stand for the programs that `SystemExecutor::execute` (`keel_core::process`) launches.
`launchCommand` runs a command on a machine that has a shell and a few programs on files. A program
that is named by a path to something else cannot be launched.
-/

namespace Slipway.Shell

/-- The directories that hold the programs. -/
def programDirs : List String := ["/bin/", "/usr/bin/"]

/-- The name of a program without the directory that holds it. -/
def baseName (name : String) : String :=
  match programDirs.findSome? fun dir => Text.after? dir.toList name.toList with
  | some rest => String.ofList rest
  | none => name

/-- What a shell is asked to do by its arguments. -/
def invocation? : List String → Option Interpreter.Invocation
  | options :: text :: args =>
    let arguments := if args = [] then ["sh"] else args
    if options = "-c" then some ⟨false, text, arguments⟩
    else if options = "-ec" ∨ options = "-ce" then some ⟨true, text, arguments⟩
    else none
  | _ => none

/-- The status of a shell that ends, as another one sees it. -/
def statusOf (exit : Int) : Nat := if exit < 0 then 137 else exit.toNat

/-- Launches a program by its name. Shells may start each other as deep as the fuel allows. -/
def launchNamed : (fuel : Nat) → Launcher
  | 0 => fun cwd name args input disk =>
    (Program.named? (baseName name)).map fun p => p cwd args input disk
  | fuel + 1 => fun cwd name args input disk =>
    if baseName name = "sh" then
      match invocation? args with
      | some i =>
        let sh := Interpreter.runText (launchNamed fuel) cwd i input disk
        some ⟨statusOf sh.exitStatus, sh.out, sh.err, sh.disk⟩
      | none => some (Program.quiet 0 disk)
    else (Program.named? (baseName name)).map fun p => p cwd args input disk

/-- How deep shells may start each other. -/
def maxShellDepth : Nat := 16

/-- The output of an effect. -/
def outputOf (exit : Int) (out err : Bytes) : CommandOutput :=
  ⟨exit, Text.Lossy.decode out, Text.Lossy.decode err⟩

/-- Why a program that is not there cannot be launched. A name without a slash is looked for in the
directories of the programs, where `.` and `..` are directories. -/
def launchError (cwd name : String) (disk : Disk) : DiskError :=
  if name.toList.contains '/' then
    match disk.lookup (Path.join cwd name) with
    | .ok _ => .permissionDenied
    | .error e => e
  else if name = "." ∨ name = ".." then .permissionDenied
  else .notFound

/-- Runs a command in a directory. -/
def launchCommand (cwd : String) (c : Command) (disk : Disk) :
    Except DiskError (CommandOutput × Disk) :=
  if c.words.any fun word => word.toList.contains '\x00' then .error .nulInArgument
  else if baseName c.program = "sh" then
    match invocation? c.args with
    | some i =>
      let sh := Interpreter.runText (launchNamed maxShellDepth) cwd i [] disk
      .ok (outputOf sh.exitStatus sh.out sh.err, sh.disk)
    | none => .ok (outputOf 0 [] [], disk)
  else
    match launchNamed maxShellDepth cwd c.program c.args [] disk with
    | some e => .ok (outputOf e.status e.out e.err, e.disk)
    | none => .error (launchError cwd c.program disk)

end Slipway.Shell
