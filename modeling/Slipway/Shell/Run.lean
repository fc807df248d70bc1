import Slipway.Shell.Programs
import Slipway.Shell.Script
import Slipway.Text.Lossy

/-!
# Running shell scripts

A script runs by recursion on its syntax. It works on the disk and writes bytes to its output and
its error output. A signal to the shell itself ends it with status -1.
-/

namespace Slipway.Shell

/-- A shell at work. -/
structure Interpreter where
  disk : Disk
  cwd : String
  status : Nat
  out : Bytes
  err : Bytes
  bindings : List (String × String)
  arguments : List String
  /-- A command that fails ends the shell. -/
  failsFast : Bool
  /-- The status with which the shell has ended, if it has. -/
  ended : Option Int

/-- How a program is launched: nothing is given for a name that no program has. -/
abbrev Launcher := (cwd name : String) → (args : List String) → Bytes → Disk → Option Effect

namespace Interpreter

/-- What the number of the shell's process is shown as. -/
def processText : String := "4711"

/-- The value of a parameter. -/
def parameter (sh : Interpreter) (name : List Char) : String :=
  if name = ['?'] then toString sh.status
  else if name = ['$'] then processText
  else if name = ['#'] then toString (sh.arguments.length - 1)
  else if name = ['@'] ∨ name = ['*'] then " ".intercalate (sh.arguments.drop 1)
  else if name.all Char.isDigit then (sh.arguments[Text.numeralValue name]?).getD ""
  else ((sh.bindings.find? fun v => v.1.toList = name).map Prod.snd).getD ""

/-- The text of a piece. -/
def pieceText (sh : Interpreter) : Piece → String
  | .text _ cs => String.ofList cs
  | .parameter _ name => sh.parameter name

/-- Whether a piece keeps its word when it is empty. -/
def Piece.isQuoted : Piece → Bool
  | .text quoted _ => quoted
  | .parameter quoted _ => quoted

/-- The text of a word. -/
def wordText (sh : Interpreter) (w : Word) : String := String.join (w.map sh.pieceText)

/-- The text of a word, unless nothing is left of it. -/
def expand? (sh : Interpreter) (w : Word) : Option String :=
  let text := sh.wordText w
  if text = "" ∧ !w.any Piece.isQuoted then none else some text

/-- The name and the value of a word that assigns to a variable. -/
def assignment? (read : List Char) : Word → Option (List Char × Word)
  | .text false [c] :: w =>
    if c = '=' then if read = [] then none else some (read.reverse, w)
    else if Token.isNameChar c ∧ (read ≠ [] ∨ !c.isDigit) then assignment? (c :: read) w
    else none
  | _ => none

/-- Sets a variable. -/
def assign (sh : Interpreter) (name value : String) : Interpreter :=
  { sh with bindings := (name, value) :: sh.bindings.filter fun v => v.1 ≠ name }

/-- Carries out the assignments at the start of a command; gives the other words. -/
def assignAll (sh : Interpreter) : List Word → Interpreter × List Word
  | [] => (sh, [])
  | w :: ws =>
    match assignment? [] w with
    | some (name, value) => assignAll (sh.assign (String.ofList name) (sh.wordText value)) ws
    | none => (sh, w :: ws)

/-! ## Redirections -/

/-- Where bytes go. -/
inductive Sink where
  | out
  | err
  | file (path : String)
  | nowhere

/-- Where the input comes from, and where the two outputs go. -/
structure Streams where
  input : Bytes
  out : Sink
  err : Sink

/-- The path that takes every output and gives no input. -/
def nullPath : String := "/dev/null"

/-- A message of the shell. -/
def complain (sh : Interpreter) (message : String) : Interpreter :=
  { sh with err := sh.err ++ bytesOf s!"sh: 1: {message}\n" }

/-- Sets the target of a descriptor. -/
def Streams.set (s : Streams) (descriptor : Nat) (sink : Sink) : Streams :=
  if descriptor = 1 then { s with out := sink }
  else if descriptor = 2 then { s with err := sink }
  else s

/-- The reason that the shell gives for a file that it cannot create. -/
def createReason : DiskError → String
  | .notFound | .notADirectory => "Directory nonexistent"
  | e => e.reason

/-- Opens a file for output. -/
def openOutput (sh : Interpreter) (s : Streams) (descriptor : Nat) (append : Bool)
    (target : String) : Except String (Interpreter × Streams) :=
  if target = nullPath then .ok (sh, s.set descriptor .nowhere)
  else
    let path := Path.join sh.cwd target
    let kept := append && (sh.disk.read path).toOption.isSome
    match if kept then .ok sh.disk else sh.disk.write path (.text "") with
    | .ok disk => .ok ({ sh with disk := disk }, s.set descriptor (.file path))
    | .error e => .error s!"cannot create {target}: {createReason e}"

/-- Carries out a redirection, or tells why it cannot be carried out. -/
def redirect (sh : Interpreter) (s : Streams) (r : Redirect) :
    Except String (Interpreter × Streams) :=
  let target := sh.wordText r.target
  match r.kind with
  | .overwrite => openOutput sh s r.descriptor false target
  | .append => openOutput sh s r.descriptor true target
  | .duplicate =>
    if target = "1" then .ok (sh, s.set r.descriptor s.out)
    else if target = "2" then .ok (sh, s.set r.descriptor s.err)
    else .ok (sh, s.set r.descriptor .nowhere)
  | .input =>
    if target = nullPath then .ok (sh, { s with input := [] })
    else
      match sh.disk.read (Path.join sh.cwd target) with
      | .ok c => .ok (sh, { s with input := c.bytes.toList })
      | .error .notFound => .error s!"cannot open {target}: No such file"
      | .error e => .error s!"cannot open {target}: {e.reason}"

/-- Carries out redirections from left to right. -/
def redirectAll (sh : Interpreter) (s : Streams) :
    List Redirect → Except String (Interpreter × Streams)
  | [] => .ok (sh, s)
  | r :: rs => do
    let (sh, s) ← sh.redirect s r
    redirectAll sh s rs

/-- Sends bytes to where they go. -/
def send (sh : Interpreter) (bytes : Bytes) : Sink → Interpreter
  | .out => { sh with out := sh.out ++ bytes }
  | .err => { sh with err := sh.err ++ bytes }
  | .nowhere => sh
  | .file path =>
    match sh.disk.read path with
    | .error _ => sh
    | .ok c =>
      let content := Content.ofBytes (c.bytes ++ bytes.toByteArray)
      { sh with disk := sh.disk.attempt (·.write path content) }

/-! ## Commands of the shell itself -/

/-- Signals that do not end a shell. -/
def harmlessSignals : List String :=
  ["0", "CHLD", "SIGCHLD", "17", "CONT", "SIGCONT", "18", "URG", "SIGURG", "23", "WINCH",
   "SIGWINCH", "28"]

/-- The signal that `kill` sends, and the processes to which it goes. -/
def killArguments : List String → String × List String
  | "-s" :: signal :: args => (signal, args)
  | arg :: args =>
    match arg.toList with
    | '-' :: signal => (String.ofList signal, args)
    | _ => ("TERM", arg :: args)
  | [] => ("TERM", [])

/-- Sends a signal. Only the shell itself is there to receive it. -/
def kill (sh : Interpreter) (args : List String) : Interpreter :=
  let (signal, targets) := killArguments args
  if targets.contains processText then
    if harmlessSignals.contains signal then { sh with status := 0 }
    else { sh with ended := some (-1) }
  else { sh.complain "kill: No such process" with status := 1 }

/-- The variable that holds the directory. -/
def dirVariable : String := "PWD"

/-- Changes the directory. -/
def changeDirectory (sh : Interpreter) (target : String) : Interpreter :=
  let path := Path.join sh.cwd target
  match sh.disk.resolve path with
  | .ok p =>
    if sh.disk.at? p = some .directory then
      let here := "/" ++ "/".intercalate p
      { sh.assign dirVariable here with cwd := here, status := 0 }
    else { sh.complain s!"cd: can't cd to {target}" with status := 2 }
  | .error _ => { sh.complain s!"cd: can't cd to {target}" with status := 2 }

/-- The greatest status that a script may give. -/
def maxStatus : Nat := 0x7fffffff

/-- Reads a status. -/
def status? (arg : String) : Option Nat :=
  let digits := match arg.toList with
    | '+' :: cs => cs
    | cs => cs
  if digits ≠ [] ∧ digits.all Text.isDigit ∧ Text.numeralValue digits ≤ maxStatus then
    some (Text.numeralValue digits)
  else none

/-- Ends the shell with a status. -/
def finish (sh : Interpreter) (status : Nat) : Interpreter :=
  { sh with status := status % 256, ended := some (status % 256 : Nat) }

/-- Ends the shell with the status that is given, or with the last one. -/
def exit (sh : Interpreter) : List String → Interpreter
  | [] => sh.finish sh.status
  | arg :: _ =>
    match status? arg with
    | some status => sh.finish status
    | none => (sh.complain s!"exit: Illegal number: {arg}").finish 2

/-- Sets options of the shell. -/
def setOptions (sh : Interpreter) (args : List String) : Interpreter :=
  let gives (sign : Char) : Bool :=
    args.any fun a => a.toList.head? = some sign && a.toList.contains 'e'
  { sh with status := 0, failsFast := !gives '+' && (sh.failsFast || gives '-') }

/-- Runs a command of the shell itself, if there is one of the name. -/
def builtin? (sh : Interpreter) (name : String) (args : List String) : Option Interpreter :=
  match name with
  | ":" => some { sh with status := 0 }
  | "exit" => some (sh.exit args)
  | "echo" => some { sh with status := 0, out := sh.out ++ Printf.echo true args }
  | "set" => some (sh.setOptions args)
  | "cd" => some (sh.changeDirectory (args.head?.getD sh.cwd))
  | "kill" => some (sh.kill args)
  | "unset" | "export" | "umask" | "wait" | "trap" => some { sh with status := 0 }
  | _ => none

/-- The message and the status for a program that cannot be launched. -/
def cannotLaunch (sh : Interpreter) (told name : String) : Interpreter :=
  if name.toList.contains '/' ∧ sh.disk.pathExists (Path.join sh.cwd name) then
    { sh.complain s!"{told}{name}: Permission denied" with status := 126 }
  else { sh.complain s!"{told}{name}: not found" with status := 127 }

/-- Runs a program; `told` stands before its name in a message. -/
def runProgram (launch : Launcher) (told name : String) (args : List String) (input : Bytes)
    (sh : Interpreter) : Interpreter :=
  match launch sh.cwd name args input sh.disk with
  | some e =>
    { sh with disk := e.disk, status := e.status, out := sh.out ++ e.out, err := sh.err ++ e.err }
  | none => sh.cannotLaunch told name

/-- Runs a command: one of the shell itself, a program, or a program instead of the shell. -/
def runCommand (launch : Launcher) (name : String) (args : List String) (input : Bytes)
    (sh : Interpreter) : Interpreter :=
  match name, args with
  | "exec", [] => { sh with status := 0 }
  | "exec", name :: args =>
    let sh := runProgram launch "exec: " name args input sh
    sh.finish sh.status
  | _, _ =>
    match sh.builtin? name args with
    | some sh => sh
    | none => runProgram launch "" name args input sh

/-- Runs a simple command: assignments, redirections, and the command itself. -/
def runSimple (launch : Launcher) (c : SimpleCommand) (input : Bytes) (sh : Interpreter) :
    Interpreter :=
  let (sh, words) := sh.assignAll c.words
  match sh.redirectAll ⟨input, .out, .err⟩ c.redirects with
  | .error message => { sh.complain message with status := 2 }
  | .ok (sh, streams) =>
    match words.filterMap sh.expand? with
    | [] => { sh with status := 0 }
    | name :: args =>
      let ran := runCommand launch name args streams.input { sh with out := [], err := [] }
      let after := { ran with out := sh.out, err := sh.err }
      (after.send ran.out streams.out).send ran.err streams.err

/-! ## Scripts -/

/-- Takes over what a shell of its own has done: the disk, the output and the status. A signal ends
both. -/
def join (sh inner : Interpreter) : Interpreter :=
  let ended := if inner.ended = some (-1) then inner.ended else none
  { sh with disk := inner.disk, out := inner.out, err := inner.err, status := inner.status,
            ended := ended }

/-- Ends a shell that fails fast after a command that has failed, unless the status is tested. -/
def check (tested : Bool) (sh : Interpreter) : Interpreter :=
  if sh.failsFast && !tested && sh.status ≠ 0 && sh.ended.isNone then sh.finish sh.status else sh

/-- Runs a script. The flag tells that its status is tested. -/
def run (launch : Launcher) : Script → (tested : Bool) → (input : Bytes) → Interpreter → Interpreter
  | .nothing, _, _, sh => sh
  | .simple c, tested, input, sh =>
    if sh.ended.isSome then sh else (sh.runSimple launch c input).check tested
  | .sequence a b, tested, input, sh =>
    let sh := run launch a tested input sh
    if sh.ended.isSome then sh else run launch b tested input sh
  | .andIf a b, tested, input, sh =>
    let sh := run launch a true input sh
    if sh.ended.isSome ∨ sh.status ≠ 0 then sh else run launch b tested input sh
  | .orIf a b, tested, input, sh =>
    let sh := run launch a true input sh
    if sh.ended.isSome ∨ sh.status = 0 then sh else run launch b tested input sh
  | .pipe a b, tested, input, sh =>
    let first := run launch a tested input { sh with out := [] }
    let joined := { sh.join first with out := sh.out }
    if joined.ended.isSome then joined
    else (joined.join (run launch b tested first.out joined)).check tested
  | .negation a, _, input, sh =>
    let sh := run launch a true input sh
    if sh.ended.isSome then sh else { sh with status := if sh.status = 0 then 1 else 0 }
  | .subshell a, tested, input, sh => (sh.join (run launch a tested input sh)).check tested
  | .branch c a b, tested, input, sh =>
    let sh := run launch c true input sh
    if sh.ended.isSome then sh
    else if sh.status = 0 then run launch a tested input sh
    else run launch b tested input { sh with status := 0 }

/-- A shell before its first command. -/
def start (cwd : String) (failsFast : Bool) (arguments : List String) (disk : Disk) : Interpreter :=
  ⟨disk, cwd, 0, [], [], [(dirVariable, cwd)], arguments, failsFast, none⟩

/-- The status with which a shell ends. -/
def exitStatus (sh : Interpreter) : Int := sh.ended.getD sh.status

/-- What a shell is given: whether it fails fast, the text of a script, and its arguments, the name
of the shell first. -/
structure Invocation where
  failsFast : Bool
  text : String
  arguments : List String

/-- Runs the text of a script. -/
def runText (launch : Launcher) (cwd : String) (i : Invocation) (input : Bytes) (disk : Disk) :
    Interpreter :=
  let sh := start cwd i.failsFast i.arguments disk
  match Script.read? i.text with
  | some s => run launch s false input sh
  | none => { sh.complain "Syntax error" with status := 2 }

end Interpreter

end Slipway.Shell
