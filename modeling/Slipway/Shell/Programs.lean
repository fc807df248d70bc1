import Slipway.Disk.Overlay
import Slipway.Regex.Search
import Slipway.Shell.Printf
import Slipway.Text.Lines

/-!
# Programs on files

The small programs that scripts use on files. Each one is given its arguments, its input and the
disk, and leaves an `Effect`.
-/

namespace Slipway.Shell

/-- What a program leaves: its status, what it wrote, and the disk. -/
structure Effect where
  status : Nat
  out : Bytes
  err : Bytes
  disk : Disk

/-- A program: what it does in a directory, with arguments and an input. -/
abbrev Program := (cwd : String) → (args : List String) → (input : Bytes) → Disk → Effect

namespace Program

/-- An effect that only is a status. -/
def quiet (status : Nat) (disk : Disk) : Effect := ⟨status, [], [], disk⟩

/-- An effect that fails with a message. -/
def failing (message : String) (disk : Disk) : Effect := ⟨1, [], bytesOf (message ++ "\n"), disk⟩

/-- Runs an effect after another one; the first status other than zero counts. -/
def Effect.andThen (e : Effect) (next : Disk → Effect) : Effect :=
  let f := next e.disk
  ⟨if e.status = 0 then f.status else e.status, e.out ++ f.out, e.err ++ f.err, f.disk⟩

/-- Runs an operation for each operand. -/
def forEach (operation : String → Disk → Effect) (operands : List String) (disk : Disk) : Effect :=
  operands.foldl (fun e operand => Effect.andThen e (operation operand)) (quiet 0 disk)

/-- The letters of the options, and the operands. -/
def options (args : List String) : List Char × List String :=
  let isOption (a : String) : Bool := a.toList.head? = some '-' && a ≠ "-" && a ≠ "--"
  let before := args.takeWhile (· ≠ "--")
  let after := args.drop (before.length + 1)
  ((before.filter isOption).flatMap fun a => a.toList.drop 1, before.filter (!isOption ·) ++ after)

/-- An operand in a message. -/
def shown (operand : String) : String := s!"'{operand}'"

/-- What an operation of the disk leaves; its refusal is told by a message. -/
def change (told : String) : Except DiskError Unit × Disk → Effect
  | (.ok (), disk) => quiet 0 disk
  | (.error e, disk) => failing s!"{told}: {e.reason}" disk

/-- Writes files, or the input, one after the other. -/
def cat : Program := fun cwd args input disk =>
  let (_, operands) := options args
  let write (operand : String) (disk : Disk) : Effect :=
    if operand = "-" then ⟨0, input, [], disk⟩
    else
      match disk.read (Path.join cwd operand) with
      | .ok c => ⟨0, c.bytes.toList, [], disk⟩
      | .error e => failing s!"cat: {operand}: {e.reason}" disk
  forEach write (if operands = [] then ["-"] else operands) disk

/-- Removes files, and directories if asked for. -/
def rm : Program := fun cwd args _ disk =>
  let (letters, operands) := options args
  let force := letters.contains 'f'
  let deep := letters.contains 'r' || letters.contains 'R'
  let remove (operand : String) (disk : Disk) : Effect :=
    let path := Path.join cwd operand
    match if deep then disk.removeAny path else disk.removeFile path with
    | .ok disk => quiet 0 disk
    | .error e =>
      if force ∧ (e = .notFound ∨ e = .notADirectory) then quiet 0 disk
      else failing s!"rm: cannot remove {shown operand}: {e.reason}" disk
  if operands = [] ∧ !force then
    failing "rm: missing operand\nTry 'rm --help' for more information." disk
  else forEach remove operands disk

/-- Makes directories. -/
def mkdir : Program := fun cwd args _ disk =>
  let (letters, operands) := options args
  let make (operand : String) (disk : Disk) : Effect :=
    let path := Path.join cwd operand
    change s!"mkdir: cannot create directory {shown operand}" <|
      if letters.contains 'p' then disk.makeDirectories path
      else disk.settle (disk.makeDirectory path)
  forEach make operands disk

/-- Removes empty directories. -/
def rmdir : Program := fun cwd args _ disk =>
  let (_, operands) := options args
  let remove (operand : String) (disk : Disk) : Effect :=
    let told := s!"rmdir: failed to remove {shown operand}"
    match disk.resolve (Path.join cwd operand) with
    | .error e => failing s!"{told}: {e.reason}" disk
    | .ok p =>
      match disk.at? p with
      | none => failing s!"{told}: {DiskError.notFound.reason}" disk
      | some (.file _) => failing s!"{told}: {DiskError.notADirectory.reason}" disk
      | some .directory =>
        if disk.entries.any fun e => e.1 ≠ p ∧ p.isPrefixOf e.1 then
          failing s!"{told}: Directory not empty" disk
        else quiet 0 (disk.cut p)
  forEach remove operands disk

/-- Makes files that are missing. -/
def touch : Program := fun cwd args _ disk =>
  let (_, operands) := options args
  let make (operand : String) (disk : Disk) : Effect :=
    let path := Path.join cwd operand
    if disk.pathExists path then quiet 0 disk
    else
      change s!"touch: cannot touch {shown operand}" (disk.settle (disk.write path (.text "")))
  forEach make operands disk

/-- The path to which a file or directory is copied or moved: below a directory it keeps its
name. -/
def targetPath (disk : Disk) (source target : String) : String :=
  if disk.isDirectory target then Path.join target ((Path.fileName? source).getD "") else target

/-- Puts what stands at a place and below it at another place, too. -/
def graft (disk : Disk) (source target : Place) : Disk :=
  let moved := disk.entries.filterMap fun e =>
    if source.isPrefixOf e.1 then some (target ++ e.1.drop source.length, e.2) else none
  moved.foldl (fun d e => d.put e.1 e.2) disk

/-- Copies or moves one operand. -/
def transfer (name : String) (deep keep : Bool) (cwd target operand : String) (disk : Disk) :
    Effect :=
  let source := Path.join cwd operand
  let goal := targetPath disk source (Path.join cwd target)
  match disk.lookup source, disk.resolve source, disk.resolve goal with
  | .error e, _, _ | _, .error e, _ =>
    failing s!"{name}: cannot stat {shown operand}: {e.reason}" disk
  | .ok entry, .ok p, .ok q =>
    if entry = .directory ∧ !deep then
      failing s!"{name}: -r not specified; omitting directory {shown operand}" disk
    else
      let grafted := graft disk p q
      quiet 0 (if keep ∨ p = q then grafted else grafted.cut p)
  | _, _, .error e =>
    let verb := if keep then "create regular file" else "move"
    failing s!"{name}: cannot {verb} {shown (if keep then target else operand)}: {e.reason}" disk

/-- Copies or moves all operands but the last one to the last one. -/
def transferAll (name : String) (deep keep : Bool) (cwd : String) (operands : List String)
    (disk : Disk) : Effect :=
  match operands.reverse with
  | target :: s :: sources =>
    forEach (transfer name deep keep cwd target) (s :: sources).reverse disk
  | _ => failing s!"{name}: missing file operand" disk

/-- Copies files, and directories if asked for. -/
def cp : Program := fun cwd args _ disk =>
  let (letters, operands) := options args
  let deep := letters.contains 'r' || letters.contains 'R' || letters.contains 'a'
  transferAll "cp" deep true cwd operands disk

/-- Moves files and directories. -/
def mv : Program := fun cwd args _ disk =>
  transferAll "mv" true false cwd (options args).2 disk

/-- Whether an expression of `test` holds. -/
def holds (cwd : String) (disk : Disk) : List String → Bool
  | "!" :: args => !holds cwd disk args
  | [s] => s ≠ ""
  | ["-n", s] => s ≠ ""
  | ["-z", s] => s = ""
  | ["-e", p] => disk.pathExists (Path.join cwd p)
  | ["-d", p] => disk.isDirectory (Path.join cwd p)
  | ["-f", p] | ["-r", p] | ["-w", p] => (disk.read (Path.join cwd p)).toOption.isSome
  | ["-s", p] =>
    match disk.read (Path.join cwd p) with
    | .ok c => 0 < c.bytes.size
    | .error _ => false
  | [a, "=", b] => a = b
  | [a, "!=", b] => a ≠ b
  | [a, "-eq", b] => Printf.integerOf a = Printf.integerOf b
  | [a, "-ne", b] => Printf.integerOf a ≠ Printf.integerOf b
  | [a, "-lt", b] => Printf.integerOf a < Printf.integerOf b
  | [a, "-le", b] => Printf.integerOf a ≤ Printf.integerOf b
  | [a, "-gt", b] => Printf.integerOf b < Printf.integerOf a
  | [a, "-ge", b] => Printf.integerOf b ≤ Printf.integerOf a
  | _ => false

/-- Tells by its status whether an expression holds. -/
def test : Program := fun cwd args _ disk => quiet (if holds cwd disk args then 0 else 1) disk

/-- As `test`, with a closing bracket as the last argument. -/
def bracket : Program := fun cwd args input disk => test cwd args.dropLast input disk

/-- A basic expression as a regular expression: signs that are plain there are escaped. -/
def basicPattern : List Char → List Char
  | [] => []
  | '\\' :: c :: cs =>
    if "+?|()".toList.contains c then c :: basicPattern cs else '\\' :: c :: basicPattern cs
  | c :: cs =>
    if "+?|()".toList.contains c ∨ c = '\x7b' ∨ c = '\x7d' then '\\' :: c :: basicPattern cs
    else c :: basicPattern cs

/-- Shows the lines that match an expression; quietly if asked for. -/
def grep : Program := fun cwd args input disk =>
  let (letters, operands) := options args
  match operands with
  | [] => ⟨2, [], [], disk⟩
  | pattern :: files =>
    let source :=
      if letters.contains 'F' then Regex.escape pattern.toList
      else if letters.contains 'E' then pattern.toList
      else basicPattern pattern.toList
    let texts := if files = [] then [(String.fromUTF8? input.toByteArray).getD ""]
      else files.filterMap fun f => (disk.readText (Path.join cwd f)).toOption
    match Regex.compile source with
    | .error _ => ⟨2, [], [], disk⟩
    | .ok p =>
      let selects (line : List Char) : Bool :=
        (Regex.matchFrom? p line.toArray 0).isSome != letters.contains 'v'
      let found := (texts.flatMap fun t => Text.lines t.toList).filter selects
      let out := if letters.contains 'q' then []
        else found.flatMap fun line => bytesOfChars line ++ [10]
      ⟨if found = [] then 1 else 0, out, [], disk⟩

/-- Whether a name is listed: names that start with a dot are hidden, unless asked for. -/
def isListed (hidden : Bool) (name : String) : Bool := hidden || name.toList.head? ≠ some '.'

/-- The names in a directory, in their order. -/
def namesIn (disk : Disk) (p : Place) : List String :=
  (disk.entries.filterMap fun e =>
    if e.1 ≠ [] ∧ e.1.dropLast = p then e.1.getLast? else none).mergeSort fun a b => decide (a ≤ b)

/-- Lists files, and then what is in directories. -/
def ls : Program := fun cwd args _ disk =>
  let (letters, operands) := options args
  let operands := (if operands = [] then ["."] else operands).mergeSort fun a b => decide (a ≤ b)
  let looked := operands.map fun o =>
    (o, disk.resolve (Path.join cwd o), disk.lookup (Path.join cwd o))
  let missing := looked.filterMap fun (o, _, e) =>
    match e with
    | .error cause => some s!"ls: cannot access {shown o}: {cause.reason}\n"
    | .ok _ => none
  let files := looked.filterMap fun (o, _, e) =>
    match e with
    | .ok (.file _) => some s!"{o}\n"
    | _ => none
  let own := if letters.contains 'a' then [".", ".."] else []
  let hidden := letters.contains 'a' || letters.contains 'A'
  let directories := looked.filterMap fun (o, p, e) =>
    match p, e with
    | .ok p, .ok .directory =>
      let names := own ++ (namesIn disk p).filter (isListed hidden)
      let heading := if operands.length = 1 then "" else s!"{o}:\n"
      some (heading ++ String.join (names.map (· ++ "\n")))
    | _, _ => none
  let blocks := (if files = [] then [] else [String.join files]) ++ directories
  ⟨if missing = [] then 0 else 2, bytesOf ("\n".intercalate blocks), bytesOf (String.join missing),
    disk⟩

/-- The programs by their names. -/
def named? : String → Option Program
  | "true" => some fun _ _ _ disk => quiet 0 disk
  | "false" => some fun _ _ _ disk => quiet 1 disk
  | "echo" => some fun _ args _ disk => ⟨0, Printf.echo false args, [], disk⟩
  | "printf" => some fun _ args _ disk =>
    ⟨0, Printf.printf (args.head?.getD "") (args.drop 1), [], disk⟩
  | "pwd" => some fun cwd _ _ disk => ⟨0, bytesOf (cwd ++ "\n"), [], disk⟩
  | "cat" => some cat
  | "ls" => some ls
  | "rm" => some rm
  | "mkdir" => some mkdir
  | "rmdir" => some rmdir
  | "touch" => some touch
  | "cp" => some cp
  | "mv" => some mv
  | "test" => some test
  | "[" => some bracket
  | "grep" => some grep
  | "sleep" => some fun _ _ _ disk => quiet 0 disk
  | "chmod" => some fun _ _ _ disk => quiet 0 disk
  | _ => none

end Program

end Slipway.Shell
