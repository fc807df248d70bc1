import Slipway.Version.Basic

/-!
# Arguments

Model of `Cli` and `Commands` (`keel::cli`) with the arguments of each command (`keel::commands`),
as `clap` reads them. The grammar of the command line. Options come in a long and perhaps a short
form; short ones may be joined, and a value may follow in the same argument or in the next one. What
comes after `--` is no option. Each level of commands has options of its own, two options may be
given at all levels.
-/

namespace Slipway.Cli

/-- `Commands`: the commands, and the levels on the way to them. -/
inductive Level where
  | top
  | release
  | version
  | changelog
  | changelogCheck
  | changelogNotes
  | init
  deriving DecidableEq, Repr

/-- The options. -/
inductive Opt where
  | directory
  | verbose
  | help
  | showVersion
  | bumpType
  | major
  | minor
  | patch
  | noDeploy
  | noRelease
  | noPush
  | skipTests
  | dryRun
  | yes
  | force
  deriving DecidableEq, Repr

namespace Opt

/-- The options of a level. -/
def ofLevel : Level → List Opt
  | .top => [directory, verbose, help, showVersion]
  | .release =>
    [directory, verbose, help, bumpType, major, minor, patch, noDeploy, noRelease, noPush,
     skipTests, dryRun, yes]
  | .version => [directory, verbose, help, bumpType]
  | .changelog | .changelogCheck | .changelogNotes => [directory, verbose, help]
  | .init => [directory, verbose, help, force]

/-- The long form. -/
def long : Opt → String
  | directory => "directory"
  | verbose => "verbose"
  | help => "help"
  | showVersion => "version"
  | bumpType => "bump-type"
  | major => "major"
  | minor => "minor"
  | patch => "patch"
  | noDeploy => "no-deploy"
  | noRelease => "no-release"
  | noPush => "no-push"
  | skipTests => "skip-tests"
  | dryRun => "dry-run"
  | yes => "yes"
  | force => "force"

/-- The short form, if there is one. -/
def short? : Opt → Option Char
  | directory => some 'C'
  | verbose => some 'v'
  | help => some 'h'
  | showVersion => some 'V'
  | bumpType => some 't'
  | dryRun => some 'd'
  | yes => some 'y'
  | force => some 'f'
  | major | minor | patch | noDeploy | noRelease | noPush | skipTests => none

/-- Whether the option takes a value. -/
def takesValue : Opt → Bool
  | directory | bumpType => true
  | _ => false

/-- Whether the option accepts a value. -/
def accepts (o : Opt) (value : String) : Bool :=
  match o with
  | directory => value ≠ ""
  | bumpType => (BumpKind.ofName? value).isSome
  | _ => true

/-- The option of a long form at a level. -/
def ofLong? (level : Level) (name : String) : Option Opt :=
  (ofLevel level).find? fun o => o.long = name

/-- The option of a short form at a level. -/
def ofShort? (level : Level) (c : Char) : Option Opt :=
  (ofLevel level).find? fun o => o.short? = some c

end Opt

/-- The commands of a level, by their names. -/
def Level.commands : Level → List (String × Level)
  | .top =>
    [("release", .release), ("version", .version), ("changelog", .changelog), ("init", .init)]
  | .changelog => [("check", .changelogCheck), ("notes", .changelogNotes)]
  | .release | .version | .changelogCheck | .changelogNotes | .init => []

/-- The number of plain arguments that a level takes. -/
def Level.plainCount : Level → Nat
  | .changelogNotes => 1
  | _ => 0

/-- An option that was given, with its value. -/
structure Given where
  option : Opt
  value : String
  deriving DecidableEq, Repr

/-- What was given at the levels of a command line. -/
structure Invocation where
  level : Level
  /-- The options of all levels, the ones of the innermost level first. -/
  given : List Given
  plain : List String
  deriving DecidableEq, Repr

/-- Why no command runs. -/
inductive Halt where
  | usage
  | help
  | version
  deriving DecidableEq, Repr

namespace Arguments

/-- Adds an option to those of a level. None may be given twice there; two of them end it all. -/
def add (given : List Given) (o : Opt) (value : String) : Except Halt (List Given) :=
  if o = .help then .error .help
  else if o = .showVersion then .error .version
  else if given.any fun g => g.option = o then .error .usage
  else if !o.accepts value then .error .usage
  else .ok (⟨o, value⟩ :: given)

/-- An argument that cannot be the value of an option: it looks like an option itself. -/
def looksLikeOption (arg : String) : Bool := arg.toList.head? = some '-' && arg ≠ "-"

/-- Takes the value of an option from the next argument. -/
def takeNext (given : List Given) (o : Opt) : List String → Except Halt (List Given × List String)
  | value :: args =>
    if looksLikeOption value then .error .usage
    else (add given o value).map fun given => (given, args)
  | [] => .error .usage

/-- Reads a long option, without its dashes. -/
def readLong (level : Level) (given : List Given) (body : List Char) (args : List String) :
    Except Halt (List Given × List String) :=
  let name := String.ofList (body.takeWhile (· ≠ '='))
  match Opt.ofLong? level name with
  | none => .error .usage
  | some o =>
    match body.dropWhile (· ≠ '=') with
    | _ :: value =>
      if o.takesValue then (add given o (String.ofList value)).map fun given => (given, args)
      else .error .usage
    | [] =>
      if o.takesValue then takeNext given o args
      else (add given o "").map fun given => (given, args)

/-- Reads joined short options, without their dash. -/
def readShort (level : Level) (args : List String) :
    (given : List Given) → List Char → Except Halt (List Given × List String)
  | given, [] => .ok (given, args)
  | given, c :: cs =>
    match Opt.ofShort? level c with
    | none => .error .usage
    | some o =>
      if !o.takesValue then
        match add given o "" with
        | .ok given => readShort level args given cs
        | .error h => .error h
      else
        match cs with
        | [] => takeNext given o args
        | '=' :: value => (add given o (String.ofList value)).map fun given => (given, args)
        | value => (add given o (String.ofList value)).map fun given => (given, args)

/-- Two options that exclude each other. -/
def conflicts : List (Opt × Opt) :=
  [(.bumpType, .major), (.bumpType, .minor), (.bumpType, .patch), (.major, .minor),
   (.major, .patch), (.minor, .patch)]

/-- What has been read of a command line: the level that is being read, the options that were given
there and at the levels around it, its plain arguments, and whether `--` was met. -/
structure Reading where
  level : Level
  given : List Given
  outer : List Given
  plain : List String
  ended : Bool

namespace Reading

/-- Nothing has been read. -/
def start : Reading := ⟨.top, [], [], [], false⟩

/-- Whether an option was given at the level. -/
def has (r : Reading) (o : Opt) : Bool := r.given.any fun g => g.option = o

/-- Ends the command line: no options exclude each other, and nothing is missing. -/
def finish (r : Reading) : Except Halt Invocation :=
  if conflicts.any fun c => r.has c.1 && r.has c.2 then .error .usage
  else if r.level.commands ≠ [] ∨ r.plain.length < r.level.plainCount then .error .usage
  else .ok ⟨r.level, r.given ++ r.outer, r.plain⟩

/-- The level of a command of the level that is being read. -/
def inner? (r : Reading) (name : String) : Option Level :=
  if r.ended then none else (r.level.commands.find? fun c => c.1 = name).map Prod.snd

/-- Reads an argument that is no option: the name of a command, or a plain argument. -/
def readPlain (r : Reading) (arg : String) : Except Halt Reading :=
  if r.level.commands ≠ [] then
    if !r.ended ∧ arg = "help" then .error .help
    else
      match r.inner? arg with
      | some level => .ok ⟨level, [], r.given ++ r.outer, [], false⟩
      | none => .error .usage
  else if r.plain.length < r.level.plainCount then .ok { r with plain := r.plain ++ [arg] }
  else .error .usage

end Reading

/-- What an argument looks like. -/
inductive Form where
  | plain
  | terminator
  | long (body : List Char)
  | short (body : List Char)

/-- What an argument looks like. A dash on its own is plain. -/
def Form.of : List Char → Form
  | '-' :: rest =>
    match rest with
    | [] => .plain
    | c :: body =>
      if c ≠ '-' then .short rest
      else if body = [] then .terminator
      else .long body
  | _ => .plain

namespace Reading

/-- Reads an argument, with the ones after it; gives those that are left. -/
def step (r : Reading) (arg : String) (args : List String) :
    Except Halt (Reading × List String) :=
  match if r.ended then .plain else Form.of arg.toList with
  | .plain => (r.readPlain arg).map fun r => (r, args)
  | .terminator => .ok ({ r with ended := true }, args)
  | .long body =>
    (readLong r.level r.given body args).map fun (given, args) => ({ r with given := given }, args)
  | .short body =>
    (readShort r.level args r.given body).map fun (given, args) => ({ r with given := given }, args)

/-- Reads arguments to their end. The fuel is their number. -/
def steps (r : Reading) : (fuel : Nat) → List String → Except Halt Reading
  | _, [] => .ok r
  | 0, _ :: _ => .error .usage
  | fuel + 1, arg :: args =>
    match r.step arg args with
    | .ok (r, args) => r.steps fuel args
    | .error h => .error h

end Reading

/-- Reads a command line. -/
def parse (args : List String) : Except Halt Invocation :=
  (Reading.start.steps args.length args).bind Reading.finish

end Arguments

namespace Invocation

/-- Whether an option was given. -/
def has (i : Invocation) (o : Opt) : Bool := i.given.any fun g => g.option = o

/-- The value of an option; the innermost level counts. -/
def value? (i : Invocation) (o : Opt) : Option String :=
  (i.given.find? fun g => g.option = o).map Given.value

/-- Whether the command may ask the operator. -/
def asks (i : Invocation) : Bool := i.level = .release && !i.has .yes && !i.has .dryRun

/-- `ReleaseArgs::bump_kind`: the component to bump. -/
def bumpKind (i : Invocation) : BumpKind :=
  match (i.value? .bumpType).bind BumpKind.ofName? with
  | some kind => kind
  | none => if i.has .major then .major else if i.has .patch then .patch else .minor

end Invocation

end Slipway.Cli
