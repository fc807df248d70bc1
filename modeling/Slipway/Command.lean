/-!
# Commands

Model of `CommandSpec` and `CommandOutput` (`keel_core::process`). A `Command` is a program with its
arguments, passed verbatim. `Command.line` shows it the way it would be typed at a shell: words that
need no quoting are shown bare, others between single quotes.
-/

namespace Slipway

/-- `CommandSpec`: a program and its arguments. -/
structure Command where
  program : String
  args : List String
  deriving DecidableEq, Repr, Inhabited

namespace Command

/-- `CommandSpec::from_argv`: the command of a list of words, whose first is the program. -/
def ofWords? : List String → Option Command
  | [] => none
  | program :: args => some ⟨program, args⟩

/-- The program and the arguments in one list. -/
def words (c : Command) : List String := c.program :: c.args

/-- A character that is shown bare. -/
def isPlainChar (c : Char) : Bool :=
  c.isAlphanum || ['-', '_', '.', '/', '=', ':', '@', '%', '+', ',', '#'].contains c

/-- A word that is shown bare. -/
def isPlain (word : List Char) : Bool := !word.isEmpty && word.all isPlainChar

/-- One character between single quotes. -/
def quoteChar (c : Char) : List Char :=
  if c = '\'' then ['\'', '\\', '\'', '\''] else [c]

/-- `quote`: a word as it is typed. -/
def quoteWord (word : List Char) : List Char :=
  if isPlain word then word else '\'' :: word.flatMap quoteChar ++ ['\'']

/-- The characters of a command line. -/
def lineChars (c : Command) : List Char :=
  quoteWord c.program.toList ++ c.args.flatMap fun a => ' ' :: quoteWord a.toList

/-- `CommandSpec::fmt`: the command line of a command. -/
def line (c : Command) : String := String.ofList c.lineChars

end Command

/-- `CommandOutput`: what a finished command leaves, that is its exit status, -1 when a signal ended
it, and what it wrote. -/
structure CommandOutput where
  exit : Int
  stdout : String
  stderr : String
  deriving DecidableEq, Repr, Inhabited

/-- `CommandOutput::success`: status zero is success. -/
def CommandOutput.success (o : CommandOutput) : Bool := o.exit == 0

end Slipway
