import Slipway.Shell.Launch
import Slipway.Text.Blank
import Slipway.World.Basic

/-!
# The terminal

Model of `TerminalPrompt` (`keel::prompt`). The world of the command line: commands run on the
machine, and the operator answers questions line by line. Anything but `y` or `yes` declines, the
end of the input too.
-/

namespace Slipway.Cli

/-- The terminal: the input that is left, and what was shown. -/
structure Terminal where
  input : List Char
  shown : String
  deriving DecidableEq, Repr

namespace Terminal

/-- A terminal before anything is shown. -/
def start (input : String) : Terminal := ⟨input.toList, ""⟩

/-- Whether a line agrees. -/
def agrees (line : List Char) : Bool :=
  let answer := (Text.trim line).map Char.toLower
  answer = ['y'] || answer = ['y', 'e', 's']

/-- `TerminalPrompt::confirm`: asks a question on the terminal. -/
def ask (question : String) (t : Terminal) : Reply Terminal :=
  let shown := t.shown ++ question ++ " [y/N] "
  if t.input = [] then ⟨false, false, ⟨[], shown ++ "\n"⟩⟩
  else
    let line := t.input.takeWhile (· ≠ '\n')
    ⟨agrees line, false, ⟨t.input.drop (line.length + 1), shown⟩⟩

/-- Runs a command in a directory. -/
def launch (dir : String) (c : Command) (disk : Disk) (t : Terminal) : Reaction Terminal :=
  match Shell.launchCommand dir c disk with
  | .ok (output, disk) => ⟨.ok output, disk, false, t⟩
  | .error e => ⟨.error e.message, disk, false, t⟩

/-- The world around a project; all questions are agreed to if `assumeYes` says so. -/
def world (dir : String) (assumeYes : Bool) : World Terminal where
  launch := launch dir
  ask question t := if assumeYes then ⟨true, false, t⟩ else ask question t

end Terminal

end Slipway.Cli
