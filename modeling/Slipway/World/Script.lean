import Slipway.Disk.Overlay
import Slipway.World.Basic

/-!
# Scripted worlds

Model of the `FakeExecutor` and the `ScriptedConfirm` that the tests of `keel_core` run a release
with. A world that follows a script: rules tell how commands react, and a list tells the answers to
the questions. A rule applies to the commands whose line starts with its text, as long as it is not
used up; a command without a rule succeeds and does nothing.
-/

namespace Slipway

/-- How the commands with a line that starts with `start` react. -/
structure Rule where
  start : String
  /-- How often the rule applies; without a number it always does. -/
  times : Option Nat
  overlay : Overlay
  stop : Bool
  result : Except String CommandOutput

/-- A script: its rules, the answers by the number of the question, and the question during which
the release is asked to stop. A question without an answer is answered with yes. -/
structure Script where
  rules : List Rule
  answers : List Bool
  stopAt : Option Nat

namespace Script

/-- A script without rules. -/
def empty : Script := ⟨[], [], none⟩

/-- What a script remembers: its rules with the uses that are left, and the number of questions. -/
structure Memory where
  rules : List Rule
  asked : Nat

/-- The memory at the start. -/
def memory (s : Script) : Memory := ⟨s.rules, 0⟩

/-- A rule applies to a command. -/
def applies (r : Rule) (c : Command) : Bool :=
  r.times ≠ some 0 && r.start.toList.isPrefixOf c.lineChars

/-- A rule after one use. -/
def spend (r : Rule) : Rule := { r with times := r.times.map (· - 1) }

/-- The first rule that applies, and the rules after its use. -/
def choose (c : Command) : List Rule → Option (Rule × List Rule)
  | [] => none
  | r :: rules =>
    if applies r c then some (r, spend r :: rules)
    else (choose c rules).map fun (chosen, rest) => (chosen, r :: rest)

/-- The output of a command that says nothing. -/
def silent (exit : Int) : CommandOutput := ⟨exit, "", ""⟩

/-- The reaction to a command in a project. -/
def react (root : String) (c : Command) (disk : Disk) (m : Memory) : Reaction Memory :=
  match choose c m.rules with
  | none => ⟨.ok (silent 0), disk, false, m⟩
  | some (r, rules) => ⟨r.result, disk.lay root r.overlay, r.stop, { m with rules := rules }⟩

/-- The reply to a question. -/
def reply (s : Script) (_ : String) (m : Memory) : Reply Memory :=
  ⟨s.answers[m.asked]?.getD true, s.stopAt == some m.asked, { m with asked := m.asked + 1 }⟩

/-- The world of a script around a project. -/
def world (s : Script) (root : String) : World Memory := { launch := react root, ask := s.reply }

end Script

end Slipway
