import Slipway.Diff.Script

/-!
# Compact edit scripts

Model of the cleanup of scripts in the crate `similar`, which `line_diff` (`keel_core::diff`) uses.
Runs of one kind that stand apart can sometimes be moved together: an inserted run next to a kept
one may slide over lines that read the same on both sides. `compact` slides every run towards the
start and then towards the end, joining the runs of one kind that it meets; first the deleted runs,
then the inserted ones.
-/

namespace Slipway.Diff

/-- A place in a script: the run in focus, the runs before it, the nearest first, the runs after
it, and the positions in both sequences at which the run begins. -/
structure Focus where
  before : List Edit
  run : Edit
  after : List Edit
  oldAt : Nat
  newAt : Nat

/-- Grows the kept run at the head of a list of runs, or puts one there. -/
def growKeep (n : Nat) : List Edit → List Edit
  | .keep m :: rest => .keep (m + n) :: rest
  | runs => .keep n :: runs

/-- A kept run in front of a list of runs, unless it is empty. -/
def consKeep (n : Nat) (runs : List Edit) : List Edit := if n = 0 then runs else .keep n :: runs

/-- The elements of a sequence between two positions. -/
def slice {α : Type} (xs : List α) (start stop : Nat) : List α :=
  (xs.drop start).take (stop - start)

/-- Moves the run in focus towards the start. An inserted run slides over the lines that it ends
with; runs of the other kind are passed, runs of its own kind are joined. -/
def slideUp {α : Type} [DecidableEq α] (old new : List α) : Nat → Focus → Focus
  | 0, f => f
  | fuel + 1, f =>
    match f.before, f.run with
    | .keep m :: rest, .insert n =>
      let same := commonEnd (slice old (f.oldAt - m) f.oldAt) (slice new f.newAt (f.newAt + n))
      if same = 0 then f
      else slideUp old new fuel
        { before := consKeep (m - same) rest, run := .insert n, after := growKeep same f.after,
          oldAt := f.oldAt - same, newAt := f.newAt - same }
    | .delete m :: rest, .insert n =>
      slideUp old new fuel
        { f with before := rest, run := .insert n, after := .delete m :: f.after
                 oldAt := f.oldAt - m }
    | .insert m :: rest, .delete n =>
      slideUp old new fuel
        { f with before := rest, run := .delete n, after := .insert m :: f.after
                 newAt := f.newAt - m }
    | .insert m :: rest, .insert n =>
      slideUp old new fuel
        { f with before := rest, run := .insert (m + n), newAt := f.newAt - m }
    | .delete m :: rest, .delete n =>
      slideUp old new fuel
        { f with before := rest, run := .delete (m + n), oldAt := f.oldAt - m }
    | _, _ => f

/-- Moves the run in focus towards the end, in the same way. -/
def slideDown {α : Type} [DecidableEq α] (old new : List α) : Nat → Focus → Focus
  | 0, f => f
  | fuel + 1, f =>
    match f.run, f.after with
    | .insert n, .keep m :: rest =>
      let same := commonStart (slice old f.oldAt (f.oldAt + m)) (slice new f.newAt (f.newAt + n))
      if same = 0 then f
      else slideDown old new fuel
        { before := growKeep same f.before, run := .insert n, after := consKeep (m - same) rest,
          oldAt := f.oldAt + same, newAt := f.newAt + same }
    | .insert n, .delete m :: rest =>
      slideDown old new fuel
        { f with before := .delete m :: f.before, run := .insert n, after := rest
                 oldAt := f.oldAt + m }
    | .delete n, .insert m :: rest =>
      slideDown old new fuel
        { f with before := .insert m :: f.before, run := .delete n, after := rest
                 newAt := f.newAt + m }
    | .insert n, .insert m :: rest =>
      slideDown old new fuel { f with run := .insert (n + m), after := rest }
    | .delete n, .delete m :: rest =>
      slideDown old new fuel { f with run := .delete (n + m), after := rest }
    | _, _ => f

/-- Slides every run that passes the test, from the start of a script to its end. -/
def slideAll {α : Type} [DecidableEq α] (old new : List α) (moves : Edit → Bool) :
    Nat → (before after : List Edit) → (oldAt newAt : Nat) → Script
  | 0, before, after, _, _ => before.reverse ++ after
  | _ + 1, before, [], _, _ => before.reverse
  | fuel + 1, before, run :: after, oldAt, newAt =>
    let f : Focus := { before, run, after, oldAt, newAt }
    let steps := old.length + new.length + before.length + after.length + 1
    let f := if moves run then slideDown old new (2 * steps) (slideUp old new steps f) else f
    slideAll old new moves fuel (f.run :: f.before) f.after
      (f.oldAt + f.run.oldCount) (f.newAt + f.run.newCount)

/-- Whether a run deletes. -/
def Edit.isDelete : Edit → Bool
  | .delete _ => true
  | _ => false

/-- Whether a run inserts. -/
def Edit.isInsert : Edit → Bool
  | .insert _ => true
  | _ => false

/-- Slides the deleted runs and then the inserted runs of a script together. -/
def compact {α : Type} [DecidableEq α] (old new : List α) (script : Script) : Script :=
  let pass (moves : Edit → Bool) (s : Script) : Script :=
    slideAll old new moves (2 * (old.length + new.length + s.length) + 1) [] s 0 0
  pass Edit.isInsert (pass Edit.isDelete script)

end Slipway.Diff
