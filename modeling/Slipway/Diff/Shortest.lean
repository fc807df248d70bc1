import Slipway.Diff.Script
import Slipway.Diff.MiddleSnake

/-!
# Shortest edit scripts

Model of the algorithm of the crate `similar`, which `line_diff` (`keel_core::diff`) uses. `shortest
old new` strips what both sequences begin and end with, cuts the rest at a point of a shortest edit
path and treats both parts in the same way. Any cut gives a script that leads from one sequence to
the other; the cut decides only how short it is.
-/

namespace Slipway.Diff

variable {α : Type} [DecidableEq α]

/-- A run of the given kind, unless it is empty. -/
def runOf (kind : Nat → Edit) (n : Nat) : Script := if n = 0 then [] else [kind n]

/-- The length of what two sequences end with, behind what they begin with. -/
def commonRest (old new : List α) : Nat :=
  commonEnd (old.drop (commonStart old new)) (new.drop (commonStart old new))

/-- A sequence without its first `start` and its last `stop` elements. -/
def inside (xs : List α) (start stop : Nat) : List α :=
  (xs.drop start).take ((xs.drop start).length - stop)

omit [DecidableEq α] in
theorem length_inside_le (xs : List α) (start stop : Nat) :
    (inside xs start stop).length ≤ xs.length := by
  simp only [inside, List.length_take, List.length_drop]
  omega

/-- A cut strictly between the corners of the grid of two sequences. -/
def cut? (old new : List α) : Option (Nat × Nat) :=
  (middle? old new).filter fun (x, y) =>
    0 < min x old.length + min y new.length
      ∧ min x old.length + min y new.length < old.length + new.length

theorem lt_of_cut? {old new : List α} {x y : Nat} (h : cut? old new = some (x, y)) :
    0 < min x old.length + min y new.length
      ∧ min x old.length + min y new.length < old.length + new.length := by
  simpa using (Option.filter_eq_some_iff.mp h).2

/-- A shortest script from one sequence to another. -/
def shortest (old new : List α) : Script :=
  let start := commonStart old new
  let stop := commonRest old new
  runOf .keep start ++
    (match _hOld : inside old start stop, _hNew : inside new start stop with
     | [], rest => runOf .insert rest.length
     | rest, [] => runOf .delete rest.length
     | a :: as, b :: bs =>
       match _hCut : cut? (a :: as) (b :: bs) with
       | some (x, y) =>
         shortest ((a :: as).take x) ((b :: bs).take y)
           ++ shortest ((a :: as).drop x) ((b :: bs).drop y)
       | none => [.delete (a :: as).length, .insert (b :: bs).length]) ++
    runOf .keep stop
termination_by old.length + new.length
decreasing_by
  all_goals
    have h := lt_of_cut? _hCut
    have hOld := length_inside_le old start stop
    have hNew := length_inside_le new start stop
    rw [_hOld] at hOld
    rw [_hNew] at hNew
    simp only [List.length_take, List.length_drop, List.length_cons] at *
    omega

end Slipway.Diff
