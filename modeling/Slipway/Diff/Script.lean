/-!
# Edit scripts

The scripts of the crate `similar`, which `line_diff` (`keel_core::diff`) lists. An `Edit` is a run
of steps over two sequences: elements of the old one that are kept or deleted, elements of the new
one that are inserted. A list of edits is a script. `Script.Applies` says that a script leads from
one sequence to another.
-/

namespace Slipway.Diff

/-- A run of an edit script. -/
inductive Edit where
  | keep (count : Nat)
  | delete (count : Nat)
  | insert (count : Nat)
  deriving DecidableEq, Repr

namespace Edit

/-- The elements of the old sequence that a run consumes. -/
def oldCount : Edit → Nat
  | keep n => n
  | delete n => n
  | insert _ => 0

/-- The elements of the new sequence that a run consumes. -/
def newCount : Edit → Nat
  | keep n => n
  | delete _ => 0
  | insert n => n

end Edit

/-- A script: runs from the start of both sequences to their ends. -/
abbrev Script := List Edit

namespace Script

/-- A script leads from one sequence to another: kept runs are equal on both sides, and nothing is
left over. -/
inductive Applies {α : Type} : Script → List α → List α → Prop where
  | nil : Applies [] [] []
  | keep {s : Script} {run old new : List α} :
      Applies s old new → Applies (.keep run.length :: s) (run ++ old) (run ++ new)
  | delete {s : Script} {run old new : List α} :
      Applies s old new → Applies (.delete run.length :: s) (run ++ old) new
  | insert {s : Script} {run old new : List α} :
      Applies s old new → Applies (.insert run.length :: s) old (run ++ new)

end Script

/-- The length of the longest common beginning of two sequences. -/
def commonStart {α : Type} [DecidableEq α] : List α → List α → Nat
  | a :: as, b :: bs => if a = b then commonStart as bs + 1 else 0
  | _, _ => 0

/-- The length of the longest common end of two sequences. -/
def commonEnd {α : Type} [DecidableEq α] (as bs : List α) : Nat :=
  commonStart as.reverse bs.reverse

end Slipway.Diff
