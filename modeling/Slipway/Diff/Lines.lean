import Slipway.Text.Lines
import Slipway.Diff.Shortest
import Slipway.Diff.Compact

/-!
# Line diffs

Model of `line_diff` and `DiffLine` (`keel_core::diff`). `lineDiff before after` lists the lines
that change: those of `before` that are removed and those of `after` that are added, with their
numbers. Between two lines that stay, the removed lines come before the added ones.
-/

namespace Slipway.Diff

/-- `DiffLine`: a changed line with its number in the text it belongs to, counted from one, and its
text without terminator. -/
inductive Change where
  | removed (line : Nat) (text : String)
  | added (line : Nat) (text : String)
  deriving DecidableEq, Repr

namespace Change

/-- `DiffLine::fmt`: the change as one line of output. -/
def shown : Change → String
  | removed _ text => "- " ++ text
  | added _ text => "+ " ++ text

end Change

/-- Changes for a run of lines, numbered from `first` on. -/
def number (change : Nat → String → Change) : (first : Nat) → List (List Char) → List Change
  | _, [] => []
  | first, l :: ls => change first (String.ofList (Text.chomp l)) :: number change (first + 1) ls

/-- The changes of a script. Removed and added lines wait until a line stays; then the removed ones
are listed, and after them the added ones. -/
def changes : Script → (oldLine newLine : Nat) → (old new : List (List Char)) →
    (removed added : List Change) → List Change
  | [], _, _, _, _, removed, added => removed ++ added
  | .keep n :: rest, i, j, old, new, removed, added =>
    removed ++ added ++ changes rest (i + n) (j + n) (old.drop n) (new.drop n) [] []
  | .delete n :: rest, i, j, old, new, removed, added =>
    changes rest (i + n) j (old.drop n) new (removed ++ number .removed i (old.take n)) added
  | .insert n :: rest, i, j, old, new, removed, added =>
    changes rest i (j + n) old (new.drop n) removed (added ++ number .added j (new.take n))

/-- `line_diff`: the lines that change from one text to another. -/
def lineDiff (before after : String) : List Change :=
  let old := Text.diffLines before.toList
  let new := Text.diffLines after.toList
  changes (compact old new (shortest old new)) 1 1 old new [] []

end Slipway.Diff
