/-!
# The middle of a shortest edit path

Model of the search of the crate `similar`, which `line_diff` (`keel_core::diff`) uses. A shortest
edit script is a shortest path through the grid of two sequences, where a diagonal step keeps an
element. `middle?` searches from both corners at once, one edit more in each round, and gives a
point of the grid that a shortest path passes: the start of the diagonal run on which the two
searches meet.
-/

namespace Slipway.Diff

/-- How far a search has come on each diagonal. -/
structure Frontier where
  reached : Array Nat
  origin : Nat

namespace Frontier

/-- A frontier for diagonals up to `span` on either side, at the start of a search. -/
def start (span : Nat) : Frontier := ⟨Array.replicate (2 * span + 3) 0, span + 1⟩

/-- The furthest point on a diagonal. -/
def get (f : Frontier) (k : Int) : Nat := f.reached.getD (k + f.origin).toNat 0

/-- Records the furthest point on a diagonal. -/
def set (f : Frontier) (k : Int) (x : Nat) : Frontier :=
  { f with reached := f.reached.setIfInBounds (k + f.origin).toNat x }

/-- Where a path of `d` edits enters the diagonal `k`: by an insertion from the diagonal above or
by a deletion from the one below, whichever comes further. -/
def enter (f : Frontier) (d : Nat) (k : Int) : Nat :=
  if k = -(d : Int) ∨ (k ≠ d ∧ f.get (k - 1) < f.get (k + 1)) then f.get (k + 1)
  else f.get (k - 1) + 1

end Frontier

/-- The diagonals that paths of `d` edits can end on, from the last to the first. -/
def diagonals (d : Nat) : List Int :=
  (List.range (d + 1)).map fun (i : Nat) => (d : Int) - 2 * (i : Int)

/-- The length of the common run from given positions on. -/
def runLength {α : Type} [DecidableEq α] (old new : Array α) : Nat → (x y : Nat) → Nat
  | 0, _, _ => 0
  | fuel + 1, x, y =>
    match old[x]?, new[y]? with
    | some a, some b => if a = b then runLength old new fuel (x + 1) (y + 1) + 1 else 0
    | _, _ => 0

/-- One round of a search along the given diagonals. `meets k x` tells whether the other search has
passed the point `x` of the diagonal `k`; the answer is the point where the run there began. -/
def sweep {α : Type} [DecidableEq α] (old new : Array α) (meets : Int → Nat → Bool) (d : Nat) :
    List Int → Frontier → Frontier × Option (Nat × Nat × Nat)
  | [], f => (f, none)
  | k :: ks, f =>
    let x := f.enter d k
    let y := ((x : Int) - k).toNat
    let run := runLength old new old.size x y
    let f := f.set k (x + run)
    if meets k (x + run) then (f, some (x, y, run)) else sweep old new meets d ks f

/-- Rounds of both searches, the forward one first. The backward search runs forward on the
reversed sequences. -/
def meet {α : Type} [DecidableEq α] (old new oldBack newBack : Array α) :
    (fuel d : Nat) → Frontier → Frontier → Option (Nat × Nat)
  | 0, _, _, _ => none
  | fuel + 1, d, ahead, behind =>
    let n := old.size
    let delta : Int := (n : Int) - new.size
    let odd : Bool := delta % 2 != 0
    let (ahead, found) := sweep old new
      (fun k x => odd && (k - delta).natAbs + 1 ≤ d && n ≤ x + behind.get (-(k - delta)))
      d (diagonals d) ahead
    match found with
    | some (x, y, _) => some (x, y)
    | none =>
      let (behind, found) := sweep oldBack newBack
        (fun k x => !odd && (k - delta).natAbs ≤ d && n ≤ x + ahead.get (-(k - delta)))
        d (diagonals d) behind
      match found with
      | some (x, y, run) => some (n - (x + run), new.size - (y + run))
      | none => meet old new oldBack newBack fuel (d + 1) ahead behind

/-- A point that a shortest edit path passes. -/
def middle? {α : Type} [DecidableEq α] (old new : List α) : Option (Nat × Nat) :=
  let rounds := (old.length + new.length + 1) / 2 + 1
  meet old.toArray new.toArray old.reverse.toArray new.reverse.toArray rounds 0
    (Frontier.start rounds) (Frontier.start rounds)

end Slipway.Diff
