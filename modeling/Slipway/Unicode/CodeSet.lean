/-!
# Sets of code points

A `CodeSet` is a list of closed intervals of code points. `CodeSet.ofText` reads the lines of a
table: intervals in hexadecimal, `41-5A`, and single points, `AA`, between blanks.
-/

namespace Slipway.Unicode

/-- A set of code points, as closed intervals. -/
structure CodeSet where
  ranges : List (Nat × Nat)
  deriving Inhabited, Repr, DecidableEq

namespace CodeSet

/-- Membership of a code point. -/
def containsCode (s : CodeSet) (n : Nat) : Bool :=
  s.ranges.any fun r => r.1 ≤ n && n ≤ r.2

/-- Membership of a character. -/
def contains (s : CodeSet) (c : Char) : Bool := s.containsCode c.toNat

/-- Joins intervals that touch, given in ascending order of their starts. -/
def joinTouching : List (Nat × Nat) → List (Nat × Nat)
  | [] => []
  | (lo, hi) :: rest =>
    match joinTouching rest with
    | (next, stop) :: more =>
      if next ≤ hi + 1 then (lo, max hi stop) :: more else (lo, hi) :: (next, stop) :: more
    | [] => [(lo, hi)]

/-- The union of several sets, in as few intervals as possible. -/
def unions (sets : List CodeSet) : CodeSet :=
  ⟨joinTouching ((sets.flatMap CodeSet.ranges).mergeSort fun a b => a.1 ≤ b.1)⟩

/-- The greatest code point. -/
def maxCode : Nat := 0x10FFFF

/-- The points from `next` on that lie in none of the intervals, which are in ascending order. -/
def gaps (next : Nat) : List (Nat × Nat) → List (Nat × Nat)
  | [] => if next ≤ maxCode then [(next, maxCode)] else []
  | (lo, hi) :: rest =>
    (if next < lo then [(next, lo - 1)] else []) ++ gaps (max next (hi + 1)) rest

/-- The points outside a set. -/
def complement (s : CodeSet) : CodeSet :=
  ⟨gaps 0 (s.ranges.mergeSort fun a b => a.1 ≤ b.1)⟩

/-- The value of a hexadecimal numeral in capital letters. -/
def hexValue (digits : List Char) : Nat :=
  digits.foldl
    (fun n c => 16 * n + (if c.isDigit then c.toNat - '0'.toNat else c.toNat - 'A'.toNat + 10)) 0

/-- Reads one interval of a table. -/
def rangeOfText (text : String) : Nat × Nat :=
  match text.splitOn "-" with
  | [lo, hi] => (hexValue lo.toList, hexValue hi.toList)
  | _ => (hexValue text.toList, hexValue text.toList)

/-- Reads the intervals of a table, line by line. -/
def ofText (lines : List String) : CodeSet :=
  ⟨lines.flatMap fun line => (line.splitOn " ").map rangeOfText⟩

end CodeSet

end Slipway.Unicode
