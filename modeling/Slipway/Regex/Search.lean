import Slipway.Regex.Program
import Slipway.Regex.Reader

/-!
# Searching with regular expressions

Model of `Regex` of the crate `regex`, for `keel_core::files` and `keel_core::changelog`.
`Regex.compile` reads an expression, `Regex.matchFrom?` finds its first match at or after a
position, `Regex.allMatches` lists its matches from left to right without overlap, and
`Regex.replaceN` writes a text over them. How large an expression may be is up to a
`Regex.SizeLimit`. Ways to match are tried in order of preference; one that comes to an instruction
at a position where another one has been before is given up, because it cannot fare differently.
-/

namespace Slipway.Regex

/-- A text that is searched. -/
abbrev Subject := Array Char

/-- Whether a word character stands at a position. -/
def wordAt (unicode : Bool) (text : Subject) (i : Nat) : Bool :=
  match text[i]? with
  | some c => (CharClass.word unicode).accepts c
  | none => false

/-- Whether a word character stands before a position. -/
def wordBefore (unicode : Bool) (text : Subject) (i : Nat) : Bool :=
  0 < i && wordAt unicode text (i - 1)

/-- Whether a character stands before a position. -/
def charBefore (c : Char) (text : Subject) (i : Nat) : Bool := 0 < i && text[i - 1]? == some c

/-- Whether an assertion holds at a position. -/
def Assertion.holds (text : Subject) (i : Nat) : Assertion → Bool
  | .textStart => i == 0
  | .textEnd => i == text.size
  | .lineStart => i == 0 || charBefore '\n' text i
  | .lineEnd => i == text.size || text[i]? == some '\n'
  | .lineStartCarriage =>
    i == 0 || charBefore '\n' text i || (charBefore '\r' text i && text[i]? != some '\n')
  | .lineEndCarriage =>
    i == text.size || text[i]? == some '\r'
      || (text[i]? == some '\n' && !charBefore '\r' text i)
  | .wordBoundary u => wordBefore u text i != wordAt u text i
  | .notWordBoundary u => wordBefore u text i == wordAt u text i
  | .wordStart u => !wordBefore u text i && wordAt u text i
  | .wordEnd u => wordBefore u text i && !wordAt u text i
  | .wordStartHalf u => !wordBefore u text i
  | .wordEndHalf u => !wordAt u text i

/-- The positions marked on the way, by slot. -/
abbrev Marks := List (Nat × Nat)

/-- A way to match that has not been tried: an address, a position, and the marks so far. -/
structure Way where
  address : Nat
  position : Nat
  marks : Marks

/-- What has been tried: one bit per address and position. -/
structure Tried where
  bits : Array Bool
  width : Nat

/-- Nothing tried yet. -/
def Tried.start (addresses width : Nat) : Tried :=
  ⟨Array.replicate (addresses * width) false, width⟩

/-- Where an instruction leads from a position, the preferred way first. -/
def Instruction.follow (text : Subject) (w : Way) : Instruction → List Way
  | .take set next =>
    match text[w.position]? with
    | some c => if set.accepts c then [⟨next, w.position + 1, w.marks⟩] else []
    | none => []
  | .test a next => if a.holds text w.position then [{ w with address := next }] else []
  | .mark slot next => [{ w with address := next, marks := (slot, w.position) :: w.marks }]
  | .fork preferred other => [{ w with address := preferred }, { w with address := other }]
  | .accept => []

/-- Tries ways, the first one first, until one accepts; gives the way and what has been tried. The
fuel bounds the number of ways: each instruction is tried once at each position. -/
def explore (p : Program) (text : Subject) : (fuel : Nat) → List Way → Tried → Option Way × Tried
  | 0, _, tried => (none, tried)
  | _ + 1, [], tried => (none, tried)
  | fuel + 1, w :: ways, tried =>
    let key := w.address * tried.width + w.position
    if tried.bits.getD key true then explore p text fuel ways tried
    else
      let tried := { tried with bits := tried.bits.setIfInBounds key true }
      match p.code[w.address]? with
      | none => explore p text fuel ways tried
      | some .accept => (some w, tried)
      | some i => explore p text fuel (i.follow text w ++ ways) tried

/-- A match: where it starts and stops, and the marks of its groups. -/
structure Match where
  start : Nat
  stop : Nat
  marks : Marks

/-- Tries to match at each of the positions from one on, given how many there are. -/
def scan (p : Program) (text : Subject) : (count start : Nat) → Tried → Option Match
  | 0, _, _ => none
  | count + 1, start, tried =>
    match explore p text (3 * tried.bits.size + 3) [⟨p.start, start, []⟩] tried with
    | (some w, _) => some ⟨start, w.position, w.marks⟩
    | (none, tried) => scan p text count (start + 1) tried

/-- `Regex::captures_at`: the first match at or after a position. -/
def matchFrom? (p : Program) (text : Subject) (start : Nat) : Option Match :=
  scan p text (text.size + 1 - start) start (Tried.start p.code.size (text.size + 1))

/-- The matches from a position on. An empty match does not count where the match before it ended;
the search goes on one character later then. -/
def matchesFrom (p : Program) (text : Subject) :
    (fuel start : Nat) → (last : Option Nat) → List Match
  | 0, _, _ => []
  | fuel + 1, start, last =>
    if text.size < start then []
    else
      match matchFrom? p text start with
      | none => []
      | some m =>
        if m.start = m.stop ∧ last = some m.stop then matchesFrom p text fuel (start + 1) last
        else m :: matchesFrom p text fuel m.stop (some m.stop)

/-- `Regex::find_iter`: all matches, from left to right. -/
def allMatches (p : Program) (text : Subject) : List Match :=
  matchesFrom p text (2 * text.size + 3) 0 none

/-- The text that a group has matched. -/
def Match.group? (m : Match) (text : Subject) (i : Nat) : Option (List Char) := do
  let start ← (m.marks.find? fun e => e.1 = 2 * i).map Prod.snd
  let stop ← (m.marks.find? fun e => e.1 = 2 * i + 1).map Prod.snd
  return (text.extract start stop).toList

/-- The whole text of a match. -/
def Match.text (m : Match) (text : Subject) : List Char := (text.extract m.start m.stop).toList

/-- Writes a replacement over matches of a text. `i` is the number of those before, the last of
which stops at `last`. The loop ends with the match of number `limit`, unless that is zero. -/
def replaceFrom (limit : Nat) (replacement : List Char) (text : Subject) :
    (i last : Nat) → List Match → List Char
  | _, last, [] => (text.extract last text.size).toList
  | i, last, m :: ms =>
    let front := (text.extract last m.start).toList ++ replacement
    if 0 < limit ∧ limit - 1 ≤ i then front ++ (text.extract m.stop text.size).toList
    else front ++ replaceFrom limit replacement text (i + 1) m.stop ms

/-- Replaces the first `limit` matches by a text that is taken as it is, and all of them if `limit`
is zero (`regex::Regex::replacen` with `NoExpand`). -/
def replaceN (p : Program) (text : Subject) (limit : Nat) (replacement : List Char) : List Char :=
  replaceFrom limit replacement text 0 0 (allMatches p text)

/-- The limit on the compiled size of an expression (`regex::RegexBuilder::size_limit`). The engine
calls that size approximate and documents no measure of it, so a limit is any choice of the patterns
that are within it. Definitions and theorems are about any limit. -/
class SizeLimit where
  /-- The pattern is within the limit. -/
  admits : List Char → Bool

/-- An estimate of the limit, to run the definitions with. It reckons `\w` above 45 000 bytes, as
the documentation of `regex::RegexBuilder::size_limit` does. -/
instance (priority := low) SizeLimit.estimated : SizeLimit where
  admits pattern :=
    match Node.read pattern with
    | .ok node => node.weight ≤ maxWeight
    | .error _ => true

/-- Reads an expression and builds its program (`regex::Regex::new`). -/
def compile [SizeLimit] (pattern : List Char) : Except Defect Program := do
  let node ← Node.read pattern
  if !SizeLimit.admits pattern then throw .tooLarge
  return node.program

/-- A pattern that matches a text literally. -/
def escape (text : List Char) : List Char :=
  text.flatMap fun c => if isMeta c then ['\\', c] else [c]

end Slipway.Regex
