import Slipway.Regex.ClassReader

/-!
# Reading regular expressions

Model of the syntax of the crate `regex`. `Node.read` reads the text of a regular expression, or
tells why it is none. The expression is read from left to right; open groups wait on a stack, with
the switches that return when they close.
-/

namespace Slipway.Regex

/-- A part of a sequence: its tree, how deep expressions nest in it, and whether it can be
repeated. -/
structure Piece where
  node : Node
  depth : Nat
  repeatable : Bool

/-- An open group: the sequence and the alternatives before it, in reverse, the switches outside it,
and its index if it captures. -/
structure OpenGroup where
  sequence : List Piece
  alternatives : List Piece
  flags : Flags
  index : Option Nat

/-- What has been read so far. -/
structure Reading where
  pending : List OpenGroup
  sequence : List Piece
  alternatives : List Piece
  flags : Flags
  groups : Nat
  names : List (List Char)

/-- The deepest nesting of expressions that is accepted. -/
def maxDepth : Nat := 250

/-- One expression out of several, given in reverse, by an operation that joins two. -/
def joinPieces (join : Node → Node → Node) : List Piece → Piece
  | [] => ⟨.empty, 0, true⟩
  | [p] => p
  | last :: before =>
    ⟨before.foldl (fun node p => join p.node node) last.node,
      before.foldl (fun d p => max d p.depth) last.depth + 1, true⟩

/-- The sequence that is being read, as one piece. -/
def Reading.closeSequence (r : Reading) : Piece := joinPieces .seq r.sequence

/-- The alternatives that are being read, as one piece. -/
def Reading.closeAlternatives (r : Reading) : Piece :=
  joinPieces .alt (r.closeSequence :: r.alternatives)

/-- Adds a piece to the sequence. -/
def Reading.add (r : Reading) (node : Node) (depth : Nat) (repeatable : Bool) : Reading :=
  { r with sequence := ⟨node, depth, repeatable⟩ :: r.sequence }

/-- A letter of a switch. -/
def isFlag (c : Char) : Bool := "imsUuRx".toList.contains c

/-- Reads switches up to `:` or `)`, which is given back with them and the rest. -/
def readFlags (seen : List (Char × Bool)) (negated last : Bool) :
    List Char → Except Defect (List (Char × Bool) × Char × List Char)
  | [] => .error .invalidFlags
  | c :: cs =>
    if c = ':' ∨ c = ')' then if last then .error .invalidFlags else .ok (seen, c, cs)
    else if c = '-' then if negated then .error .invalidFlags else readFlags seen true true cs
    else if isFlag c && !(seen.any fun s => s.1 == c) then
      readFlags ((c, !negated) :: seen) negated false cs
    else .error .invalidFlags

/-- Turns one switch. -/
def Flags.turn (f : Flags) : Char × Bool → Flags
  | ('i', on) => { f with ignoreCase := on }
  | ('m', on) => { f with multiLine := on }
  | ('s', on) => { f with dotAll := on }
  | ('U', on) => { f with swapGreed := on }
  | ('u', on) => { f with unicode := on }
  | ('R', on) => { f with carriage := on }
  | ('x', on) => { f with ignoreSpace := on }
  | _ => f

/-- A character of the name of a group. -/
def isGroupNameChar (first : Bool) (c : Char) : Bool :=
  c == '_' || Unicode.alphabetic.contains c ||
    (!first && (c == '.' || c == '[' || c == ']' || Unicode.Category.number.contains c))

/-- Reads the name of a group up to its closing angle bracket. -/
def readGroupName (cs : List Char) : Except Defect (List Char × List Char) :=
  let name := cs.takeWhile (· ≠ '>')
  match cs.dropWhile (· ≠ '>'), name with
  | _ :: rest, first :: more =>
    if isGroupNameChar true first && more.all (isGroupNameChar false) then .ok (name, rest)
    else .error .invalidGroupName
  | _, _ => .error .invalidGroupName

/-- Opens a group that captures, if it does. -/
def Reading.openGroup (r : Reading) (captures : Bool) (inner : Flags) : Reading :=
  { r with
    pending := ⟨r.sequence, r.alternatives, r.flags, if captures then some (r.groups + 1) else none⟩
      :: r.pending
    sequence := []
    alternatives := []
    flags := inner
    groups := if captures then r.groups + 1 else r.groups }

/-- Reads what follows an opening parenthesis. -/
def Reading.readOpening (r : Reading) (cs : List Char) : Except Defect (Reading × List Char) := do
  let named (rest : List Char) : Except Defect (Reading × List Char) := do
    let (name, rest) ← readGroupName rest
    if r.names.contains name then throw .invalidGroupName
    return ({ r.openGroup true r.flags with names := name :: r.names }, rest)
  match r.flags.skip cs with
  | '?' :: '=' :: _ | '?' :: '!' :: _ | '?' :: '<' :: '=' :: _ | '?' :: '<' :: '!' :: _ =>
    throw .lookAround
  | '?' :: 'P' :: '<' :: rest => named rest
  | '?' :: '<' :: rest => named rest
  | ['?'] => throw .unclosedGroup
  | '?' :: rest =>
    let (flags, close, rest) ← readFlags [] false false rest
    let inner := flags.reverse.foldl Flags.turn r.flags
    if close = ')' then
      if flags = [] then throw .danglingRepetition
      return ({ r.add .empty 0 false with flags := inner }, rest)
    else return (r.openGroup false inner, rest)
  | rest => return (r.openGroup true r.flags, rest)

/-- Closes the innermost group. -/
def Reading.closeGroup (r : Reading) : Except Defect Reading :=
  match r.pending with
  | [] => .error .unopenedGroup
  | g :: outer =>
    let body := r.closeAlternatives
    let node :=
      match g.index with
      | some i => .group i body.node
      | none => body.node
    .ok { r with
      pending := outer
      sequence := ⟨node, body.depth + 1, true⟩ :: g.sequence
      alternatives := g.alternatives
      flags := g.flags }

/-- Repeats the last piece of the sequence. -/
def Reading.repeatLast (r : Reading) (min : Nat) (max : Option Nat) (greedy : Bool) :
    Except Defect Reading :=
  match r.sequence with
  | p :: before =>
    if p.repeatable then
      .ok { r with
        sequence := ⟨.times min max (greedy != r.flags.swapGreed) p.node, p.depth + 1, true⟩
          :: before }
    else .error .danglingRepetition
  | [] => .error .danglingRepetition

/-- The greatest count of a repetition. -/
def maxCount : Nat := UInt32.size - 1

/-- The decimal digits at the start of a text, without what is ignored. -/
def takeDigits (f : Flags) : (fuel : Nat) → (digits : List Char) → List Char →
    List Char × List Char
  | fuel + 1, digits, c :: cs =>
    if c.isDigit then takeDigits f fuel (c :: digits) (f.skip cs) else (digits.reverse, c :: cs)
  | _, digits, cs => (digits.reverse, cs)

/-- Reads a decimal numeral with blanks around it; `none` if there are no digits. -/
def readCount (f : Flags) (cs : List Char) : Except Defect (Option Nat × List Char) :=
  let cs := cs.dropWhile Text.isBlank
  let (digits, rest) := takeDigits f cs.length [] cs
  let rest := f.skip (rest.dropWhile Text.isBlank)
  let value := digits.foldl (fun n c => 10 * n + (c.toNat - '0'.toNat)) 0
  if digits = [] then .ok (none, rest)
  else if maxCount < value then .error .invalidCount
  else .ok (some value, rest)

/-- Whether a question mark makes a repetition prefer fewer. -/
def readGreed : List Char → Bool × List Char
  | '?' :: rest => (false, rest)
  | rest => (true, rest)

/-- Reads a counted repetition, after its opening brace. -/
def Reading.readCounted (r : Reading) (cs : List Char) : Except Defect (Reading × List Char) := do
  let f := r.flags
  let (min, rest) ← readCount f (f.skip cs)
  let (max, rest) ←
    match rest with
    | ',' :: rest =>
      let rest := f.skip rest
      match rest with
      | '}' :: _ => pure (none, rest)
      | _ => readCount f rest >>= fun (n, rest) =>
          match n with
          | some n => pure (some n, rest)
          | none => throw Defect.invalidCount
    | _ => pure (min, rest)
  match min, rest with
  | some min, '}' :: rest =>
    let (greedy, rest) := readGreed (f.skip rest)
    if max.all (min ≤ ·) then return (← r.repeatLast min max greedy, rest)
    else throw .invalidCount
  | _, _ => throw .invalidCount

/-- The class of a character, up to case if asked. -/
def literalNode (f : Flags) (c : Char) : Node :=
  .chars (CharClass.caselessIf f.ignoreCase (CharClass.single c))

/-- The class that a dot stands for. -/
def dotClass (f : Flags) : CharClass :=
  if f.dotAll then CharClass.any
  else if f.carriage then .not (CharClass.ofList ['\r', '\n'])
  else .not (CharClass.single '\n')

/-- Reads the next item of a nonempty text. -/
def Reading.step (r : Reading) (c : Char) (cs : List Char) :
    Except Defect (Reading × List Char) := do
  let f := r.flags
  if c = '(' then r.readOpening cs
  else if c = ')' then return (← r.closeGroup, cs)
  else if c = '|' then
    return ({ r with sequence := [], alternatives := r.closeSequence :: r.alternatives }, cs)
  else if c = '[' then
    let (cls, depth, rest) ← readClass f cs
    return (r.add (.chars cls) depth true, rest)
  else if c = '?' then
    let (greedy, rest) := readGreed cs
    return (← r.repeatLast 0 (some 1) greedy, rest)
  else if c = '*' then
    let (greedy, rest) := readGreed cs
    return (← r.repeatLast 0 none greedy, rest)
  else if c = '+' then
    let (greedy, rest) := readGreed cs
    return (← r.repeatLast 1 none greedy, rest)
  else if c = '{' then r.readCounted cs
  else if c = '\\' then
    match ← readEscape f cs with
    | (.literal c, rest) => return (r.add (literalNode f c) 0 true, rest)
    | (.set cls, rest) => return (r.add (.chars cls) 0 true, rest)
    | (.assertion a, rest) => return (r.add (.assertion a) 0 true, rest)
  else if c = '.' then
    if f.unicode then return (r.add (.chars (dotClass f)) 0 true, cs) else throw .bytesOnly
  else if c = '^' then
    let a : Assertion :=
      if !f.multiLine then .textStart else if f.carriage then .lineStartCarriage else .lineStart
    return (r.add (.assertion a) 0 true, cs)
  else if c = '$' then
    let a : Assertion :=
      if !f.multiLine then .textEnd else if f.carriage then .lineEndCarriage else .lineEnd
    return (r.add (.assertion a) 0 true, cs)
  else return (r.add (literalNode f c) 0 true, cs)

/-- Reads item after item. The fuel is the length of the text: each item takes a character. -/
def Reading.run : (fuel : Nat) → Reading → List Char → Except Defect Reading
  | 0, r, _ => .ok r
  | fuel + 1, r, cs =>
    match r.flags.skip cs with
    | [] => .ok r
    | c :: cs =>
      match r.step c cs with
      | .error e => .error e
      | .ok (r, rest) => r.run fuel rest

/-- Reads a regular expression. -/
def Node.read (text : List Char) : Except Defect Node := do
  let r ← Reading.run text.length ⟨[], [], [], Flags.initial, 0, []⟩ text
  if !r.pending.isEmpty then throw .unclosedGroup
  let p := r.closeAlternatives
  if maxDepth < p.depth then throw .tooDeep
  return p.node

end Slipway.Regex
