import Slipway.Regex.Escape

/-!
# Character classes between brackets

Model of the class syntax of the crate `regex`. `readClass` reads a class such as `[^a-z\d]`, after
its opening bracket. Classes nest, and `&&`, `--` and `~~` combine the class so far with what
follows. The open classes and the operations that wait for their right side are kept on a stack.
-/

namespace Slipway.Regex

/-- The operations on classes. -/
inductive ClassOperation where
  | inter
  | diff
  | symmDiff

/-- What waits while a class is read. -/
inductive ClassFrame where
  /-- An outer class: its items so far, whether the inner class is negated, and the outer depth. -/
  | opened (items : List CharClass) (negated : Bool) (depth : Nat)
  /-- An operation with its left side. -/
  | operation (op : ClassOperation) (left : CharClass)

/-- The union of items, given in reverse. -/
def unionOf (items : List CharClass) : CharClass :=
  items.foldl (fun acc item => CharClass.union item acc) CharClass.none

/-- Applies an operation; both sides count up to case if asked. -/
def ClassOperation.apply (op : ClassOperation) (f : Flags) (a b : CharClass) : CharClass :=
  let a := CharClass.caselessIf f.ignoreCase a
  let b := CharClass.caselessIf f.ignoreCase b
  match op with
  | inter => .inter a b
  | diff => .diff a b
  | symmDiff => .symmDiff a b

/-- Completes the operation that waits on top of the stack, if one does. -/
def completeOperation (f : Flags) (right : CharClass) :
    List ClassFrame → CharClass × List ClassFrame
  | .operation op left :: frames => (op.apply f left right, frames)
  | frames => (right, frames)

/-- The hyphens at the start of a class, which stand for themselves. -/
def readLeadingHyphens (f : Flags) :
    (fuel : Nat) → List CharClass → List Char → List CharClass × List Char
  | fuel + 1, items, '-' :: cs =>
    readLeadingHyphens f fuel (CharClass.single '-' :: items) (f.skip cs)
  | _, items, cs => (items, cs)

/-- What follows the opening bracket: whether the class is negated, and the characters that stand
for themselves there. -/
def readClassStart (f : Flags) (cs : List Char) :
    Except Defect (Bool × List CharClass × List Char) := do
  let cs := f.skip cs
  let (negated, cs) :=
    match cs with
    | '^' :: rest => (true, f.skip rest)
    | _ => (false, cs)
  if cs = [] then throw .unclosedClass
  let (items, cs) := readLeadingHyphens f cs.length [] cs
  match items, cs with
  | _, [] => throw .unclosedClass
  | [], ']' :: rest =>
    let rest := f.skip rest
    if rest = [] then throw .unclosedClass
    return (negated, [CharClass.single ']'], rest)
  | items, cs => return (negated, items, cs)

/-- Reads a class by name, `[:alpha:]`, after its opening bracket; `none` if there is none. -/
def readNamedClass? : List Char → Option (CharClass × List Char)
  | ':' :: cs =>
    let (negated, cs) :=
      match cs with
      | '^' :: rest => (true, rest)
      | _ => (false, cs)
    let name := cs.takeWhile (· ≠ ':')
    match cs.dropWhile (· ≠ ':') with
    | ':' :: ']' :: rest =>
      (CharClass.ascii? (String.ofList name)).map fun cls => (CharClass.negatedIf negated cls, rest)
    | _ => none
  | _ => none

/-- Reads one item of a class. -/
def readClassItem (f : Flags) : List Char → Except Defect (Atom × List Char)
  | [] => .error .unclosedClass
  | '\\' :: cs => readEscape f cs
  | c :: cs => .ok (.literal c, cs)

/-- A literal of a class has to be one of the first 128 characters where only those count. -/
def classLiteral (f : Flags) (c : Char) : Except Defect Char :=
  if f.unicode || c.toNat < 128 then .ok c else .error .bytesOnly

/-- Reads an item or a range of a class. -/
def readClassRange (f : Flags) (cs : List Char) : Except Defect (CharClass × List Char) := do
  let (first, rest) ← readClassItem f cs
  let rest := f.skip rest
  match rest with
  | [] => throw .unclosedClass
  | c :: more =>
    let next := (f.skip more).head?
    if c ≠ '-' ∨ next = some ']' ∨ next = some '-' then
      match first with
      | .literal a => return (CharClass.single (← classLiteral f a), rest)
      | .set cls => return (cls, rest)
      | .assertion _ => throw .invalidClassItem
    else
      let more := f.skip more
      if more = [] then throw .unclosedClass
      let (second, rest) ← readClassItem f more
      match first, second with
      | .literal a, .literal b =>
        if a ≤ b then return (CharClass.range (← classLiteral f a) (← classLiteral f b), rest)
        else throw .invalidRange
      | _, _ => throw .invalidRange

/-- A class that is being read: what waits, the items of the innermost class so far, in reverse,
whether it is negated, and how deep classes nest in it. -/
structure ClassReading where
  frames : List ClassFrame
  items : List CharClass
  negated : Bool
  depth : Nat

/-- What comes of reading on in a class: there is more, or the outermost class is closed. -/
inductive ClassProgress where
  | more (r : ClassReading) (rest : List Char)
  | closed (cls : CharClass) (depth : Nat) (rest : List Char)

namespace ClassReading

/-- Adds an item. -/
def add (r : ClassReading) (item : CharClass) : ClassReading := { r with items := item :: r.items }

/-- Opens a class inside, after its bracket; it may be one by name. -/
def openClass (f : Flags) (r : ClassReading) (cs : List Char) : Except Defect ClassProgress :=
  match readNamedClass? cs with
  | some (cls, rest) => .ok (.more (r.add cls) rest)
  | none =>
    (readClassStart f cs).map fun (negated, items, rest) =>
      .more ⟨.opened r.items r.negated r.depth :: r.frames, items, negated, 0⟩ rest

/-- Closes the innermost class, after its bracket. -/
def closeClass (f : Flags) (r : ClassReading) (rest : List Char) : Except Defect ClassProgress :=
  let (cls, frames) := completeOperation f (unionOf r.items) r.frames
  let closed := CharClass.negatedIf r.negated (CharClass.caselessIf f.ignoreCase cls)
  if r.negated && !f.unicode then .error .bytesOnly
  else
    match frames with
    | .opened items negated depth :: frames =>
      .ok (.more ⟨frames, closed :: items, negated, max depth (r.depth + 1)⟩ rest)
    | _ => .ok (.closed closed (r.depth + 1) rest)

/-- Takes what has been read as the left side of an operation. -/
def operate (f : Flags) (r : ClassReading) (op : ClassOperation) : ClassReading :=
  let (left, frames) := completeOperation f (unionOf r.items) r.frames
  { r with frames := .operation op left :: frames, items := [] }

/-- The operation that a character stands for when it is doubled. -/
def operation? (c : Char) : Option ClassOperation :=
  if c = '&' then some .inter
  else if c = '-' then some .diff
  else if c = '~' then some .symmDiff
  else none

/-- Reads one item, bracket or operator of a class. -/
def step (f : Flags) (r : ClassReading) : List Char → Except Defect ClassProgress
  | [] => .error .unclosedClass
  | c :: rest =>
    if c = '[' then r.openClass f rest
    else if c = ']' then r.closeClass f rest
    else
      match if rest.head? = some c then operation? c else none with
      | some op => .ok (.more (r.operate f op) (rest.drop 1))
      | none => (readClassRange f (c :: rest)).map fun (cls, rest) => .more (r.add cls) rest

/-- Reads on until the outermost class is closed. -/
def steps (f : Flags) (r : ClassReading) :
    (fuel : Nat) → List Char → Except Defect (CharClass × Nat × List Char)
  | 0, _ => .error .unclosedClass
  | fuel + 1, cs =>
    match r.step f (f.skip cs) with
    | .error e => .error e
    | .ok (.closed cls depth rest) => .ok (cls, depth, rest)
    | .ok (.more r rest) => r.steps f fuel rest

end ClassReading

/-- Reads a class, after its opening bracket: the class, how deep classes nest in it, and the rest
of the text. -/
def readClass (f : Flags) (cs : List Char) : Except Defect (CharClass × Nat × List Char) :=
  match readClassStart f cs with
  | .error e => .error e
  | .ok (negated, items, rest) =>
    ClassReading.steps f ⟨[], items, negated, 0⟩ (rest.length + 1) rest

end Slipway.Regex
