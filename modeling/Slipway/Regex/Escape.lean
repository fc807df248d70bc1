import Slipway.Regex.Node
import Slipway.Text.Search

/-!
# Escapes in regular expressions

Model of the escapes of the crate `regex`. What may follow a backslash: characters by code point or
letter, classes, and assertions. Where the expression ignores white space, blanks and comments may
stand between the parts of an escape.
-/

namespace Slipway.Regex

/-- The switches that an expression can turn on and off for what follows. -/
structure Flags where
  ignoreCase : Bool
  multiLine : Bool
  dotAll : Bool
  swapGreed : Bool
  unicode : Bool
  carriage : Bool
  ignoreSpace : Bool
  deriving DecidableEq, Repr

/-- The switches at the start of an expression. -/
def Flags.initial : Flags :=
  { ignoreCase := false, multiLine := false, dotAll := false, swapGreed := false, unicode := true,
    carriage := false, ignoreSpace := false }

/-- Drops blanks, and comments from a `#` to the end of the line. -/
def dropSpace : (inComment : Bool) → List Char → List Char
  | _, [] => []
  | true, c :: cs => dropSpace (c != '\n') cs
  | false, c :: cs =>
    if Text.isBlank c then dropSpace false cs
    else if c = '#' then dropSpace true cs
    else c :: cs

/-- Drops what an expression ignores. -/
def Flags.skip (f : Flags) (cs : List Char) : List Char :=
  if f.ignoreSpace then dropSpace false cs else cs

/-- What an escape or a plain character stands for. -/
inductive Atom where
  | literal (c : Char)
  | set (cls : CharClass)
  | assertion (a : Assertion)

/-- A hexadecimal digit's value. -/
def hexDigit? (c : Char) : Option Nat :=
  if '0' ≤ c ∧ c ≤ '9' then some (c.toNat - '0'.toNat)
  else if 'a' ≤ c ∧ c ≤ 'f' then some (c.toNat - 'a'.toNat + 10)
  else if 'A' ≤ c ∧ c ≤ 'F' then some (c.toNat - 'A'.toNat + 10)
  else none

/-- The character of a code point, which must not be a surrogate. -/
def charOfCode? (n : Nat) : Option Char := if n.isValidChar then some (Char.ofNat n) else none

/-- Reads a given number of hexadecimal digits. -/
def readHexDigits (f : Flags) : (count value : Nat) → List Char → Except Defect (Nat × List Char)
  | 0, value, cs => .ok (value, cs)
  | _ + 1, _, [] => .error .invalidEscape
  | count + 1, value, c :: cs =>
    match hexDigit? c with
    | some d => readHexDigits f count (16 * value + d) (f.skip cs)
    | none => .error .invalidEscape

/-- Reads hexadecimal digits up to a closing brace. The fuel is the length of the text. -/
def readHexBrace (f : Flags) :
    (fuel : Nat) → (digits : List Nat) → List Char → Except Defect (List Nat × List Char)
  | 0, _, _ => .error .invalidEscape
  | _ + 1, _, [] => .error .invalidEscape
  | fuel + 1, digits, c :: cs =>
    if c = '}' then .ok (digits.reverse, cs)
    else match hexDigit? c with
      | some d => readHexBrace f fuel (d :: digits) (f.skip cs)
      | none => .error .invalidEscape

/-- Reads a character by its code point, after the letter that announces it. -/
def readHex (f : Flags) (digits : Nat) (cs : List Char) : Except Defect (Atom × List Char) := do
  match f.skip cs with
  | '{' :: rest =>
    let (ds, rest) ← readHexBrace f (rest.length + 1) [] (f.skip rest)
    if ds = [] then throw .invalidEscape
    match charOfCode? (ds.foldl (fun n d => 16 * n + d) 0) with
    | some c => return (.literal c, rest)
    | none => throw .invalidEscape
  | rest =>
    let (n, rest) ← readHexDigits f digits 0 rest
    if !f.unicode && digits == 2 && 0x7F < n then throw .bytesOnly
    match charOfCode? n with
    | some c => return (.literal c, rest)
    | none => throw .invalidEscape

/-- Splits a text at the first occurrence of one of two separators. -/
def cutProperty (name : List Char) : List Char × Option (Bool × List Char) :=
  match Text.split? "!=".toList name with
  | some (before, after) => (before, some (true, after))
  | none =>
    match Text.split? ":".toList name with
    | some (before, after) => (before, some (false, after))
    | none =>
      match Text.split? "=".toList name with
      | some (before, after) => (before, some (false, after))
      | none => (name, none)

/-- The class of a property as it is written between braces. -/
def namedProperty (name : List Char) : Option CharClass :=
  match cutProperty name with
  | (name, none) => CharClass.property? name
  | (name, some (negated, value)) =>
    (CharClass.propertyValue? name value).map (CharClass.negatedIf negated)

/-- The characters up to a closing brace, without what is ignored. -/
def readBraced (f : Flags) :
    (fuel : Nat) → (read : List Char) → List Char → Except Defect (List Char × List Char)
  | 0, _, _ => .error .invalidEscape
  | _ + 1, _, [] => .error .invalidEscape
  | fuel + 1, read, c :: cs =>
    if c = '}' then .ok (read.reverse, cs) else readBraced f fuel (c :: read) (f.skip cs)

/-- Reads a property class, after the letter that announces it. -/
def readProperty (f : Flags) (negated : Bool) (cs : List Char) :
    Except Defect (Atom × List Char) := do
  let finish (cls : Option CharClass) (rest : List Char) : Except Defect (Atom × List Char) :=
    match cls with
    | none => .error .unknownProperty
    | some cls =>
      if f.unicode then
        .ok (.set (CharClass.negatedIf negated (CharClass.caselessIf f.ignoreCase cls)), rest)
      else .error .bytesOnly
  match f.skip cs with
  | [] => throw .invalidEscape
  | '{' :: rest =>
    let (name, rest) ← readBraced f (rest.length + 1) [] (f.skip rest)
    finish (namedProperty name) rest
  | '\\' :: _ => throw .invalidEscape
  | c :: rest => finish (CharClass.category? (CharClass.foldName [c])) rest

/-- Characters that are special in expressions. -/
def isMeta (c : Char) : Bool := "\\.+*?()|[]\x7b\x7d^$#&-~".toList.contains c

/-- Characters that may be escaped though they need not. -/
def isEscapable (c : Char) : Bool :=
  isMeta c || (c.toNat < 128 && !c.isAlphanum && c != '<' && c != '>')

/-- A character of the name of a special word boundary. -/
def isBoundaryNameChar (c : Char) : Bool := c.isAlpha || c == '-'

/-- The name of a special word boundary, and what follows it. -/
def readBoundaryName (f : Flags) :
    (fuel : Nat) → (read : List Char) → List Char → List Char × List Char
  | 0, read, cs => (read.reverse, cs)
  | _ + 1, read, [] => (read.reverse, [])
  | fuel + 1, read, c :: cs =>
    if isBoundaryNameChar c then readBoundaryName f fuel (c :: read) (f.skip cs)
    else (read.reverse, c :: cs)

/-- Reads a word boundary, after its letter; a name between braces makes it a special one. -/
def readBoundary (f : Flags) (cs : List Char) : Except Defect (Atom × List Char) :=
  match cs with
  | '{' :: rest =>
    match f.skip rest with
    | [] => .error .invalidEscape
    | c :: more =>
      if !isBoundaryNameChar c then .ok (.assertion (.wordBoundary f.unicode), cs)
      else
        match readBoundaryName f (more.length + 1) [] (c :: more) with
        | (name, '}' :: rest) =>
          if name = "start".toList then .ok (.assertion (.wordStart f.unicode), rest)
          else if name = "end".toList then .ok (.assertion (.wordEnd f.unicode), rest)
          else if name = "start-half".toList then .ok (.assertion (.wordStartHalf f.unicode), rest)
          else if name = "end-half".toList then .ok (.assertion (.wordEndHalf f.unicode), rest)
          else .error .invalidEscape
        | _ => .error .invalidEscape
  | _ => .ok (.assertion (.wordBoundary f.unicode), cs)

/-- A class that a letter stands for, or its complement. -/
def perlClass (f : Flags) (negated : Bool) (cls : Bool → CharClass) (rest : List Char) :
    Except Defect (Atom × List Char) :=
  if negated && !f.unicode then .error .bytesOnly
  else .ok (.set (CharClass.negatedIf negated (cls f.unicode)), rest)

/-- Reads an escape, after its backslash. -/
def readEscape (f : Flags) : List Char → Except Defect (Atom × List Char)
  | [] => .error .invalidEscape
  | c :: cs =>
    if c.isDigit then .error .backreference
    else if c = 'x' then readHex f 2 cs
    else if c = 'u' then readHex f 4 cs
    else if c = 'U' then readHex f 8 cs
    else if c = 'p' then readProperty f false cs
    else if c = 'P' then readProperty f true cs
    else if c = 'd' ∨ c = 'D' then perlClass f (c == 'D') CharClass.digit cs
    else if c = 's' ∨ c = 'S' then perlClass f (c == 'S') CharClass.space cs
    else if c = 'w' ∨ c = 'W' then perlClass f (c == 'W') CharClass.word cs
    else if isEscapable c then .ok (.literal c, cs)
    else if c = 'a' then .ok (.literal '\x07', cs)
    else if c = 'f' then .ok (.literal '\x0C', cs)
    else if c = 't' then .ok (.literal '\t', cs)
    else if c = 'n' then .ok (.literal '\n', cs)
    else if c = 'r' then .ok (.literal '\r', cs)
    else if c = 'v' then .ok (.literal '\x0B', cs)
    else if c = 'A' then .ok (.assertion .textStart, cs)
    else if c = 'z' then .ok (.assertion .textEnd, cs)
    else if c = 'b' then readBoundary f cs
    else if c = 'B' then .ok (.assertion (.notWordBoundary f.unicode), cs)
    else if c = '<' then .ok (.assertion (.wordStart f.unicode), cs)
    else if c = '>' then .ok (.assertion (.wordEnd f.unicode), cs)
    else .error .invalidEscape

end Slipway.Regex
