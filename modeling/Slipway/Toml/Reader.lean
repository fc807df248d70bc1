import Slipway.Toml.Assemble
import Slipway.Toml.Quoted
import Slipway.Toml.Scalar

/-!
# Reading TOML

Model of `toml::from_str`, for `load_config` (`keel_config::loader`). `Document.read?` reads a
document: lines that each hold a header, an assignment or nothing. Strings may use the escapes for
the escape character and for one byte, the seconds of a time may be left out, and a table between
braces may stretch over several lines.
-/

namespace Slipway.Toml

/-- Cuts a comment, up to the end of its line. -/
def dropComment? (cs : List Char) : Option (List Char) :=
  match cs.dropWhile Quoted.isAllowed with
  | [] => some []
  | rest => if (Quoted.afterNewline? rest).isSome then some rest else none

/-- The rest of a text after the end of a line, or the empty text at the end of the document. Blanks
and a comment may stand before it. -/
def lineEnd? (cs : List Char) : Option (List Char) :=
  match cs.dropWhile Quoted.isGap with
  | [] => some []
  | '#' :: rest => do
    let rest ← dropComment? rest
    return Quoted.dropNewline rest
  | rest => Quoted.afterNewline? rest

/-- Cuts blanks, line ends and comments. The fuel is the length of the text. -/
def dropFiller? : (fuel : Nat) → List Char → Option (List Char)
  | 0, cs => some cs
  | fuel + 1, cs =>
    match cs.dropWhile Quoted.isGap with
    | '#' :: rest => (dropComment? rest).bind (dropFiller? fuel)
    | rest =>
      match Quoted.afterNewline? rest with
      | some rest => dropFiller? fuel rest
      | none => some rest

/-- A character of a name without quotes. -/
def isNameChar (c : Char) : Bool := c.isAlphanum || c == '-' || c == '_'

/-- Reads one name of a key. -/
def readName? (cs : List Char) : Option (String × List Char) :=
  match cs with
  | '"' :: _ | '\'' :: _ => (Quoted.short? cs).map fun (s, rest) => (String.ofList s, rest)
  | _ =>
    let name := cs.takeWhile isNameChar
    if name = [] then none else some (String.ofList name, cs.dropWhile isNameChar)

/-- Reads a key: names with dots between them. Blanks may stand around the names. -/
def readKey? : (fuel : Nat) → List Char → Option (List String × List Char)
  | 0, _ => none
  | fuel + 1, cs => do
    let (name, rest) ← readName? (cs.dropWhile Quoted.isGap)
    match rest.dropWhile Quoted.isGap with
    | '.' :: rest =>
      let (names, rest) ← readKey? fuel rest
      return (name :: names, rest)
    | rest => return ([name], rest)

/-- A character of a number, a boolean, a date or a time. -/
def isScalarChar (c : Char) : Bool :=
  c.isAlphanum || c == '+' || c == '-' || c == '_' || c == '.' || c == ':'

/-- Cuts the token of a bare scalar. A date may go on with a time after one blank. -/
def scalarToken (cs : List Char) : List Char × List Char :=
  let token := cs.takeWhile isScalarChar
  let rest := cs.dropWhile isScalarChar
  match rest with
  | ' ' :: next :: more =>
    if Scalar.date? token = some [] ∧ Text.isDigit next then
      (token ++ ' ' :: (next :: more).takeWhile isScalarChar, (next :: more).dropWhile isScalarChar)
    else (token, rest)
  | _ => (token, rest)

/-- How deep arrays and tables between braces may nest. -/
def maxNesting : Nat := 80

mutual

/-- Reads a value at the start of a text. The fuel is computed from the length of the text. -/
def readValue? (range : Scalar.IntegerRange) : (fuel depth : Nat) → List Char →
    Option (Value × List Char)
  | 0, _, _ => none
  | fuel + 1, depth, cs =>
    match cs with
    | '"' :: _ | '\'' :: _ =>
      (Quoted.read? cs).map fun (s, rest) => (.string (String.ofList s), rest)
    | '[' :: rest => if maxNesting ≤ depth then none else readItems? range fuel (depth + 1) [] rest
    | '\x7b' :: rest =>
      if maxNesting ≤ depth then none else readMembers? range fuel (depth + 1) [] rest
    | _ =>
      let (token, rest) := scalarToken cs
      (Scalar.read? range token).map fun v => (v, rest)

/-- Reads the items of an array up to its end. A comma may stand behind the last one. -/
def readItems? (range : Scalar.IntegerRange) : (fuel depth : Nat) → (read : List Value) →
    List Char → Option (Value × List Char)
  | 0, _, _, _ => none
  | fuel + 1, depth, read, cs =>
    match dropFiller? cs.length cs with
    | none => none
    | some (']' :: rest) => some (.array read.reverse, rest)
    | some rest =>
      match readValue? range fuel depth rest with
      | none => none
      | some (v, rest) =>
        match dropFiller? rest.length rest with
        | some (',' :: rest) => readItems? range fuel depth (v :: read) rest
        | some (']' :: rest) => some (.array (v :: read).reverse, rest)
        | _ => none

/-- Reads the assignments of a table between braces up to its end. -/
def readMembers? (range : Scalar.IntegerRange) : (fuel depth : Nat) → (read : Members) →
    List Char → Option (Value × List Char)
  | 0, _, _, _ => none
  | fuel + 1, depth, read, cs =>
    match dropFiller? cs.length cs with
    | none => none
    | some ('\x7d' :: rest) => some (.table .inline read, rest)
    | some rest =>
      match readKey? rest.length rest with
      | some (key, '=' :: rest) =>
        match readValue? range fuel depth (rest.dropWhile Quoted.isGap) with
        | none => none
        | some (v, rest) =>
          match read.assign? v key, dropFiller? rest.length rest with
          | some read, some (',' :: rest) => readMembers? range fuel depth read rest
          | some read, some ('\x7d' :: rest) => some (.table .inline read, rest)
          | _, _ => none
      | _ => none

end

/-- A document that is read: what it holds so far, and the path of the header that counts. -/
structure Document where
  members : Members
  path : List String

namespace Document

/-- Reads a header, after its brackets, up to the closing ones. -/
def header? (close : List Char) (cs : List Char) : Option (List String × String × List Char) := do
  let (key, rest) ← readKey? (cs.length + 1) cs
  let rest ← Text.after? close rest
  match key.reverse with
  | name :: path => return (path.reverse, name, rest)
  | [] => none

/-- Reads one line that is not empty: a header or an assignment. Gives the text from the end of the
line on. -/
def line? (range : Scalar.IntegerRange) (d : Document) (cs : List Char) :
    Option (Document × List Char) :=
  match cs with
  | '[' :: '[' :: rest => do
    let (path, name, rest) ← header? [']', ']'] rest
    return (⟨← d.members.appendTable? path name, path ++ [name]⟩, rest)
  | '[' :: rest => do
    let (path, name, rest) ← header? [']'] rest
    return (⟨← d.members.openTable? path name, path ++ [name]⟩, rest)
  | _ => do
    let (key, rest) ← readKey? (cs.length + 1) cs
    match rest with
    | '=' :: rest =>
      let (v, rest) ← readValue? range (2 * rest.length + 2) 0 (rest.dropWhile Quoted.isGap)
      let members ← d.members.update? (fun below => below.assign? v key) d.path
      return ({ d with members := members }, rest)
    | _ => none

/-- Reads the lines of a document. The fuel is the length of the text. -/
def lines? (range : Scalar.IntegerRange) : (fuel : Nat) → Document → List Char → Option Document
  | 0, _, _ => none
  | fuel + 1, d, cs =>
    match cs.dropWhile Quoted.isGap with
    | [] => some d
    | rest =>
      match lineEnd? rest with
      | some rest => lines? range fuel d rest
      | none =>
        match line? range d rest with
        | none => none
        | some (d, rest) =>
          match lineEnd? rest with
          | some rest => lines? range fuel d rest
          | none => none

/-- Cuts the byte order mark at the start of a text. -/
def dropMark : List Char → List Char
  | '\ufeff' :: cs => cs
  | cs => cs

/-- Reads a document: the members of its root table. -/
def read? (range : Scalar.IntegerRange) (text : String) : Option Members :=
  let cs := dropMark text.toList
  (lines? range (cs.length + 1) ⟨[], []⟩ cs).map Document.members

end Document

end Slipway.Toml
