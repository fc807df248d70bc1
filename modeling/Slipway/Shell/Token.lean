import Slipway.Text.Search

/-!
# Shell tokens

A script is cut into words and operators. A word is made of pieces: text, quoted or not, and
parameters that the shell expands when it runs the word.
-/

namespace Slipway.Shell

/-- A piece of a word. -/
inductive Piece where
  | text (quoted : Bool) (cs : List Char)
  | parameter (quoted : Bool) (name : List Char)
  deriving DecidableEq, Repr

/-- A word before its expansion. -/
abbrev Word := List Piece

/-- Where the output or the input of a command goes to or comes from. -/
inductive RedirectKind where
  | overwrite
  | append
  | input
  | duplicate
  deriving DecidableEq, Repr

/-- A token of a script. -/
inductive Token where
  | word (w : Word)
  | redirect (descriptor : Nat) (kind : RedirectKind)
  | newline
  | semicolon
  | andIf
  | orIf
  | pipe
  | openParen
  | closeParen
  deriving DecidableEq, Repr

namespace Token

/-- A blank or a tab. -/
def isGap (c : Char) : Bool := c == ' ' || c == '\t'

/-- A character that ends a word. -/
def isBreak (c : Char) : Bool :=
  isGap c || ['\n', ';', '&', '|', '<', '>', '(', ')'].contains c

/-- The character that starts a substitution of a command in its old form. -/
def backquote : Char := '\x60'

/-- A character of the name of a variable. -/
def isNameChar (c : Char) : Bool := c.isAlphanum || c == '_'

/-- Reads a parameter after its dollar sign, and the rest. A dollar sign on its own is text. -/
def parameter? : List Char → Option (Option (List Char) × List Char)
  | [] => some (none, [])
  | '(' :: _ => none
  | '\x7b' :: cs =>
    let name := cs.takeWhile (· ≠ '\x7d')
    let isName := name.all isNameChar ∨ name = ['?'] ∨ name = ['$']
    if name ≠ [] ∧ isName ∧ name.length < cs.length then
      some (some name, cs.drop (name.length + 1))
    else none
  | c :: cs =>
    if ['?', '$', '#', '@', '*'].contains c then some (some [c], cs)
    else if c.isDigit then some (some [c], cs)
    else if isNameChar c then
      some (some ((c :: cs).takeWhile isNameChar), (c :: cs).dropWhile isNameChar)
    else some (none, c :: cs)

/-- Reads a parameter as a piece. -/
def readParameter? (quoted : Bool) (cs : List Char) : Option (Piece × List Char) :=
  (parameter? cs).map fun (name, rest) =>
    match name with
    | some name => (.parameter quoted name, rest)
    | none => (.text quoted ['$'], rest)

/-- Reads to the closing double quote. The fuel is the length of the text. -/
def readDouble? : (fuel : Nat) → (read : Word) → List Char → Option (Word × List Char)
  | 0, _, _ => none
  | _ + 1, _, [] => none
  | fuel + 1, read, c :: cs =>
    if c = '"' then some (read, cs)
    else if c = '\\' then
      match cs with
      | '\n' :: cs => readDouble? fuel read cs
      | d :: cs =>
        if d = '"' ∨ d = '\\' ∨ d = '$' ∨ d = backquote then
          readDouble? fuel (.text true [d] :: read) cs
        else readDouble? fuel (.text true ['\\', d] :: read) cs
      | [] => none
    else if c = '$' then
      match readParameter? true cs with
      | some (piece, cs) => readDouble? fuel (piece :: read) cs
      | none => none
    else if c = backquote then none
    else readDouble? fuel (.text true [c] :: read) cs

/-- Reads a word; `read` holds its pieces, backwards. -/
def readWord? : (fuel : Nat) → (read : Word) → List Char → Option (Word × List Char)
  | 0, _, _ => none
  | _ + 1, read, [] => some (read.reverse, [])
  | fuel + 1, read, c :: cs =>
    if isBreak c then some (read.reverse, c :: cs)
    else if c = '\'' then
      let body := cs.takeWhile (· ≠ '\'')
      if body.length < cs.length then
        readWord? fuel (.text true body :: read) (cs.drop (body.length + 1))
      else none
    else if c = '"' then
      match readDouble? (cs.length + 1) (.text true [] :: read) cs with
      | some (read, cs) => readWord? fuel read cs
      | none => none
    else if c = '\\' then
      match cs with
      | '\n' :: cs => readWord? fuel read cs
      | d :: cs => readWord? fuel (.text true [d] :: read) cs
      | [] => readWord? fuel (.text true ['\\'] :: read) []
    else if c = '$' then
      match readParameter? false cs with
      | some (piece, cs) => readWord? fuel (piece :: read) cs
      | none => none
    else if c = backquote then none
    else readWord? fuel (.text false [c] :: read) cs

/-- Reads a redirection operator. -/
def readRedirect? (descriptor : Option Nat) : List Char → Option (Token × List Char)
  | '>' :: '>' :: cs => some (.redirect (descriptor.getD 1) .append, cs)
  | '>' :: '&' :: cs => some (.redirect (descriptor.getD 1) .duplicate, cs)
  | '>' :: '|' :: cs => some (.redirect (descriptor.getD 1) .overwrite, cs)
  | '>' :: cs => some (.redirect (descriptor.getD 1) .overwrite, cs)
  | '<' :: '<' :: _ => none
  | '<' :: '&' :: cs => some (.redirect (descriptor.getD 0) .duplicate, cs)
  | '<' :: cs => some (.redirect (descriptor.getD 0) .input, cs)
  | _ => none

/-- Reads the token at the start of a text that begins with no blank. -/
def readOne? : List Char → Option (Token × List Char)
  | '\n' :: cs => some (.newline, cs)
  | ';' :: ';' :: _ => none
  | ';' :: cs => some (.semicolon, cs)
  | '&' :: '&' :: cs => some (.andIf, cs)
  | '&' :: _ => none
  | '|' :: '|' :: cs => some (.orIf, cs)
  | '|' :: cs => some (.pipe, cs)
  | '(' :: cs => some (.openParen, cs)
  | ')' :: cs => some (.closeParen, cs)
  | c :: d :: cs =>
    if c = '>' ∨ c = '<' then readRedirect? none (c :: d :: cs)
    else if c.isDigit ∧ (d = '>' ∨ d = '<') then
      readRedirect? (some (c.toNat - '0'.toNat)) (d :: cs)
    else (readWord? (cs.length + 3) [] (c :: d :: cs)).map fun (w, rest) => (.word w, rest)
  | [c] =>
    if c = '>' then some (.redirect 1 .overwrite, [])
    else if c = '<' then some (.redirect 0 .input, [])
    else (readWord? 2 [] [c]).map fun (w, rest) => (.word w, rest)
  | [] => none

/-- Cuts a script into tokens. A number sign at the start of a word begins a comment. The fuel is
the length of the text. -/
def readAll? : (fuel : Nat) → List Char → Option (List Token)
  | 0, cs => if cs = [] then some [] else none
  | fuel + 1, cs =>
    match cs.dropWhile isGap with
    | [] => some []
    | '#' :: rest => readAll? fuel (rest.dropWhile (· ≠ '\n'))
    | '\\' :: '\n' :: rest => readAll? fuel rest
    | rest =>
      match readOne? rest with
      | none => none
      | some (t, rest) => (readAll? fuel rest).map (t :: ·)

end Token

end Slipway.Shell
