import Slipway.Text.Search

/-!
# TOML strings

Model of the strings of `toml::from_str`, for `load_config` (`keel_config::loader`). Strings come
between single or double quotes, on one line or, between three quotes, on several. Between double
quotes a backslash starts an escape. Control characters other than the tab are refused.
-/

namespace Slipway.Toml.Quoted

/-- A blank or a tab. -/
def isGap (c : Char) : Bool := c == ' ' || c == '\t'

/-- A character that a string or a comment may hold as it is. -/
def isAllowed (c : Char) : Bool := c == '\t' || (0x20 ≤ c.toNat && c.toNat ≠ 0x7F)

/-- A hexadecimal digit. -/
def isHexDigit (c : Char) : Bool :=
  ('0' ≤ c && c ≤ '9') || ('a' ≤ c && c ≤ 'f') || ('A' ≤ c && c ≤ 'F')

/-- The value of a hexadecimal digit. -/
def hexValue (c : Char) : Nat :=
  if c ≤ '9' then c.toNat - '0'.toNat
  else if c ≤ 'F' then c.toNat - 'A'.toNat + 10
  else c.toNat - 'a'.toNat + 10

/-- The character whose code is written in so many hexadecimal digits, and the rest. -/
def coded? (width : Nat) (cs : List Char) : Option (Char × List Char) :=
  let ds := cs.take width
  let n := ds.foldl (fun n c => 16 * n + hexValue c) 0
  if ds.length = width ∧ ds.all isHexDigit ∧ n.isValidChar then some (Char.ofNat n, cs.drop width)
  else none

/-- The character of an escape, after the backslash, and the rest. -/
def escape? : List Char → Option (Char × List Char)
  | [] => none
  | c :: cs =>
    match c with
    | 'b' => some ('\x08', cs)
    | 't' => some ('\t', cs)
    | 'n' => some ('\n', cs)
    | 'f' => some ('\x0c', cs)
    | 'r' => some ('\r', cs)
    | 'e' => some ('\x1b', cs)
    | '"' => some ('"', cs)
    | '\\' => some ('\\', cs)
    | 'x' => coded? 2 cs
    | 'u' => coded? 4 cs
    | 'U' => coded? 8 cs
    | _ => none

/-- The rest after a line end. -/
def afterNewline? : List Char → Option (List Char)
  | '\n' :: cs => some cs
  | '\r' :: '\n' :: cs => some cs
  | _ => none

/-- Cuts the line end with which a string on several lines may begin. -/
def dropNewline (cs : List Char) : List Char := (afterNewline? cs).getD cs

/-- Cuts blanks, tabs and line ends. -/
def dropFiller (cs : List Char) : List Char :=
  cs.dropWhile fun c => isGap c || c == '\n' || c == '\r'

/-- Reads to the closing double quote on the same line. The fuel is the length of the text; `read`
holds what has been read, backwards. -/
def basic? : (fuel : Nat) → (read : List Char) → List Char → Option (List Char × List Char)
  | 0, _, _ => none
  | _ + 1, _, [] => none
  | _ + 1, read, '"' :: cs => some (read.reverse, cs)
  | fuel + 1, read, '\\' :: cs =>
    match escape? cs with
    | some (c, cs) => basic? fuel (c :: read) cs
    | none => none
  | fuel + 1, read, c :: cs => if isAllowed c then basic? fuel (c :: read) cs else none

/-- Reads to the closing single quote on the same line. -/
def literal? : (read : List Char) → List Char → Option (List Char × List Char)
  | _, [] => none
  | read, c :: cs =>
    if c = '\'' then some (read.reverse, cs)
    else if isAllowed c then literal? (c :: read) cs
    else none

/-- The quotes at the end of a string on several lines: up to two of them belong to the string. -/
def closing (quote : Char) (read : List Char) : List Char → List Char × List Char
  | a :: b :: cs =>
    if a = quote ∧ b = quote then ((quote :: quote :: read).reverse, cs)
    else if a = quote then ((quote :: read).reverse, b :: cs)
    else (read.reverse, a :: b :: cs)
  | [a] => if a = quote then ((quote :: read).reverse, []) else (read.reverse, [a])
  | [] => (read.reverse, [])

/-- Reads to the three closing double quotes. A backslash at the end of a line skips to the next
character that is not blank. -/
def longBasic? : (fuel : Nat) → (read : List Char) → List Char → Option (List Char × List Char)
  | 0, _, _ => none
  | _ + 1, _, [] => none
  | _ + 1, read, '"' :: '"' :: '"' :: cs => some (closing '"' read cs)
  | fuel + 1, read, '\\' :: cs =>
    if (afterNewline? (cs.dropWhile isGap)).isSome then longBasic? fuel read (dropFiller cs)
    else
      match escape? cs with
      | some (c, cs) => longBasic? fuel (c :: read) cs
      | none => none
  | fuel + 1, read, '\r' :: '\n' :: cs => longBasic? fuel ('\n' :: '\r' :: read) cs
  | fuel + 1, read, c :: cs =>
    if c = '\n' ∨ isAllowed c then longBasic? fuel (c :: read) cs else none

/-- Reads to the three closing single quotes. -/
def longLiteral? : (read : List Char) → List Char → Option (List Char × List Char)
  | _, [] => none
  | read, '\'' :: '\'' :: '\'' :: cs => some (closing '\'' read cs)
  | read, '\r' :: '\n' :: cs => longLiteral? ('\n' :: '\r' :: read) cs
  | read, c :: cs => if c = '\n' ∨ isAllowed c then longLiteral? (c :: read) cs else none

/-- Reads a string on one line. -/
def short? : List Char → Option (List Char × List Char)
  | '"' :: cs => basic? (cs.length + 1) [] cs
  | '\'' :: cs => literal? [] cs
  | _ => none

/-- Reads a string. -/
def read? : List Char → Option (List Char × List Char)
  | '"' :: '"' :: '"' :: cs => longBasic? (cs.length + 1) [] (dropNewline cs)
  | '\'' :: '\'' :: '\'' :: cs => longLiteral? [] (dropNewline cs)
  | cs => short? cs

end Slipway.Toml.Quoted
