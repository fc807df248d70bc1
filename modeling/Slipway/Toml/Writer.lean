import Slipway.Text.Quoted
import Slipway.Toml.Quoted

/-!
# Writing TOML

Model of `toml::to_string_pretty`, for `init::run` (`keel::commands`). Strings are written in the
plainest style that can hold them (`Style.of`): between double quotes, between single quotes, or on
several lines between three of either, without escapes if possible. Lists of strings take one line
per item.
-/

namespace Slipway.Toml

/-- The styles of a string. -/
inductive Style where
  | basic
  | literal
  | longBasic
  | longLiteral
  deriving DecidableEq, Repr

namespace Style

/-- The length of the longest run of a character. -/
def longestRun (c : Char) : (run : Nat) → List Char → Nat
  | run, [] => run
  | run, x :: cs => if x = c then longestRun c (run + 1) cs else max run (longestRun c 0 cs)

/-- A control character that has to be escaped in every style that has escapes. -/
def needsEscape (c : Char) : Bool := c ≠ '\n' && !Quoted.isAllowed c

/-- The style in which a string is written. -/
def of (cs : List Char) : Style :=
  let escapes := cs.any needsEscape
  let backslash := cs.contains '\\'
  let newline := cs.contains '\n'
  let double := longestRun '"' 0 cs
  let single := longestRun '\'' 0 cs
  if !escapes && !backslash && double = 0 && !newline then .basic
  else if !escapes && single = 0 && !newline then .literal
  else if !escapes && !backslash && double ≤ 2 then .longBasic
  else if !escapes && single ≤ 2 then .longLiteral
  else if newline then .longBasic
  else .basic

/-- The quotes around a string. -/
def delimiter : Style → List Char
  | basic => ['"']
  | literal => ['\'']
  | longBasic => ['"', '"', '"']
  | longLiteral => ['\'', '\'', '\'']

/-- A style on several lines. -/
def isLong : Style → Bool
  | longBasic | longLiteral => true
  | basic | literal => false

end Style

/-- A digit in capital hexadecimal. -/
def upperHexDigit (n : Nat) : Char := (Text.hexDigit n).toUpper

/-- The escape of a character without a letter of its own. -/
def codedEscape (c : Char) : List Char :=
  ['\\', 'u', '0', '0', upperHexDigit (c.toNat / 16), upperHexDigit (c.toNat % 16)]

/-- Escapes a string between double quotes, of which so many in a row may stand as they are. `run`
counts the quotes in a row. -/
def escapeFrom (long : Bool) : (run : Nat) → List Char → List Char
  | _, [] => []
  | run, c :: cs =>
    let allowed := if long then 2 else 0
    if c = '"' then
      if allowed < run + 1 then '\\' :: '"' :: escapeFrom long 0 cs
      else '"' :: escapeFrom long (run + 1) cs
    else
      let shown :=
        if c = '\x08' then ['\\', 'b']
        else if c = '\t' then ['\\', 't']
        else if c = '\n' then if long then ['\n'] else ['\\', 'n']
        else if c = '\x0c' then ['\\', 'f']
        else if c = '\r' then ['\\', 'r']
        else if c = '\\' then ['\\', '\\']
        else if Style.needsEscape c then codedEscape c
        else [c]
      shown ++ escapeFrom long 0 cs

/-- A string as it is written. -/
def stringChars (cs : List Char) : List Char :=
  let style := Style.of cs
  let body :=
    match style with
    | .basic => escapeFrom false 0 cs
    | .longBasic => escapeFrom true 0 cs
    | .literal | .longLiteral => cs
  style.delimiter ++ (if style.isLong && cs.contains '\n' then ['\n'] else []) ++ body
    ++ style.delimiter

/-- A string as it is written. -/
def stringText (s : String) : String := String.ofList (stringChars s.toList)

/-- A list of strings as it is written. -/
def listText (items : List String) : String :=
  if items = [] then "[]"
  else "[\n" ++ String.join (items.map fun s => s!"    {stringText s},\n") ++ "]"

end Slipway.Toml
