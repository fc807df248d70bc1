import Slipway.Json.Value
import Slipway.Text.Numeral

/-!
# Reading JSON

Model of `serde_json::from_str`, for `read_json_version` (`keel_core::files`). `Value.read?` reads a
JSON text. Strings hold no control characters and no lone surrogates, numbers have to lie in the
range of double precision, and arrays and objects nest less than 128 deep.
-/

namespace Slipway.Json

/-- A blank character. -/
def isBlank (c : Char) : Bool := c == ' ' || c == '\t' || c == '\n' || c == '\r'

/-- Drops the blanks at the start of a text. -/
def skip (cs : List Char) : List Char := cs.dropWhile isBlank

/-- The value of a hexadecimal digit. -/
def hexDigit? (c : Char) : Option Nat :=
  if '0' ≤ c ∧ c ≤ '9' then some (c.toNat - '0'.toNat)
  else if 'a' ≤ c ∧ c ≤ 'f' then some (c.toNat - 'a'.toNat + 10)
  else if 'A' ≤ c ∧ c ≤ 'F' then some (c.toNat - 'A'.toNat + 10)
  else none

/-- The value of four hexadecimal digits. -/
def unit? (a b c d : Char) : Option Nat := do
  return (((← hexDigit? a) * 16 + (← hexDigit? b)) * 16 + (← hexDigit? c)) * 16 + (← hexDigit? d)

/-- The character of two surrogates. -/
def pairedChar? (high low : Nat) : Option Char :=
  if 0xDC00 ≤ low ∧ low ≤ 0xDFFF then
    some (Char.ofNat (0x10000 + (high - 0xD800) * 0x400 + (low - 0xDC00)))
  else none

/-- The character of a letter after a backslash. -/
def escaped? (c : Char) : Option Char :=
  match c with
  | '"' => some '"'
  | '\\' => some '\\'
  | '/' => some '/'
  | 'b' => some '\x08'
  | 'f' => some '\x0C'
  | 'n' => some '\n'
  | 'r' => some '\r'
  | 't' => some '\t'
  | _ => none

/-- Reads a string after its opening quote: its characters and the rest of the text. -/
def readString : (read : List Char) → List Char → Option (List Char × List Char)
  | _, [] => none
  | read, '"' :: cs => some (read.reverse, cs)
  | read, '\\' :: 'u' :: a :: b :: c :: d :: '\\' :: 'u' :: e :: f :: g :: h :: cs =>
    match unit? a b c d with
    | none => none
    | some n =>
      if 0xD800 ≤ n ∧ n ≤ 0xDBFF then
        match (unit? e f g h).bind (pairedChar? n) with
        | some x => readString (x :: read) cs
        | none => none
      else if 0xDC00 ≤ n ∧ n ≤ 0xDFFF then none
      else readString (Char.ofNat n :: read) ('\\' :: 'u' :: e :: f :: g :: h :: cs)
  | read, '\\' :: 'u' :: a :: b :: c :: d :: cs =>
    match unit? a b c d with
    | some n =>
      if 0xD800 ≤ n ∧ n ≤ 0xDFFF then none else readString (Char.ofNat n :: read) cs
    | none => none
  | read, '\\' :: c :: cs =>
    match escaped? c with
    | some x => readString (x :: read) cs
    | none => none
  | read, c :: cs => if c.toNat < 0x20 then none else readString (c :: read) cs

/-- Reads the exponent of a number. -/
def readExponent (cs : List Char) : Option (Int × List Char) :=
  match cs with
  | e :: rest =>
    if e = 'e' ∨ e = 'E' then
      let (negative, rest) :=
        match rest with
        | '+' :: r => (false, r)
        | '-' :: r => (true, r)
        | r => (false, r)
      let (ds, rest) := Text.spanDigits rest
      if ds = [] then none
      else some (if negative then -(Text.numeralValue ds : Int) else Text.numeralValue ds, rest)
    else some (0, cs)
  | [] => some (0, [])

/-- Reads a number. -/
def readNumber (cs : List Char) : Option (Value × List Char) := do
  let unsigned :=
    match cs with
    | '-' :: rest => rest
    | rest => rest
  let (whole, rest) := Text.spanDigits unsigned
  if whole = [] ∨ (whole.head? = some '0' ∧ whole ≠ ['0']) then none
  let (fraction, rest) ←
    match rest with
    | '.' :: rest =>
      let (ds, rest) := Text.spanDigits rest
      if ds = [] then none else some (ds, rest)
    | rest => some ([], rest)
  let (exponent, rest) ← readExponent rest
  if Text.fitsDouble (whole ++ fraction) (exponent - fraction.length) then
    return (.number (cs.take (cs.length - rest.length)), rest)
  else none

/-- How deep arrays and objects may nest. -/
def maxDepth : Nat := 127

mutual

/-- Reads a value at the start of a text. The fuel is the length of the text. -/
def readValue : (fuel depth : Nat) → List Char → Option (Value × List Char)
  | 0, _, _ => none
  | fuel + 1, depth, cs =>
    match skip cs with
    | 'n' :: 'u' :: 'l' :: 'l' :: rest => some (.null, rest)
    | 't' :: 'r' :: 'u' :: 'e' :: rest => some (.bool true, rest)
    | 'f' :: 'a' :: 'l' :: 's' :: 'e' :: rest => some (.bool false, rest)
    | '"' :: rest => (readString [] rest).map fun (s, rest) => (.string s, rest)
    | '[' :: rest =>
      if maxDepth ≤ depth then none
      else
        match skip rest with
        | ']' :: rest => some (.array [], rest)
        | rest => readItems fuel (depth + 1) [] rest
    | '\x7b' :: rest =>
      if maxDepth ≤ depth then none
      else
        match skip rest with
        | '\x7d' :: rest => some (.object [], rest)
        | rest => readMembers fuel (depth + 1) [] rest
    | rest => readNumber rest

/-- Reads the items of an array up to its end. -/
def readItems : (fuel depth : Nat) → (read : List Value) → List Char → Option (Value × List Char)
  | 0, _, _, _ => none
  | fuel + 1, depth, read, cs =>
    match readValue fuel depth cs with
    | none => none
    | some (v, rest) =>
      match skip rest with
      | ',' :: rest => readItems fuel depth (v :: read) rest
      | ']' :: rest => some (.array (v :: read).reverse, rest)
      | _ => none

/-- Reads the members of an object up to its end. -/
def readMembers : (fuel depth : Nat) → (read : List (List Char × Value)) → List Char →
    Option (Value × List Char)
  | 0, _, _, _ => none
  | fuel + 1, depth, read, cs =>
    match skip cs with
    | '"' :: rest =>
      match readString [] rest with
      | none => none
      | some (name, rest) =>
        match skip rest with
        | ':' :: rest =>
          match readValue fuel depth rest with
          | none => none
          | some (v, rest) =>
            match skip rest with
            | ',' :: rest => readMembers fuel depth ((name, v) :: read) rest
            | '\x7d' :: rest => some (.object ((name, v) :: read).reverse, rest)
            | _ => none
        | _ => none
    | _ => none

end

/-- Reads a JSON text. -/
def Value.read? (text : List Char) : Option Value :=
  match readValue (2 * text.length + 2) 0 text with
  | some (v, rest) => if skip rest = [] then some v else none
  | none => none

end Slipway.Json
