import Slipway.Text.Numeral
import Slipway.Toml.Value
import Slipway.Version.Basic

/-!
# Bare scalars

Model of the scalars of `toml::from_str`, for `load_config` (`keel_config::loader`). Numbers,
booleans, dates and times are written without quotes. `Scalar.read?` reads such a token.
-/

namespace Slipway.Toml.Scalar

/-- Digits with single underscores between them. -/
def grouped? (digit : Char → Bool) (cs : List Char) : Option (List Char) :=
  let groups := Version.splitAtChar '_' cs
  if groups.all fun g => g ≠ [] ∧ g.all digit then some groups.flatten else none

/-- The sign of a number, and the rest. -/
def sign : List Char → Bool × List Char
  | '-' :: cs => (true, cs)
  | '+' :: cs => (false, cs)
  | cs => (false, cs)

/-- The value of a digit; letters count from ten on. -/
def digitValue (c : Char) : Nat :=
  if Text.isDigit c then c.toNat - '0'.toNat else c.toLower.toNat - 'a'.toNat + 10

/-- A digit of a base. -/
def isDigitOf (base : Nat) (c : Char) : Bool := c.isAlphanum && digitValue c < base

/-- Reads the digits of a number in a base. -/
def inBase? (base : Nat) (cs : List Char) : Option Int :=
  (grouped? (isDigitOf base) cs).map fun ds =>
    (ds.foldl (fun n c => base * n + digitValue c) 0 : Nat)

/-- Decimal digits without leading zeros. -/
def whole? (cs : List Char) : Option (List Char) :=
  (grouped? Text.isDigit cs).filter fun ds => ds = ['0'] || ds.head? ≠ some '0'

/-- Reads an integer. -/
def integer? : List Char → Option Int
  | '0' :: 'x' :: cs => inBase? 16 cs
  | '0' :: 'o' :: cs => inBase? 8 cs
  | '0' :: 'b' :: cs => inBase? 2 cs
  | cs =>
    let (negative, cs) := sign cs
    (whole? cs).map fun ds =>
      if negative then -(Text.numeralValue ds : Int) else Text.numeralValue ds

/-- Splits a text at the first of some characters: what stands before and after it. -/
def cutAt (cut : Char → Bool) (cs : List Char) : List Char × Option (List Char) :=
  match cs.dropWhile (!cut ·) with
  | [] => (cs, none)
  | _ :: rest => (cs.takeWhile (!cut ·), some rest)

/-- Whether a token is a number with a fraction or an exponent, in the range of double precision,
or one of the special numbers. -/
def isFloat (cs : List Char) : Bool :=
  let unsigned := (sign cs).2
  if unsigned = "inf".toList ∨ unsigned = "nan".toList then true
  else
    let (mantissa, exponent) := cutAt (fun c => c == 'e' || c == 'E') unsigned
    let (whole, fraction) := cutAt (· == '.') mantissa
    if exponent = none ∧ fraction = none then false
    else
      let read : Option Bool := do
        let whole ← whole? whole
        let fraction ← match fraction with
          | none => some []
          | some ds => grouped? Text.isDigit ds
        let exponent ← match exponent with
          | none => some 0
          | some ds =>
            let (negative, ds) := sign ds
            (grouped? Text.isDigit ds).map fun ds =>
              if negative then -(Text.numeralValue ds : Int) else Text.numeralValue ds
        return Text.fitsDouble (whole ++ fraction) (exponent - fraction.length)
      read.getD false

/-- Two digits that name a number within bounds, and the rest. -/
def pair? (low high : Nat) : List Char → Option (Nat × List Char)
  | a :: b :: cs =>
    let n := Text.numeralValue [a, b]
    if Text.isDigit a ∧ Text.isDigit b ∧ low ≤ n ∧ n ≤ high then some (n, cs) else none
  | _ => none

/-- The number of days of a month. -/
def daysOf (year month : Nat) : Nat :=
  if month = 2 then
    if year % 4 = 0 ∧ (year % 100 ≠ 0 ∨ year % 400 = 0) then 29 else 28
  else if month = 4 ∨ month = 6 ∨ month = 9 ∨ month = 11 then 30
  else 31

/-- A date at the start of a text; gives the rest. -/
def date? (cs : List Char) : Option (List Char) :=
  let year := cs.take 4
  if year.length = 4 ∧ year.all Text.isDigit then
    match cs.drop 4 with
    | '-' :: cs => do
      let (month, cs) ← pair? 1 12 cs
      match cs with
      | '-' :: cs => (pair? 1 (daysOf (Text.numeralValue year) month) cs).map Prod.snd
      | _ => none
    | _ => none
  else none

/-- The fraction of a second at the start of a text, if there is one; gives the rest. -/
def secondFraction? : List Char → Option (List Char)
  | '.' :: cs => if (Text.spanDigits cs).1 = [] then none else some (Text.spanDigits cs).2
  | cs => some cs

/-- A time at the start of a text, with or without seconds; gives the rest. -/
def time? (cs : List Char) : Option (List Char) := do
  let (_, cs) ← pair? 0 23 cs
  match cs with
  | ':' :: cs =>
    let (_, cs) ← pair? 0 59 cs
    match cs with
    | ':' :: cs => secondFraction? (← pair? 0 60 cs).2
    | cs => some cs
  | _ => none

/-- What may follow a date with a time: nothing, or the offset from universal time. -/
def isOffset : List Char → Bool
  | [] | ['Z'] | ['z'] => true
  | s :: cs =>
    let read : Option (List Char) := do
      let (_, cs) ← pair? 0 23 cs
      match cs with
      | ':' :: cs => (pair? 0 59 cs).map Prod.snd
      | _ => none
    (s == '+' || s == '-') && read == some []

/-- Whether a token is a date, a time, or both. -/
def isMoment (cs : List Char) : Bool :=
  match date? cs with
  | some [] => true
  | some (t :: rest) => (t == 'T' || t == 't' || t == ' ') && (time? rest).any isOffset
  | none => time? cs == some []

/-- The integers that a reader accepts. -/
structure IntegerRange where
  least : Int
  greatest : Int

/-- Reads a token. -/
def read? (range : IntegerRange) (cs : List Char) : Option Value :=
  if cs = "true".toList then some (.boolean true)
  else if cs = "false".toList then some (.boolean false)
  else if isMoment cs then some (.moment (String.ofList cs))
  else
    match integer? cs with
    | some n => if range.least ≤ n ∧ n ≤ range.greatest then some (.integer n) else none
    | none => if isFloat cs then some (.float (String.ofList cs)) else none

end Slipway.Toml.Scalar
