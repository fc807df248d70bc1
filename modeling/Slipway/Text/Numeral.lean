/-!
# Decimal numerals

Numerals as `str::parse::<u64>` reads them and `u64` is shown: digits, the value of a numeral,
numerals of a fixed width, and whether a decimal number lies in the range of double precision.
-/

namespace Slipway.Text

/-- A decimal digit. -/
def isDigit (c : Char) : Bool := '0' ≤ c && c ≤ '9'

/-- The value of a decimal numeral. -/
def numeralValue (digits : List Char) : Nat :=
  digits.foldl (fun n c => 10 * n + (c.toNat - '0'.toNat)) 0

/-- The digits at the start of a text, and the rest. -/
def spanDigits (cs : List Char) : List Char × List Char :=
  (cs.takeWhile isDigit, cs.dropWhile isDigit)

/-- A numeral filled with zeros on the left up to a width. -/
def padded (width n : Nat) : String :=
  let digits := toString n
  "".pushn '0' (width - digits.length) ++ digits

/-- The numbers from here on round to infinity in double precision. -/
def doubleLimit : Nat := Nat.pow 2 1024 - Nat.pow 2 970

/-- Whether a decimal number, given by its digits and the power of ten behind them, lies in the
range of double precision. -/
def fitsDouble (digits : List Char) (exponent : Int) : Bool :=
  let n := numeralValue digits
  let places := exponent.natAbs
  if n = 0 then true
  else if exponent < 0 then digits.length ≤ places || n < doubleLimit * Nat.pow 10 places
  else places ≤ 400 && n * Nat.pow 10 places < doubleLimit

end Slipway.Text
