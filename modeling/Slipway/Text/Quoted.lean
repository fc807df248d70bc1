import Slipway.Unicode.Property

/-!
# Quoted texts

Model of the format `{:?}` of a text, for `CoreError` (`keel_core::error`). `quoted` writes a text
between double quotes for a message: quotes and backslashes are escaped, common controls get their
letter, and characters that would not show on their own (controls, unassigned ones, marks that
extend the character before them) are written as `\u{…}` with their code point in hexadecimal.
-/

namespace Slipway.Text

/-- A hexadecimal digit in lower case. -/
def hexDigit (n : Nat) : Char := if n < 10 then Char.ofNat (48 + n) else Char.ofNat (87 + n)

/-- The hexadecimal numeral of a number, without leading zeros. -/
def hexNumeral (n : Nat) : List Char :=
  if n < 16 then [hexDigit n] else hexNumeral (n / 16) ++ [hexDigit (n % 16)]

/-- One character of a quoted text. -/
def escapeChar (c : Char) : List Char :=
  if c = '\x00' then ['\\', '0']
  else if c = '\t' then ['\\', 't']
  else if c = '\r' then ['\\', 'r']
  else if c = '\n' then ['\\', 'n']
  else if c = '\\' ∨ c = '"' then ['\\', c]
  else if !Unicode.graphemeExtend.contains c && Unicode.isPrintable c then [c]
  else ['\\', 'u', '{'] ++ hexNumeral c.toNat ++ ['}']

/-- A text between double quotes, escaped. -/
def quoted (s : String) : String :=
  String.ofList ('"' :: s.toList.flatMap escapeChar ++ ['"'])

end Slipway.Text
