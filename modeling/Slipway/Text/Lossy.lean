/-!
# Reading bytes as text

Model of `String::from_utf8_lossy`, for `SystemExecutor` (`keel_core::process`). `Lossy.decode`
reads bytes as UTF-8. A sequence that is none is shown as one replacement character for each longest
part that a well-formed sequence could have begun with.
-/

namespace Slipway.Text.Lossy

/-- The character that stands for what cannot be read. -/
def replacement : Char := '\ufffd'

/-- What may follow a first byte: how many bytes, and the bounds of the next one. -/
structure Lead where
  count : Nat
  low : UInt8
  high : UInt8
  value : Nat

/-- Reads the first byte of a sequence of several bytes. -/
def lead? (b : UInt8) : Option Lead :=
  if 0xC2 ≤ b ∧ b ≤ 0xDF then some ⟨1, 0x80, 0xBF, b.toNat - 0xC0⟩
  else if b = 0xE0 then some ⟨2, 0xA0, 0xBF, 0⟩
  else if b = 0xED then some ⟨2, 0x80, 0x9F, 0xD⟩
  else if 0xE1 ≤ b ∧ b ≤ 0xEF then some ⟨2, 0x80, 0xBF, b.toNat - 0xE0⟩
  else if b = 0xF0 then some ⟨3, 0x90, 0xBF, 0⟩
  else if 0xF1 ≤ b ∧ b ≤ 0xF3 then some ⟨3, 0x80, 0xBF, b.toNat - 0xF0⟩
  else if b = 0xF4 then some ⟨3, 0x80, 0x8F, 4⟩
  else none

/-- Where a reader stands: between characters, or inside of one that still needs bytes. -/
inductive State where
  | between
  | inside (count : Nat) (low high : UInt8) (value : Nat)

/-- Reads a byte that starts a character. -/
def begin (b : UInt8) : List Char × State :=
  if b < 0x80 then ([Char.ofNat b.toNat], .between)
  else
    match lead? b with
    | some l => ([], .inside l.count l.low l.high l.value)
    | none => ([replacement], .between)

/-- Reads a byte. -/
def step (b : UInt8) : State → List Char × State
  | .between => begin b
  | .inside count low high value =>
    if low ≤ b ∧ b ≤ high then
      let value := 64 * value + (b.toNat - 0x80)
      if count ≤ 1 then ([Char.ofNat value], .between)
      else ([], .inside (count - 1) 0x80 0xBF value)
    else
      let (read, state) := begin b
      (replacement :: read, state)

/-- Reads bytes from a state on. -/
def run : State → List UInt8 → List Char
  | .between, [] => []
  | .inside _ _ _ _, [] => [replacement]
  | state, b :: bytes =>
    let (read, state) := step b state
    read ++ run state bytes

/-- Reads bytes as text. -/
def decode (bytes : List UInt8) : String := String.ofList (run .between bytes)

end Slipway.Text.Lossy
