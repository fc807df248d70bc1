/-!
# Lines

Model of `str::split_inclusive` and `str::lines`, for `keel_core::changelog`, and of the lines of
the crate `similar`, for `keel_core::diff`. Three ways to cut a text into lines. `keptLines` ends a
line after each line feed and keeps the terminators, so that the lines concatenate to the text
(`flatten_keptLines`). `lines` drops the terminators, a line feed or a carriage return before it.
`diffLines` keeps the terminators too and lets a carriage return on its own end a line. `byteLength`
says how far a text reaches in bytes.
-/

namespace Slipway.Text

/-- Puts a character in front of the first line. -/
def consLine (c : Char) : List (List Char) → List (List Char)
  | [] => [[c]]
  | l :: ls => (c :: l) :: ls

/-- The lines of a text, each with its line feed. -/
def keptLines : List Char → List (List Char)
  | [] => []
  | c :: cs => if c = '\n' then [c] :: keptLines cs else consLine c (keptLines cs)

/-- Drops the line feed at the end of a line, and the carriage return before it. -/
def chomp (line : List Char) : List Char :=
  match line.reverse with
  | '\n' :: '\r' :: rest => rest.reverse
  | '\n' :: rest => rest.reverse
  | _ => line

/-- The lines of a text without their terminators. -/
def lines (cs : List Char) : List (List Char) := (keptLines cs).map chomp

/-- The lines of a text for a comparison: `\n`, `\r\n` or a lone `\r` ends one and stays with it. -/
def diffLines : List Char → List (List Char)
  | [] => []
  | '\r' :: '\n' :: cs => ['\r', '\n'] :: diffLines cs
  | c :: cs => if c = '\n' ∨ c = '\r' then [c] :: diffLines cs else consLine c (diffLines cs)

/-- The number of bytes that a text takes. -/
def byteLength (cs : List Char) : Nat := (String.ofList cs).utf8ByteSize

/-- Joins lines with line feeds between them. -/
def unlines : List (List Char) → List Char
  | [] => []
  | [l] => l
  | l :: ls => l ++ '\n' :: unlines ls

theorem flatten_consLine (c : Char) (ls : List (List Char)) :
    (consLine c ls).flatten = c :: ls.flatten := by
  cases ls <;> rfl

theorem flatten_keptLines (cs : List Char) : (keptLines cs).flatten = cs := by
  induction cs with
  | nil => rfl
  | cons c cs ih =>
    by_cases h : c = '\n' <;> simp [keptLines, h, ih, flatten_consLine]

theorem flatten_diffLines (cs : List Char) : (diffLines cs).flatten = cs := by
  fun_induction diffLines cs with
  | case1 => rfl
  | case2 cs ih => simp [ih]
  | case3 c cs _ _ ih => simp [ih]
  | case4 c cs _ _ ih => rw [flatten_consLine, ih]

end Slipway.Text
