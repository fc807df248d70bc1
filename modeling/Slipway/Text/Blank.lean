/-!
# Blank characters and trimming

Model of `char::is_whitespace` and `str::trim`. `isBlank` is the Unicode property White_Space. A
text is a list of characters; `trim` cuts the blank characters at both of its ends.
-/

namespace Slipway.Text

/-- The intervals of the Unicode property White_Space. -/
def blankRanges : List (Nat × Nat) :=
  [(0x09, 0x0D), (0x20, 0x20), (0x85, 0x85), (0xA0, 0xA0), (0x1680, 0x1680), (0x2000, 0x200A),
   (0x2028, 0x2029), (0x202F, 0x202F), (0x205F, 0x205F), (0x3000, 0x3000)]

/-- A white space character. -/
def isBlank (c : Char) : Bool :=
  blankRanges.any fun r => r.1 ≤ c.toNat && c.toNat ≤ r.2

/-- A text of blank characters only. -/
def blank (cs : List Char) : Bool := cs.all isBlank

/-- Cuts the blank characters at the start. -/
def trimStart (cs : List Char) : List Char := cs.dropWhile isBlank

/-- Cuts the blank characters at the end. -/
def trimEnd (cs : List Char) : List Char := (cs.reverse.dropWhile isBlank).reverse

/-- Cuts the blank characters at both ends. -/
def trim (cs : List Char) : List Char := trimEnd (trimStart cs)

end Slipway.Text
