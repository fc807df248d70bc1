import Slipway.Text.Blank
import Slipway.Unicode.CaseFold
import Slipway.Unicode.Property
import Slipway.Unicode.Script

/-!
# Character classes

Model of the classes of the crate `regex`. A `CharClass` is a set of characters built as regular
expressions build it: from code points by union, complement and the set operations, and up to case.
`CharClass.accepts` decides membership.
-/

namespace Slipway.Regex

open Unicode

/-- A class of characters. -/
inductive CharClass where
  | codes (set : CodeSet)
  | union (a b : CharClass)
  | inter (a b : CharClass)
  | diff (a b : CharClass)
  | symmDiff (a b : CharClass)
  | not (a : CharClass)
  /-- The characters that agree with one of the class up to case. -/
  | caseless (a : CharClass)
  deriving Inhabited, Repr

namespace CharClass

/-- Membership in a class. -/
def accepts : CharClass → Char → Bool
  | codes set, c => set.contains c
  | union a b, c => a.accepts c || b.accepts c
  | inter a b, c => a.accepts c && b.accepts c
  | diff a b, c => a.accepts c && !b.accepts c
  | symmDiff a b, c => a.accepts c != b.accepts c
  | not a, c => !a.accepts c
  | caseless a, c => (CaseFold.sameCase c).any a.accepts

/-- What the intervals of a class are reckoned at in a matching program, in bytes. -/
def weight : CharClass → Nat
  | codes set =>
    (if set.ranges.all fun r => r.2 < 128 then 8 else 64) * set.ranges.length
  | union a b | inter a b | diff a b | symmDiff a b => a.weight + b.weight
  | not a => a.weight + 96
  | caseless a => a.weight

/-- The class of no character. -/
def none : CharClass := codes ⟨[]⟩

/-- The characters between two characters. -/
def range (a b : Char) : CharClass := codes ⟨[(a.toNat, b.toNat)]⟩

/-- The class of one character. -/
def single (c : Char) : CharClass := range c c

/-- The class of several characters. -/
def ofList (cs : List Char) : CharClass := codes ⟨cs.map fun c => (c.toNat, c.toNat)⟩

/-- A class or its complement. -/
def negatedIf (negated : Bool) (a : CharClass) : CharClass := if negated then not a else a

/-- A class, up to case if asked. -/
def caselessIf (ignoreCase : Bool) (a : CharClass) : CharClass :=
  if ignoreCase then caseless a else a

/-- Every character. -/
def any : CharClass := codes ⟨[(0, CodeSet.maxCode)]⟩

/-- Decimal digits. -/
def digit (unicode : Bool) : CharClass :=
  if unicode then codes Category.decimalNumber else range '0' '9'

/-- White space. -/
def space (unicode : Bool) : CharClass :=
  if unicode then codes ⟨Text.blankRanges⟩ else codes ⟨[(0x09, 0x0D), (0x20, 0x20)]⟩

/-- The word characters among the first 128. -/
def asciiWord : CodeSet := ⟨[(0x30, 0x39), (0x41, 0x5A), (0x5F, 0x5F), (0x61, 0x7A)]⟩

/-- Word characters. -/
def word (unicode : Bool) : CharClass := if unicode then codes wordLike else codes asciiWord

/-- The classes that are written as a name between `[:` and `:]`. -/
def asciiNamed : List (String × List (Nat × Nat)) :=
  [("alnum", [(0x30, 0x39), (0x41, 0x5A), (0x61, 0x7A)]),
   ("alpha", [(0x41, 0x5A), (0x61, 0x7A)]),
   ("ascii", [(0x00, 0x7F)]),
   ("blank", [(0x09, 0x09), (0x20, 0x20)]),
   ("cntrl", [(0x00, 0x1F), (0x7F, 0x7F)]),
   ("digit", [(0x30, 0x39)]),
   ("graph", [(0x21, 0x7E)]),
   ("lower", [(0x61, 0x7A)]),
   ("print", [(0x20, 0x7E)]),
   ("punct", [(0x21, 0x2F), (0x3A, 0x40), (0x5B, 0x60), (0x7B, 0x7E)]),
   ("space", [(0x09, 0x0D), (0x20, 0x20)]),
   ("upper", [(0x41, 0x5A)]),
   ("word", asciiWord.ranges),
   ("xdigit", [(0x30, 0x39), (0x41, 0x46), (0x61, 0x66)])]

/-- The class of a name between `[:` and `:]`. -/
def ascii? (name : String) : Option CharClass :=
  (asciiNamed.find? fun e => e.1 = name).map fun e => codes ⟨e.2⟩

/-- The name of a property without what does not count: blanks, underscores, hyphens, case, and an
`is` in front. -/
def foldName (name : List Char) : String :=
  let kept := (name.filter fun c => c != ' ' && c != '_' && c != '-').map Char.toLower
  match kept with
  | 'i' :: 's' :: rest => if rest = ['c'] then "isc" else String.ofList rest
  | _ => String.ofList kept

/-- The properties with two values, by folded name. -/
def binaryNamed : List (List String × CodeSet) :=
  [(["alpha", "alphabetic"], alphabetic), (["lower", "lowercase"], lowercase),
   (["upper", "uppercase"], uppercase), (["wspace", "whitespace", "space"], ⟨Text.blankRanges⟩),
   (["grext", "graphemeextend"], graphemeExtend), (["joinc", "joincontrol"], joinControl),
   (["ahex", "asciihexdigit"], ⟨[(0x30, 0x39), (0x41, 0x46), (0x61, 0x66)]⟩),
   (["hex", "hexdigit"],
    ⟨[(0x30, 0x39), (0x41, 0x46), (0x61, 0x66), (0xFF10, 0xFF19), (0xFF21, 0xFF26),
      (0xFF41, 0xFF46)]⟩)]

/-- The class of a general category. -/
def category? (name : String) : Option CharClass :=
  if name = "any" then some any
  else if name = "ascii" then some (codes ⟨[(0, 0x7F)]⟩)
  else (Category.find? name).map codes

/-- The class of a property that is named alone: one with two values, a general category or a
script. -/
def property? (name : List Char) : Option CharClass :=
  let folded := foldName name
  match binaryNamed.find? fun e => e.1.contains folded with
  | some e => some (codes e.2)
  | Option.none => (category? folded).or ((Script.find? folded).map codes)

/-- The class of a property with a value. -/
def propertyValue? (name value : List Char) : Option CharClass :=
  let folded := foldName name
  if folded = "gc" ∨ folded = "generalcategory" then category? (foldName value)
  else if folded = "sc" ∨ folded = "script" ∨ folded = "scx" ∨ folded = "scriptextensions" then
    (Script.find? (foldName value)).map codes
  else Option.none

end CharClass

end Slipway.Regex
