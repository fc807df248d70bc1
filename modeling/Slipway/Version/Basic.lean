import Slipway.Text.Blank
import Slipway.Text.Numeral

/-!
# Versions

Model of `VersionManager` and `BumpKind` (`keel_core::version`). A `Version` is a triple of 64-bit
components. `Version.parse?` reads the text `MAJOR.MINOR.PATCH`, with blank characters allowed
around it, and `Version.text` writes it. `Version.bump?` increments one component and clears the
ones below; it fails when the component cannot grow.
-/

namespace Slipway

/-- `semver::Version`: a released version. -/
structure Version where
  major : UInt64
  minor : UInt64
  patch : UInt64
  deriving DecidableEq, Repr, Inhabited

/-- `BumpKind`: the component that a release increments, in ascending weight. -/
inductive BumpKind where
  | patch
  | minor
  | major
  deriving DecidableEq, Repr

namespace BumpKind

/-- The kind that is taken when none is chosen. -/
def default : BumpKind := .minor

/-- The kinds in ascending order. -/
def all : List BumpKind := [.patch, .minor, .major]

/-- `BumpKind::fmt`: the name of a kind. -/
def name : BumpKind → String
  | .patch => "patch"
  | .minor => "minor"
  | .major => "major"

/-- The kind of a name. -/
def ofName? (name : String) : Option BumpKind := all.find? fun k => k.name = name

end BumpKind

namespace Version

/-- Reads a component: a decimal numeral without leading zeros, below 2^64. -/
def component? (digits : List Char) : Option UInt64 :=
  if digits ≠ [] ∧ digits.all Text.isDigit ∧ (digits = ['0'] ∨ digits.head? ≠ some '0') then
    if h : Text.numeralValue digits < UInt64.size then
      some (UInt64.ofNatLT (Text.numeralValue digits) h)
    else none
  else none

/-- The parts of a text between the given character. -/
def splitAtChar (sep : Char) : List Char → List (List Char)
  | [] => [[]]
  | c :: cs =>
    if c = sep then [] :: splitAtChar sep cs
    else match splitAtChar sep cs with
      | [] => [[c]]
      | part :: parts => (c :: part) :: parts

/-- Reads three components with dots between them. -/
def ofTriple? (cs : List Char) : Option Version :=
  match splitAtChar '.' cs with
  | [major, minor, patch] => do
    return ⟨← component? major, ← component? minor, ← component? patch⟩
  | _ => none

/-- `VersionManager::parse`: reads a version, with blank characters allowed around it. -/
def parse? (text : String) : Option Version := ofTriple? (Text.trim text.toList)

/-- The text `MAJOR.MINOR.PATCH`. -/
def text (v : Version) : String :=
  s!"{v.major.toNat}.{v.minor.toNat}.{v.patch.toNat}"

/-- The successor of a component, if it has one. -/
def next? (n : UInt64) : Option UInt64 :=
  if h : n.toNat + 1 < UInt64.size then some (UInt64.ofNatLT (n.toNat + 1) h) else none

/-- `VersionManager::bump`: the version that follows under a bump. One component grows by one and
the ones below are cleared. -/
def bump? (v : Version) : BumpKind → Option Version
  | .major => (next? v.major).map fun n => ⟨n, 0, 0⟩
  | .minor => (next? v.minor).map fun n => ⟨v.major, n, 0⟩
  | .patch => (next? v.patch).map fun n => ⟨v.major, v.minor, n⟩

end Version

end Slipway
