import Slipway.Version.Basic

/-!
# Semantic versions

Model of `semver::Version`, for `VersionManager::parse` (`keel_core::version`) and
`Repository::latest_version_tag` (`keel_git::repository`). Tags may name versions with pre-release
and build parts. `SemanticVersion.parse?` reads the whole grammar of semantic versions, and
`SemanticVersion.compare` orders them: a pre-release comes before its release, numeric identifiers
are compared as numbers and come before the others, and build parts decide last.
-/

namespace Slipway

/-- `semver::Version`: the triple, the pre-release identifiers and the build identifiers. -/
structure SemanticVersion where
  core : Version
  pre : List (List Char)
  build : List (List Char)
  deriving DecidableEq, Repr

namespace SemanticVersion

/-- A character of an identifier. -/
def isIdentifierChar (c : Char) : Bool :=
  Text.isDigit c || ('a' ≤ c && c ≤ 'z') || ('A' ≤ c && c ≤ 'Z') || c == '-'

/-- An identifier made of digits only. -/
def isNumeric (part : List Char) : Bool := part.all Text.isDigit

/-- A build identifier: a nonempty run of identifier characters. -/
def isBuildPart (part : List Char) : Bool := !part.isEmpty && part.all isIdentifierChar

/-- A pre-release identifier: as a build identifier, but a number has no leading zeros. -/
def isPrePart (part : List Char) : Bool :=
  isBuildPart part && !(isNumeric part && 1 < part.length && part.head? == some '0')

/-- Splits a text at the first occurrence of a character; `none` for what follows if there is no
such character. -/
def cut (sep : Char) (cs : List Char) : List Char × Option (List Char) :=
  match cs.dropWhile (· ≠ sep) with
  | [] => (cs, none)
  | _ :: rest => (cs.takeWhile (· ≠ sep), some rest)

/-- Reads the identifiers of an optional part, each of which has to pass a test. -/
def parts? (ok : List Char → Bool) : Option (List Char) → Option (List (List Char))
  | none => some []
  | some cs =>
    let parts := Version.splitAtChar '.' cs
    if parts.all ok then some parts else none

/-- `semver::Version::parse`: reads a semantic version. -/
def parse? (text : List Char) : Option SemanticVersion := do
  let (front, build) := cut '+' text
  let (triple, pre) := cut '-' front
  return ⟨← Version.ofTriple? triple, ← parts? isPrePart pre, ← parts? isBuildPart build⟩

/-- The order of characters. -/
def compareChars : List Char → List Char → Ordering
  | [], [] => .eq
  | [], _ :: _ => .lt
  | _ :: _, [] => .gt
  | a :: as, b :: bs => (compare a.toNat b.toNat).then (compareChars as bs)

/-- The order of numerals: by value, then by length. -/
def compareNumerals (a b : List Char) : Ordering :=
  (compare (Text.numeralValue a) (Text.numeralValue b)).then (compare a.length b.length)

/-- The order of identifiers: numbers first, by value; then the others, by their characters. -/
def comparePart (a b : List Char) : Ordering :=
  match isNumeric a, isNumeric b with
  | true, true => compareNumerals a b
  | true, false => .lt
  | false, true => .gt
  | false, false => compareChars a b

/-- The lexicographic order of identifier lists. -/
def compareParts : List (List Char) → List (List Char) → Ordering
  | [], [] => .eq
  | [], _ :: _ => .lt
  | _ :: _, [] => .gt
  | a :: as, b :: bs => (comparePart a b).then (compareParts as bs)

/-- The order of pre-releases: none comes after any. -/
def comparePre : List (List Char) → List (List Char) → Ordering
  | [], [] => .eq
  | [], _ :: _ => .gt
  | _ :: _, [] => .lt
  | as, bs => compareParts as bs

/-- The order of triples. -/
def compareCore (a b : Version) : Ordering :=
  (compare a.major.toNat b.major.toNat).then
    ((compare a.minor.toNat b.minor.toNat).then (compare a.patch.toNat b.patch.toNat))

/-- `semver::Version::cmp`: the order of semantic versions. -/
def compare (a b : SemanticVersion) : Ordering :=
  (compareCore a.core b.core).then ((comparePre a.pre b.pre).then (compareParts a.build b.build))

end SemanticVersion

end Slipway
