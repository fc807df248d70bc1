/-!
# Artifacts

Model of `ArtifactConfig`, `MatcherKind` and `Occurrence` (`keel_config::schema`), with the limit
that `VersionedArtifact::substitute` (`keel_core::files`) takes from an occurrence. An `Artifact` is
a declared file in which a release replaces the version: where it is, what to look for, and what to
write instead. Both templates hold the marker `{version}`.
-/

namespace Slipway

/-- `MatcherKind`: how the search template of an artifact is read. -/
inductive Matcher where
  /-- As plain text. -/
  | literal
  /-- As a regular expression. -/
  | regex
  deriving DecidableEq, Repr

namespace Matcher

/-- The matchers. -/
def all : List Matcher := [.literal, .regex]

/-- The name of a matcher. -/
def name : Matcher → String
  | .literal => "literal"
  | .regex => "regex"

/-- The matcher of a name. -/
def ofName? (name : String) : Option Matcher := all.find? fun m => m.name = name

end Matcher

/-- `Occurrence`: which of the places that match are replaced. -/
inductive Occurrence where
  | first
  | all
  deriving DecidableEq, Repr

namespace Occurrence

/-- The name of an occurrence. -/
def name : Occurrence → String
  | .first => "first"
  | .all => "all"

/-- The occurrence of a name. -/
def ofName? (name : String) : Option Occurrence :=
  [Occurrence.first, Occurrence.all].find? fun o => o.name = name

/-- `limit`: how many places are replaced at most, if that is bounded. -/
def bound? : Occurrence → Option Nat
  | .first => some 1
  | .all => none

/-- Keeps the elements of a list that are replaced. -/
def limit {α : Type} (o : Occurrence) (xs : List α) : List α :=
  match o.bound? with
  | some n => xs.take n
  | none => xs

end Occurrence

/-- `ArtifactConfig`: a file that holds the version. Its path is relative to the root of the
project; without a replacement template the search template is written back; an optional artifact
that cannot be updated is only worth a warning. -/
structure Artifact where
  path : String
  search : String
  replace : Option String
  matcher : Matcher
  occurrence : Occurrence
  optional : Bool
  deriving DecidableEq, Repr

namespace Artifact

/-- An artifact with only a path and a search template. -/
def ofSearch (path search : String) : Artifact := ⟨path, search, none, .literal, .first, false⟩

/-- `VersionedArtifact::from_config`: the template that is written. -/
def replacement (a : Artifact) : String := a.replace.getD a.search

end Artifact

end Slipway
