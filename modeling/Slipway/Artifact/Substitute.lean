import Slipway.Artifact.Basic
import Slipway.Error
import Slipway.Regex.Search
import Slipway.Text.Search
import Slipway.Text.Span

/-!
# Substitution of versions

Model of `VersionedArtifact::substitute`, `boundary_before` and `boundary_after`
(`keel_core::files`). `Artifact.substitute` brings the content of an artifact from one version to
another. A literal template that starts or ends with the marker for the version matches only where
the version stands on its own, and not inside of a longer one.
-/

namespace Slipway

/-- A text with its replacements, and how many there are. -/
structure Substitution where
  text : String
  count : Nat
  deriving DecidableEq, Repr

namespace Artifact

/-- `boundary_before`: no longer number ends before a position. -/
def clearBefore (text : List Char) (position : Nat) : Bool :=
  match (text.take position).getLast? with
  | some c => !Text.isDigit c && c != '.'
  | none => true

/-- `boundary_after`: no longer number goes on after a position. -/
def clearAfter (text : List Char) (position : Nat) : Bool :=
  match text.drop position with
  | [] => true
  | [c] => !Text.isDigit c
  | c :: d :: _ => !Text.isDigit c && !(c == '.' && Text.isDigit d)

/-- The template starts with the marker for the version. -/
def startsWithMarker (template : List Char) : Bool := Text.versionMarker.isPrefixOf template

/-- The template ends with the marker for the version. -/
def endsWithMarker (template : List Char) : Bool := Text.versionMarker.isSuffixOf template

/-- The version at a span stands on its own, as far as the template asks for it. -/
def standsAlone (template text : List Char) (s : Text.Span) : Bool :=
  (!startsWithMarker template || clearBefore text s.start)
    && (!endsWithMarker template || clearAfter text s.stop)

/-- The spans where a literal template matches a version. -/
def literalSpans (template text version : List Char) : List Text.Span :=
  (Text.occurrences (Text.expand template version) text).filter (standsAlone template text)

/-- The regular expression of a template: the version in it stands for itself. -/
def regexPattern (template version : List Char) : List Char :=
  Text.expand template (Regex.escape version)

/-- Writes a replacement where a literal template matches. The places are listed once, for the text
and for the count. -/
def substituteLiteral (a : Artifact) (content replacement version : List Char) :
    Option Substitution :=
  match a.occurrence.limit (literalSpans a.search.toList content version) with
  | [] => none
  | chosen => some ⟨String.ofList (Text.splice replacement content chosen), chosen.length⟩

/-- Writes a replacement where a regular expression matches. The matches are counted first, and
replaced by a second search, for which a limit of zero stands for none. -/
def substituteRegex (a : Artifact) (content replacement : List Char) (p : Regex.Program) :
    Option Substitution :=
  let count := (a.occurrence.limit (Regex.allMatches p content.toArray)).length
  if count = 0 then none
  else
    let limit := a.occurrence.bound?.getD 0
    some ⟨String.ofList (Regex.replaceN p content.toArray limit replacement), count⟩

/-- `VersionedArtifact::substitute`: brings a content from one version to another, if there is
anything to replace. -/
def substitute [Regex.SizeLimit] (a : Artifact) (content : String) (old new : Version) :
    Except ReleaseError (Option Substitution) :=
  let replacement := Text.expand a.replacement.toList new.text.toList
  match a.matcher with
  | .literal => .ok (a.substituteLiteral content.toList replacement old.text.toList)
  | .regex =>
    let pattern := regexPattern a.search.toList old.text.toList
    match Regex.compile pattern with
    | .error defect => .error (.invalidPattern (String.ofList pattern) defect.message)
    | .ok p => .ok (a.substituteRegex content.toList replacement p)

end Artifact

end Slipway
