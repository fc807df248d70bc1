/-!
# Spans

Model of `str::match_indices`, for `VersionedArtifact::substitute` (`keel_core::files`). A `Span` is
a part of a text, from one position up to another. `occurrences` lists the spans of a text that are
equal to another text, from the left and without overlap; `splice` writes a replacement over spans.
-/

namespace Slipway.Text

/-- The part of a text from `start` up to `stop`. -/
structure Span where
  start : Nat
  stop : Nat
  deriving DecidableEq, Repr

/-- The spans equal to `needle`, from the left and without overlap, in the rest of a text from a
position on. The counter skips what belongs to the occurrence before. The empty text occurs at every
position. -/
def occurrencesFrom (needle : List Char) : (start skip : Nat) → List Char → List Span
  | start, _, [] => if needle = [] then [⟨start, start⟩] else []
  | start, skip + 1, _ :: cs => occurrencesFrom needle (start + 1) skip cs
  | start, 0, c :: cs =>
    if needle.isPrefixOf (c :: cs) then
      ⟨start, start + needle.length⟩ :: occurrencesFrom needle (start + 1) (needle.length - 1) cs
    else occurrencesFrom needle (start + 1) 0 cs

/-- The spans equal to `needle`, from the left and without overlap. -/
def occurrences (needle text : List Char) : List Span := occurrencesFrom needle 0 0 text

/-- Writes a replacement over spans of the rest of a text from a position on. The spans are in order
and do not overlap. -/
def spliceFrom (replacement : List Char) : (start : Nat) → List Char → List Span → List Char
  | _, text, [] => text
  | start, text, s :: spans =>
    text.take (s.start - start) ++ replacement
      ++ spliceFrom replacement s.stop (text.drop (s.stop - start)) spans

/-- Writes a replacement over spans of a text. -/
def splice (replacement text : List Char) (spans : List Span) : List Char :=
  spliceFrom replacement 0 text spans

end Slipway.Text
