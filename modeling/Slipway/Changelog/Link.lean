import Slipway.Error
import Slipway.Regex.Search
import Slipway.Text.Search

/-!
# The compare link

Model of `ChangelogLedger::rewrite_links` (`keel_core::changelog`). A changelog may end with links
that compare releases. The one of the pending section reads `[Unreleased]: BASE/compare/TAG...HEAD`;
`CompareLink.locate` finds the first such line of a text. After a release the link starts at the new
tag, and a second line compares the two tags (`CompareLink.advanced`). `CompareLink.rewrite` is that
edit of a text.
-/

namespace Slipway.Changelog

/-- `PENDING_LABEL`: the label of the pending section. -/
def pendingLabel : String := "Unreleased"

/-- A compare link: where it leads, the version it starts from, and whether a carriage return ends
its line. -/
structure CompareLink where
  base : List Char
  previous : List Char
  carriage : Bool
  deriving DecidableEq, Repr

namespace CompareLink

/-- A blank or a tab. -/
def isGap (c : Char) : Bool := c == ' ' || c == '\t'

/-- What may follow a link on its line: blanks and a carriage return. Gives whether there is a
carriage return, and the text from the line's end on. -/
def lineEnd? (cs : List Char) : Option (Bool × List Char) :=
  match cs.dropWhile isGap with
  | '\r' :: rest => if rest = [] ∨ rest.head? = some '\n' then some (true, rest) else none
  | rest => if rest = [] ∨ rest.head? = some '\n' then some (false, rest) else none

/-- The shortest nonempty run without blanks that `...HEAD` and the end of the line follow. The run
is built up backwards in `run`. -/
def previous? (run : List Char) : List Char → Option (List Char × Bool × List Char)
  | [] => none
  | c :: cs =>
    if Text.isBlank c then none
    else
      match (Text.after? "...HEAD".toList cs).bind lineEnd? with
      | some (carriage, rest) => some ((c :: run).reverse, carriage, rest)
      | none => previous? (c :: run) cs

/-- The longest nonempty run without blanks that the path of a comparison with the given tag prefix
follows. The run is built up backwards in `run`. -/
def base? (path run : List Char) : List Char → Option (CompareLink × List Char)
  | [] => none
  | c :: cs =>
    if Text.isBlank c then none
    else
      match base? path (c :: run) cs with
      | some found => some found
      | none => do
        let (previous, carriage, rest) ← previous? [] (← Text.after? path cs)
        return (⟨(c :: run).reverse, previous, carriage⟩, rest)

/-- The path of a comparison with tags of a prefix, up to the version. -/
def comparePath (tagPrefix : List Char) : List Char := "/compare/".toList ++ tagPrefix

/-- Reads a compare link at the start of a line; gives the text after it, too. -/
def read? (tagPrefix line : List Char) : Option (CompareLink × List Char) := do
  let rest ← Text.after? s!"[{pendingLabel}]:".toList line
  base? (comparePath tagPrefix) [] (rest.dropWhile isGap)

/-- Finds the first compare link of a text: what stands before it, the link, what stands after it.
`start` tells whether a line starts here. -/
def locate (tagPrefix : List Char) (start : Bool) :
    List Char → Option (List Char × CompareLink × List Char)
  | [] => none
  | c :: cs =>
    match if start then read? tagPrefix (c :: cs) else none with
    | some (link, rest) => some ([], link, rest)
    | none =>
      (locate tagPrefix (c == '\n') cs).map fun (before, link, rest) => (c :: before, link, rest)

/-- The two lines that replace a link when a version is released. -/
def advanced (link : CompareLink) (tagPrefix version : List Char) : List Char :=
  let line (label start stop : List Char) : List Char :=
    '[' :: label ++ "]: ".toList ++ link.base ++ comparePath tagPrefix ++ start ++ "...".toList
      ++ stop ++ (if link.carriage then ['\r'] else [])
  line pendingLabel.toList version "HEAD".toList ++ '\n' ::
    line version link.previous (tagPrefix ++ version)

/-- Points the compare link of a text, if it has one, to a new version. -/
def advance (tagPrefix version text : List Char) : List Char :=
  match locate tagPrefix true text with
  | some (before, link, rest) => before ++ link.advanced tagPrefix version ++ rest
  | none => text

/-- The regular expression of a compare link with a tag prefix. -/
def pattern (tagPrefix : List Char) : List Char :=
  "(?m)^\\[".toList ++ pendingLabel.toList ++ "\\]:[ \\t]*(\\S+)/compare/".toList ++
    Regex.escape tagPrefix ++ "(\\S+?)\\.\\.\\.HEAD[ \\t]*\\r?$".toList

/-- `rewrite_links`: points the compare link of a text, if it has one, to a new version. The prefix
makes the expression as large as it likes, so the engine may refuse it. -/
def rewrite [Regex.SizeLimit] (tagPrefix version text : List Char) :
    Except ReleaseError (List Char) :=
  match Regex.compile (pattern tagPrefix) with
  | .error defect => .error (.invalidPattern (String.ofList (pattern tagPrefix)) defect.message)
  | .ok _ => .ok (advance tagPrefix version text)

end CompareLink

end Slipway.Changelog
