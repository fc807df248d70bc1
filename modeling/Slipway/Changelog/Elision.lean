import Slipway.Text.Blank
import Slipway.Text.Lines

/-!
# Elision of empty subsections

Model of `elide_empty_subsections` (`keel_core::changelog`). The entry of a section is its body
without blank lines and without subsection headings that no content follows. A heading is a line
that starts with `###`; it waits until a line of content comes and gives way to the next heading.
-/

namespace Slipway.Changelog

/-- A heading inside a section. -/
def isSubheading (line : List Char) : Bool := "###".toList.isPrefixOf line

/-- A line that is neither blank nor a heading. -/
def isContent (line : List Char) : Bool := !isSubheading line && !Text.blank line

/-- The lines of an entry, with the heading that waits. -/
def elideLines : (waiting : Option (List Char)) → List (List Char) → List (List Char)
  | _, [] => []
  | waiting, line :: lines =>
    if isSubheading line then elideLines (some line) lines
    else if Text.blank line then elideLines waiting lines
    else waiting.toList ++ line :: elideLines none lines

/-- `elide_empty_subsections`: the entry of a section body. -/
def elide (body : List Char) : List Char := Text.unlines (elideLines none (Text.lines body))

end Slipway.Changelog
