import Slipway.Text.Lines
import Slipway.Text.Search

/-!
# Changelog sections

Model of `find_section`, `heading_label` and `is_link_definition` (`keel_core::changelog`). A
section of a changelog starts at a heading line `## [label]` and ends before the next heading,
before the first link definition, or with the text. `Section.find?` cuts the lines of a text at the
first section of a label; its parts concatenate to the lines (`lines_of_find?`), so every part is a
piece of the text.
-/

namespace Slipway.Changelog

/-- The text before the first occurrence of a character, if it occurs. -/
def upTo? (c : Char) : List Char → Option (List Char)
  | [] => none
  | x :: xs => if x = c then some [] else (upTo? c xs).map (x :: ·)

/-- `heading_label`: the label of a heading line. -/
def headingLabel? (line : List Char) : Option (List Char) := do
  upTo? ']' (← Text.after? "## [".toList line)

/-- The text before the first `]:`, if there is one. -/
def linkName? : List Char → Option (List Char)
  | [] => none
  | x :: xs =>
    if x = ']' ∧ xs.head? = some ':' then some [] else (linkName? xs).map (x :: ·)

/-- `is_link_definition`: a link definition starts the line with a name between brackets, followed
by a colon. -/
def isLinkDefinition (line : List Char) : Bool :=
  match line with
  | '[' :: rest =>
    match linkName? rest with
    | some name => !name.contains '[' && !name.contains ']'
    | none => false
  | _ => false

/-- A line before which a section ends. -/
def endsSection (line : List Char) : Bool := (headingLabel? line).isSome || isLinkDefinition line

/-- `Section`: the lines of a text around the section of a label. They are those before its heading,
the heading, those of its body, and those after it. -/
structure Section where
  before : List (List Char)
  heading : List Char
  body : List (List Char)
  rest : List (List Char)
  deriving DecidableEq, Repr

namespace Section

/-- `find_section`: the first section of a label among the lines of a text. -/
def find? (label : List Char) : List (List Char) → Option Section
  | [] => none
  | line :: lines =>
    if headingLabel? line = some label then
      some ⟨[], line, lines.takeWhile (!endsSection ·), lines.dropWhile (!endsSection ·)⟩
    else (find? label lines).map fun s => { s with before := line :: s.before }

/-- The text of the body. -/
def bodyText (s : Section) : List Char := s.body.flatten

/-- The byte at which the heading starts. -/
def headingStart (s : Section) : Nat := Text.byteLength s.before.flatten

/-- The byte at which the heading ends and the body starts. -/
def headingEnd (s : Section) : Nat := s.headingStart + Text.byteLength s.heading

/-- The byte at which the body ends. -/
def bodyEnd (s : Section) : Nat := s.headingEnd + Text.byteLength s.bodyText

theorem lines_of_find? {label : List Char} {lines : List (List Char)} {s : Section}
    (h : find? label lines = some s) : lines = s.before ++ s.heading :: (s.body ++ s.rest) := by
  induction lines generalizing s with
  | nil => simp [find?] at h
  | cons line lines ih =>
    by_cases hl : headingLabel? line = some label
    · simp only [find?, hl, if_true, Option.some.injEq] at h
      subst h
      simp
    · simp only [find?, hl, if_false, Option.map_eq_some_iff] at h
      obtain ⟨t, ht, rfl⟩ := h
      simpa using ih ht

end Section

end Slipway.Changelog
