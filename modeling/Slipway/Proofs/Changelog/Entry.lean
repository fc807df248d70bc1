import Slipway.Proofs.Changelog.Elision
import Slipway.Proofs.Text.Unlines

/-!
# What an entry consists of

About `elide_empty_subsections` (`keel_core::changelog`). Elision reads a body line by line and lets
a heading wait for content. Looking ahead comes to the same: an entry takes each line of content,
and each heading below which content stands before the next heading (`taken`, `elideLines_none`). So
an entry has all content of its body, each of its headings stands directly above content, and
eliding it once more changes nothing (`elide_distilled`). This is said of the lines of the entry as
they are read from its text, and there a carriage return at the end of a line would become part of
its line end.
-/

namespace Slipway.Changelog

open Text

variable {line body : List Char} {lines above below : List (List Char)}

/-- The lines that an entry takes of a body: content, and each heading below which content stands
before the next heading. -/
def taken : List (List Char) → List (List Char)
  | [] => []
  | line :: below =>
    if isContent line = true ∨ isSubheading line = true ∧ HasContent (ownLines below) then
      line :: taken below
    else taken below

theorem taken_content (h : isContent line = true) (below : List (List Char)) :
    taken (line :: below) = line :: taken below := by
  rw [taken, if_pos (Or.inl h)]

theorem taken_heading (h : isSubheading line = true) (hc : HasContent (ownLines below)) :
    taken (line :: below) = line :: taken below := by
  rw [taken, if_pos (Or.inr ⟨h, hc⟩)]

theorem taken_other (h : isContent line = false)
    (hc : isSubheading line = true → ¬ HasContent (ownLines below)) :
    taken (line :: below) = taken below := by
  rw [taken, if_neg]
  rintro (hl | ⟨hs, hown⟩)
  · exact absurd hl (by simp [h])
  · exact hc hs hown

theorem not_isContent_of_heading (h : isSubheading line = true) : isContent line = false := by
  simp [isContent, h]

theorem isSubheading_of_isContent (h : isContent line = true) : isSubheading line = false := by
  cases hs : isSubheading line with
  | false => rfl
  | true => exact absurd h (by simp [not_isContent_of_heading hs])

/-- **A heading that waits is kept exactly if looking ahead finds content.** -/
theorem elideLines_none (lines : List (List Char)) : elideLines none lines = taken lines := by
  induction lines with
  | nil => rfl
  | cons line below ih =>
    cases hs : isSubheading line with
    | true =>
      rw [elideLines_heading hs, elideLines_some, ih]
      split
      · rename_i hc
        exact (taken_heading hs hc).symm
      · rename_i hc
        exact (taken_other (not_isContent_of_heading hs) fun _ => hc).symm
    | false =>
      cases hb : blank line with
      | true =>
        rw [elideLines_blank hs hb, ih]
        exact (taken_other (not_isContent_of_blank hb) fun h => absurd h (by simp [hs])).symm
      | false =>
        rw [elideLines_content hs hb, ih, taken_content (isContent_of_not hs hb)]
        rfl

/-! ## The lines that are taken -/

theorem taken_sublist (lines : List (List Char)) : (taken lines).Sublist lines := by
  induction lines with
  | nil => exact List.Sublist.slnil
  | cons line below ih =>
    unfold taken
    split
    · exact ih.cons_cons line
    · exact ih.cons line

/-- No content is lost. -/
theorem filter_taken (lines : List (List Char)) :
    (taken lines).filter isContent = lines.filter isContent := by
  induction lines with
  | nil => rfl
  | cons line below ih =>
    unfold taken
    split
    · rw [List.filter_cons, List.filter_cons, ih]
    · rename_i hnot
      rw [ih, List.filter_cons_of_neg fun hc => hnot (Or.inl hc)]

theorem mem_taken (h : line ∈ taken lines) : isContent line = true ∨ isSubheading line = true := by
  induction lines with
  | nil => exact absurd h List.not_mem_nil
  | cons first below ih =>
    unfold taken at h
    split at h
    · rename_i hfirst
      rcases List.mem_cons.mp h with rfl | h
      · exact hfirst.imp_right And.left
      · exact ih h
    · exact ih h

/-- Where content stands before the next heading, content is taken first. -/
theorem exists_taken_cons (h : HasContent (ownLines lines)) :
    ∃ next rest, taken lines = next :: rest ∧ isContent next = true := by
  induction lines with
  | nil => exact absurd h not_hasContent_nil
  | cons line below ih =>
    have hs : isSubheading line = false := by
      cases hs : isSubheading line with
      | false => rfl
      | true => exact absurd (ownLines_heading hs below ▸ h) not_hasContent_nil
    cases hc : isContent line with
    | true => exact ⟨line, taken below, taken_content hc below, hc⟩
    | false =>
      rw [ownLines_cons hs, hasContent_cons] at h
      rw [taken_other hc fun h => absurd h (by simp [hs])]
      exact ih (h.resolve_left (by simp [hc]))

/-- Each line that is taken and is no content is a heading right above content. -/
theorem taken_next (h : taken lines = above ++ line :: below) (hc : isContent line = false) :
    isSubheading line = true ∧ ∃ next rest, below = next :: rest ∧ isContent next = true := by
  induction lines generalizing above with
  | nil => exact absurd h (by simp [taken])
  | cons first lines ih =>
    unfold taken at h
    split at h
    · rename_i hfirst
      cases above with
      | nil =>
        obtain ⟨rfl, rfl⟩ := List.cons.inj h
        obtain ⟨hs, hown⟩ := hfirst.resolve_left (by simp [hc])
        exact ⟨hs, exists_taken_cons hown⟩
      | cons other above => exact ih (List.cons.inj h).2
    · exact ih h

/-- Of the lines that are taken all are taken again. -/
theorem taken_taken (lines : List (List Char)) : taken (taken lines) = taken lines := by
  induction lines with
  | nil => rfl
  | cons line below ih =>
    cases hc : isContent line with
    | true => rw [taken_content hc, taken_content hc, ih]
    | false =>
      by_cases hown : isSubheading line = true ∧ HasContent (ownLines below)
      · obtain ⟨next, rest, hnext, hcontent⟩ := exists_taken_cons hown.2
        have hagain : HasContent (ownLines (taken below)) := by
          rw [hnext, ownLines_cons (isSubheading_of_isContent hcontent), hasContent_cons]
          exact Or.inl hcontent
        rw [taken_heading hown.1 hown.2, taken_heading hown.1 hagain, ih]
      · rw [taken_other hc (not_and.mp hown), ih]

theorem hasContent_iff_filter : HasContent lines ↔ lines.filter isContent ≠ [] := by
  simp [HasContent]

/-- Without content nothing is taken. -/
theorem taken_eq_nil_iff : taken lines = [] ↔ ¬ HasContent lines := by
  rw [hasContent_iff_filter, ← filter_taken, ← hasContent_iff_filter]
  cases htaken : taken lines with
  | nil => simp [not_hasContent_nil]
  | cons line below =>
    -- content comes first, or right behind a heading
    have hc : HasContent (line :: below) := by
      cases hline : isContent line with
      | true => exact hasContent_cons.mpr (Or.inl hline)
      | false =>
        have hfirst : taken lines = [] ++ line :: below := htaken
        obtain ⟨-, next, rest, rfl, hnext⟩ := taken_next hfirst hline
        exact ⟨next, by simp, hnext⟩
    simp [hc]

/-! ## The text of an entry -/

theorem ne_nil_of_mem_taken (h : line ∈ taken lines) : line ≠ [] := by
  rintro rfl
  rcases mem_taken h with h | h
  · exact absurd h (by decide)
  · exact absurd h (by decide)

theorem elide_eq (body : List Char) : elide body = unlines (taken (Text.lines body)) := by
  rw [elide, elideLines_none]

theorem elide_eq_nil_iff : elide body = [] ↔ ¬ HasContent (Text.lines body) := by
  rw [elide_eq, unlines_eq_nil_iff fun line hm => ne_nil_of_mem_taken hm, taken_eq_nil_iff]

/-- An entry is read back as the lines that it took. -/
theorem lines_elide (h : NoLoneReturn body) :
    Text.lines (elide body) = taken (Text.lines body) := by
  rw [elide_eq, lines_unlines]
  intro line hm
  exact ⟨ne_nil_of_mem_taken hm, unbroken_of_mem_lines h ((taken_sublist _).mem hm)⟩

/-- No line is content if all are headings or blank. -/
theorem not_hasContent_iff : ¬ HasContent lines ↔
    ∀ line ∈ lines, isSubheading line = true ∨ blank line = true := by
  have hline : ∀ line, ¬ isContent line = true ↔ isSubheading line = true ∨ blank line = true := by
    intro line
    cases hs : isSubheading line <;> simp [isContent, hs]
  simp only [HasContent, not_exists, not_and, hline]

/-- What an entry has of a section body. -/
structure Distilled (body entry : List Char) : Prop where
  /-- Its lines are the content of the body and the headings of that content. -/
  lines_eq : Text.lines entry = taken (Text.lines body)
  /-- All lines of content are there, as they were, in their order and as often. -/
  content : (Text.lines entry).filter isContent = (Text.lines body).filter isContent
  /-- No other lines than those of the body are there. -/
  within : (Text.lines entry).Sublist (Text.lines body)
  /-- A line that is no content is a heading, and content follows directly. -/
  headings : ∀ above line below, Text.lines entry = above ++ line :: below →
    isContent line = false →
    isSubheading line = true ∧ ∃ next rest, below = next :: rest ∧ isContent next = true
  /-- The entry is empty exactly if the body has no content. -/
  empty_iff : entry = [] ↔ ¬ HasContent (Text.lines body)
  /-- A pending section with this body measures nothing exactly then. -/
  measure_iff : ∀ (c : Changelog) (s : Section), c.pending? = some s → s.bodyText = body →
    (c.pendingLength? = some 0 ↔
      ∀ line ∈ Text.lines body, isSubheading line = true ∨ blank line = true)
  /-- Eliding the entry changes nothing. -/
  again : elide entry = entry

/-- **An entry keeps all content of its body** and has nothing else but the headings right above
content. It is empty exactly if there is no content, and it is its own entry. -/
theorem elide_distilled (h : NoLoneReturn body) : Distilled body (elide body) := by
  have hlines := lines_elide h
  refine ⟨hlines, ?_, ?_, ?_, elide_eq_nil_iff, ?_, ?_⟩
  · rw [hlines, filter_taken]
  · rw [hlines]
    exact taken_sublist _
  · intro above line below hentry hc
    exact taken_next (hlines.symm.trans hentry) hc
  · intro c s hs hbody
    have hlength : c.pendingLength? = some (elide body).length := by
      rw [pendingLength?, hs, Option.map_some, hbody]
    rw [hlength, Option.some_inj, List.length_eq_zero_iff, elide_eq_nil_iff, not_hasContent_iff]
  · rw [elide_eq, hlines, taken_taken, ← elide_eq]

/-- A body with line ends of both kinds, a line that occurs twice and headings in a row. -/
def mixed : List Char :=
  "\r\n### Added\n\t\n- New.\r\n- New.\n### Changed\r\n### Fixed\r\n\r\n- Old.\n### New\n".toList

theorem elide_distilled_mixed : NoLoneReturn mixed ∧ Distilled mixed (elide mixed) ∧
    elide mixed = "### Added\n- New.\n- New.\n### Fixed\n- Old.".toList := by
  have h : NoLoneReturn mixed := by decide +kernel
  exact ⟨h, elide_distilled h, by decide +kernel⟩

end Slipway.Changelog
