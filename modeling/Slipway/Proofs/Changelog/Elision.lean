import Slipway.Changelog.Basic

/-!
# Which headings an entry keeps

About `elide_empty_subsections` (`keel_core::changelog`). An entry keeps a heading exactly if a line
of content stands below it before the next heading of any level (`elide_heading`). Where a
subsection holds no deeper headings, that is all of it (`ownLines_of_flat`). Of headings in a row
only the last one can be kept, so a heading whose content is grouped under deeper ones is dropped
(`entry?_drops_parent`).
-/

namespace Slipway.Changelog

open Text

variable {line heading body : List Char} {lines above below : List (List Char)}
variable {waiting : Option (List Char)}

/-! ## Subsections -/

/-- The level of a heading: the number signs that it starts with. -/
def level (heading : List Char) : Nat := (heading.takeWhile (· = '#')).length

/-- A line that does not end the subsection of a heading: it is no heading, or a deeper one. -/
def staysBelow (heading line : List Char) : Bool :=
  !isSubheading line || decide (level heading < level line)

/-- The lines of a subsection: what stands below its heading up to the next heading of the same or a
shallower level. -/
def subsection (heading : List Char) (below : List (List Char)) : List (List Char) :=
  below.takeWhile (staysBelow heading)

/-- The lines below a heading up to the next heading of any level. -/
def ownLines (below : List (List Char)) : List (List Char) := below.takeWhile (!isSubheading ·)

/-- Some line is neither blank nor a heading. -/
def HasContent (lines : List (List Char)) : Prop := ∃ line ∈ lines, isContent line = true

instance (lines : List (List Char)) : Decidable (HasContent lines) :=
  inferInstanceAs (Decidable (∃ line ∈ lines, isContent line = true))

theorem ownLines_cons (h : isSubheading line = false) (lines : List (List Char)) :
    ownLines (line :: lines) = line :: ownLines lines := by
  rw [ownLines, List.takeWhile_cons_of_pos (by simp [h])]
  rfl

theorem ownLines_heading (h : isSubheading line = true) (lines : List (List Char)) :
    ownLines (line :: lines) = [] := by
  rw [ownLines, List.takeWhile_cons_of_neg (by simp [h])]

theorem hasContent_cons :
    HasContent (line :: lines) ↔ isContent line = true ∨ HasContent lines := by
  simp [HasContent]

theorem not_hasContent_nil : ¬ HasContent [] := by simp [HasContent]

/-- A line is a heading, blank, or content. -/
theorem isContent_of_not (h : isSubheading line = false) (hb : blank line = false) :
    isContent line = true := by
  simp [isContent, h, hb]

theorem not_isContent_of_blank (hb : blank line = true) : isContent line = false := by
  simp [isContent, hb]

/-- The lines up to the next heading belong to the subsection. -/
theorem ownLines_prefix_subsection (heading : List Char) (lines : List (List Char)) :
    ownLines lines <+: subsection heading lines := by
  induction lines with
  | nil => exact List.prefix_rfl
  | cons line lines ih =>
    cases hs : isSubheading line with
    | true =>
      rw [ownLines_heading hs]
      exact List.nil_prefix
    | false =>
      have hstays : staysBelow heading line = true := by simp [staysBelow, hs]
      rw [ownLines_cons hs, subsection, List.takeWhile_cons_of_pos hstays]
      exact List.cons_prefix_cons.mpr ⟨rfl, ih⟩

/-- If it has no deeper headings, they are all of it. -/
theorem ownLines_of_flat (h : ∀ line ∈ subsection heading lines, isSubheading line = false) :
    ownLines lines = subsection heading lines := by
  induction lines with
  | nil => rfl
  | cons line lines ih =>
    by_cases hstays : staysBelow heading line = true
    · rw [subsection, List.takeWhile_cons_of_pos hstays] at h ⊢
      rw [ownLines_cons (h line List.mem_cons_self)]
      exact congrArg _ (ih fun l hl => h l (List.mem_cons_of_mem line hl))
    · have hs : isSubheading line = true := by
        cases hs : isSubheading line with
        | true => rfl
        | false => exact absurd (by simp [staysBelow, hs]) hstays
      rw [ownLines_heading hs, subsection, List.takeWhile_cons_of_neg hstays]

theorem HasContent.mono (h : HasContent above) (hp : above <+: below) : HasContent below := by
  obtain ⟨line, hm, hc⟩ := h
  exact ⟨line, hp.mem hm, hc⟩

/-! ## One line after the other -/

theorem elideLines_heading (h : isSubheading line = true) (waiting : Option (List Char))
    (lines : List (List Char)) :
    elideLines waiting (line :: lines) = elideLines (some line) lines := by
  rw [elideLines, if_pos h]

theorem elideLines_blank (h : isSubheading line = false) (hb : blank line = true)
    (waiting : Option (List Char)) (lines : List (List Char)) :
    elideLines waiting (line :: lines) = elideLines waiting lines := by
  rw [elideLines, if_neg (by simp [h]), if_pos hb]

theorem elideLines_content (h : isSubheading line = false) (hb : blank line = false)
    (waiting : Option (List Char)) (lines : List (List Char)) :
    elideLines waiting (line :: lines) = waiting.toList ++ line :: elideLines none lines := by
  rw [elideLines, if_neg (by simp [h]), if_neg (by simp [hb])]

/-- A heading waits for content in the place of the one before. -/
theorem elideLines_append (h : isSubheading heading = true) (waiting : Option (List Char))
    (above below : List (List Char)) :
    elideLines waiting (above ++ heading :: below) =
      elideLines waiting above ++ elideLines (some heading) below := by
  induction above generalizing waiting with
  | nil => exact elideLines_heading h waiting below
  | cons line above ih =>
    rw [List.cons_append]
    cases hs : isSubheading line with
    | true => rw [elideLines_heading hs, elideLines_heading hs, ih]
    | false =>
      cases hb : blank line with
      | true => rw [elideLines_blank hs hb, elideLines_blank hs hb, ih]
      | false =>
        rw [elideLines_content hs hb, elideLines_content hs hb, ih, List.append_assoc,
          List.cons_append]

/-- What becomes of a heading that waits. -/
theorem elideLines_some (heading : List Char) (lines : List (List Char)) :
    elideLines (some heading) lines =
      if HasContent (ownLines lines) then heading :: elideLines none lines
      else elideLines none lines := by
  induction lines with
  | nil => exact (if_neg not_hasContent_nil).symm
  | cons line lines ih =>
    cases hs : isSubheading line with
    | true =>
      rw [ownLines_heading hs, if_neg not_hasContent_nil, elideLines_heading hs,
        elideLines_heading hs]
    | false =>
      rw [ownLines_cons hs]
      cases hb : blank line with
      | true =>
        have hiff : HasContent (line :: ownLines lines) ↔ HasContent (ownLines lines) := by
          simp [hasContent_cons, not_isContent_of_blank hb]
        rw [elideLines_blank hs hb, elideLines_blank hs hb, ih]
        simp only [hiff]
      | false =>
        rw [if_pos (hasContent_cons.mpr (Or.inl (isContent_of_not hs hb))),
          elideLines_content hs hb, elideLines_content hs hb]
        rfl

/-! ## The entry -/

theorem length_unlines (lines : List (List Char)) :
    (unlines lines).length = (lines.flatMap (· ++ ['\n'])).length - 1 := by
  fun_induction unlines lines with
  | case1 => rfl
  | case2 line => simp
  | case3 line lines hne ih =>
    cases lines with
    | nil => exact absurd rfl hne
    | cons next lines =>
      simp only [List.length_append, List.length_cons, List.length_nil, ih, List.flatMap_cons]
      omega

/-- A line that is not empty makes a text longer. -/
theorem unlines_append_cons_ne (h : heading ≠ []) (above below : List (List Char)) :
    unlines (above ++ heading :: below) ≠ unlines (above ++ below) := by
  intro heq
  have hlength := congrArg List.length heq
  have hpos := List.length_pos_iff.mpr h
  simp only [length_unlines, List.flatMap_append, List.flatMap_cons, List.length_append,
    List.length_singleton] at hlength
  omega

theorem ne_nil_of_isSubheading (h : isSubheading heading = true) : heading ≠ [] := by
  rintro rfl
  exact absurd h (by decide)

/-- What becomes of a heading of a body, between what the lines above and below it leave. -/
structure Elided (body : List Char) (above : List (List Char)) (heading : List Char)
    (below : List (List Char)) : Prop where
  /-- The entry has the heading exactly if content stands below it before the next heading. -/
  kept_iff : elide body = unlines (elideLines none above ++ heading :: elideLines none below) ↔
    HasContent (ownLines below)
  /-- Otherwise only the heading is missing. -/
  dropped_iff : elide body = unlines (elideLines none above ++ elideLines none below) ↔
    ¬ HasContent (ownLines below)
  /-- An empty subsection loses its heading. -/
  empty : ¬ HasContent (subsection heading below) →
    elide body = unlines (elideLines none above ++ elideLines none below)
  /-- A subsection with content keeps its heading if it has no deeper ones. -/
  flat : HasContent (subsection heading below) →
    (∀ line ∈ subsection heading below, isSubheading line = false) →
    elide body = unlines (elideLines none above ++ heading :: elideLines none below)

/-- **A heading is kept** exactly if content stands below it before the next heading of any level.
So empty subsections lose their headings, and of the others those with a heading right below. -/
theorem elide_heading (hlines : Text.lines body = above ++ heading :: below)
    (hh : isSubheading heading = true) : Elided body above heading below := by
  have hentry : elide body =
      unlines (elideLines none above ++ elideLines (some heading) below) := by
    rw [elide, hlines, elideLines_append hh]
  have hkept : HasContent (ownLines below) →
      elide body = unlines (elideLines none above ++ heading :: elideLines none below) := by
    intro hc
    rw [hentry, elideLines_some, if_pos hc]
  have hdropped : ¬ HasContent (ownLines below) →
      elide body = unlines (elideLines none above ++ elideLines none below) := by
    intro hc
    rw [hentry, elideLines_some, if_neg hc]
  have hne := unlines_append_cons_ne (ne_nil_of_isSubheading hh) (elideLines none above)
    (elideLines none below)
  refine ⟨⟨fun h => ?_, hkept⟩, ⟨fun h hc => ?_, hdropped⟩, fun hc => ?_, fun hc hflat => ?_⟩
  · exact Classical.byContradiction fun hc => hne (h.symm.trans (hdropped hc))
  · exact hne ((hkept hc).symm.trans h)
  · exact hdropped fun hown => hc (hown.mono (ownLines_prefix_subsection heading below))
  · exact hkept (ownLines_of_flat hflat ▸ hc)

/-- A body whose entries are grouped. -/
def grouped : List Char := "### Added\n#### Reader\n- New.\n\n### Fixed\n- Old.\n".toList

theorem elide_heading_grouped :
    Text.lines grouped = ["### Added".toList] ++ "#### Reader".toList ::
        ["- New.".toList, [], "### Fixed".toList, "- Old.".toList] ∧
      isSubheading "#### Reader".toList = true ∧
      Elided grouped ["### Added".toList] "#### Reader".toList
        ["- New.".toList, [], "### Fixed".toList, "- Old.".toList] :=
  ⟨by decide +kernel, by decide, elide_heading (by decide +kernel) (by decide)⟩

/-- **A heading above a deeper one is dropped**, though its subsection has content. -/
theorem entry?_drops_parent :
    Text.lines grouped = [] ++ "### Added".toList ::
        ["#### Reader".toList, "- New.".toList, [], "### Fixed".toList, "- Old.".toList] ∧
      isSubheading "### Added".toList = true ∧
      HasContent (subsection "### Added".toList
        ["#### Reader".toList, "- New.".toList, [], "### Fixed".toList, "- Old.".toList]) ∧
      Changelog.entry? ⟨String.ofList ("## [1.0.0]\n".toList ++ grouped), "v"⟩ ⟨1, 0, 0⟩ =
        some "#### Reader\n- New.\n### Fixed\n- Old." :=
  ⟨by decide +kernel, by decide, by decide, by decide +kernel⟩

end Slipway.Changelog
