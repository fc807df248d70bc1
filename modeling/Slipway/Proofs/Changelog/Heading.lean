import Slipway.Changelog.Basic
import Slipway.Proofs.Changelog.Link

/-!
# The sections of a changelog, label by label

About `find_section` (`keel_core::changelog`). `labelsOf` lists the labels of all heading lines, and
`bodyOf?` gives the body of the first section of a label. A label has a section exactly if it is
listed (`bodyOf?_eq_none_iff`). Where a section ends, the lines above and the lines below can be
looked at one after the other (`bodyOf?_append`), and pointing the compare link to a new version
changes neither labels nor bodies (`Relinked.labelsOf_eq`, `Relinked.bodyOf?_eq`).
-/

namespace Slipway.Changelog

open Text

variable {line label : List Char} {lines above below : List (List Char)} {s : Section}

/-- The labels of the headings among lines, in their order. -/
def labelsOf (lines : List (List Char)) : List (List Char) := lines.filterMap headingLabel?

/-- The body of the first section of a label. -/
def bodyOf? (label : List Char) (lines : List (List Char)) : Option (List (List Char)) :=
  (Section.find? label lines).map Section.body

/-! ## Heading lines -/

/-- A heading line: its label, and what follows the bracket. -/
def headingLine (label tail : List Char) : List Char := "## [".toList ++ label ++ ']' :: tail

theorem upTo?_append (h : ']' ∉ label) (tail : List Char) :
    upTo? ']' (label ++ ']' :: tail) = some label := by
  induction label with
  | nil => exact if_pos rfl
  | cons c label ih =>
    rw [List.mem_cons, not_or] at h
    rw [List.cons_append, upTo?, if_neg (Ne.symm h.1), ih h.2]
    rfl

@[simp] theorem headingLabel?_headingLine (h : ']' ∉ label) (tail : List Char) :
    headingLabel? (headingLine label tail) = some label := by
  unfold headingLabel? headingLine
  rw [List.append_assoc, after?_append]
  exact upTo?_append h tail

theorem eq_append_of_upTo? {text : List Char} (h : upTo? ']' text = some label) :
    ']' ∉ label ∧ ∃ tail, text = label ++ ']' :: tail := by
  induction text generalizing label with
  | nil => exact absurd h (by simp [upTo?])
  | cons c text ih =>
    unfold upTo? at h
    split at h
    · rename_i hc
      rw [← Option.some.inj h]
      exact ⟨List.not_mem_nil, text, by rw [hc]; rfl⟩
    · rename_i hc
      obtain ⟨more, hmore, rfl⟩ := Option.map_eq_some_iff.mp h
      obtain ⟨hnot, tail, rfl⟩ := ih hmore
      exact ⟨by simp [hnot, Ne.symm hc], tail, rfl⟩

/-- A heading line of a label. A label ends at the first closing bracket. -/
def IsHeading (label line : List Char) : Prop := ']' ∉ label ∧ ∃ tail, line = headingLine label tail

theorem headingLabel?_eq_some_iff : headingLabel? line = some label ↔ IsHeading label line := by
  constructor
  · intro h
    obtain ⟨rest, hrest, hlabel⟩ := Option.bind_eq_some_iff.mp h
    obtain ⟨hnot, tail, rfl⟩ := eq_append_of_upTo? hlabel
    exact ⟨hnot, tail, by rw [eq_append_of_after? hrest, headingLine, List.append_assoc]⟩
  · rintro ⟨hnot, tail, rfl⟩
    exact headingLabel?_headingLine hnot tail

theorem headingLabel?_eq_none_of_link (h : isLinkDefinition line = true) :
    headingLabel? line = none := by
  unfold isLinkDefinition at h
  split at h
  · rfl
  · exact absurd h (by decide)

theorem endsSection_of_heading (h : headingLabel? line = some label) : endsSection line = true := by
  simp [endsSection, h]

theorem endsSection_of_link (h : isLinkDefinition line = true) : endsSection line = true := by
  simp [endsSection, h]

theorem headingLabel?_eq_none (h : endsSection line = false) : headingLabel? line = none := by
  simp only [endsSection, Bool.or_eq_false_iff] at h
  exact Option.isNone_iff_eq_none.mp (by simpa using h.1)

/-- **A section ends** before a heading line of any label, and before a link definition. -/
theorem endsSection_iff : endsSection line = true ↔
    (∃ label, IsHeading label line) ∨ IsDefinition line := by
  simp only [endsSection, Bool.or_eq_true, Option.isSome_iff_exists, headingLabel?_eq_some_iff,
    isLinkDefinition_iff]

/-! ## The labels of lines -/

@[simp] theorem labelsOf_append (above below : List (List Char)) :
    labelsOf (above ++ below) = labelsOf above ++ labelsOf below :=
  List.filterMap_append

theorem labelsOf_cons (h : headingLabel? line = some label) (lines : List (List Char)) :
    labelsOf (line :: lines) = label :: labelsOf lines :=
  List.filterMap_cons_some h

theorem labelsOf_cons_none (h : headingLabel? line = none) (lines : List (List Char)) :
    labelsOf (line :: lines) = labelsOf lines :=
  List.filterMap_cons_none h

theorem mem_labelsOf : label ∈ labelsOf lines ↔ ∃ line ∈ lines, IsHeading label line := by
  simp only [labelsOf, List.mem_filterMap, headingLabel?_eq_some_iff]

theorem labelsOf_eq_nil (h : ∀ line ∈ lines, endsSection line = false) : labelsOf lines = [] :=
  List.filterMap_eq_nil_iff.mpr fun line hl => headingLabel?_eq_none (h line hl)

/-! ## The body of a label -/

theorem bodyOf?_cons (h : headingLabel? line = some label) (lines : List (List Char)) :
    bodyOf? label (line :: lines) = some (lines.takeWhile (!endsSection ·)) := by
  rw [bodyOf?, Section.find?, if_pos h]
  rfl

theorem bodyOf?_cons_of_ne (h : headingLabel? line ≠ some label) (lines : List (List Char)) :
    bodyOf? label (line :: lines) = bodyOf? label lines := by
  rw [bodyOf?, Section.find?, if_neg h, Option.map_map]
  rfl

theorem bodyOf?_cons_of_link (h : isLinkDefinition line = true) (label : List Char)
    (lines : List (List Char)) : bodyOf? label (line :: lines) = bodyOf? label lines :=
  bodyOf?_cons_of_ne (by simp [headingLabel?_eq_none_of_link h]) lines

theorem takeWhile_append_cons (h : endsSection line = true) (above below : List (List Char)) :
    (above ++ line :: below).takeWhile (!endsSection ·) = above.takeWhile (!endsSection ·) := by
  induction above with
  | nil => simp [h]
  | cons first above ih => simp only [List.cons_append, List.takeWhile_cons, ih]

/-- **Where a section ends**, the first section of a label stands above, or else below. -/
theorem bodyOf?_append (h : endsSection line = true) (label : List Char)
    (above below : List (List Char)) : bodyOf? label (above ++ line :: below) =
      (bodyOf? label above).or (bodyOf? label (line :: below)) := by
  induction above with
  | nil => rfl
  | cons first above ih =>
    by_cases hl : headingLabel? first = some label
    · -- the body cannot reach beyond the line at which a section ends
      rw [List.cons_append, bodyOf?_cons hl, bodyOf?_cons hl, takeWhile_append_cons h]
      rfl
    · rw [List.cons_append, bodyOf?_cons_of_ne hl, bodyOf?_cons_of_ne hl, ih]

/-- **A label has a section** exactly if it is the label of a heading. -/
theorem bodyOf?_eq_none_iff : bodyOf? label lines = none ↔ label ∉ labelsOf lines := by
  induction lines with
  | nil => simp [bodyOf?, Section.find?, labelsOf]
  | cons line lines ih =>
    cases hl : headingLabel? line with
    | none => rw [bodyOf?_cons_of_ne (by simp [hl]), labelsOf_cons_none hl, ih]
    | some other =>
      rw [labelsOf_cons hl, List.mem_cons, not_or]
      by_cases ho : other = label
      · subst ho
        simp [bodyOf?_cons hl]
      · rw [bodyOf?_cons_of_ne (by simpa [hl] using ho), ih]
        exact (and_iff_right (Ne.symm ho)).symm

theorem find?_eq_none_iff : Section.find? label lines = none ↔ label ∉ labelsOf lines := by
  rw [← bodyOf?_eq_none_iff, bodyOf?, Option.map_eq_none_iff]

/-- What is known about the first section of a label. -/
structure IsFirst (label : List Char) (s : Section) : Prop where
  heading : headingLabel? s.heading = some label
  before : label ∉ labelsOf s.before
  body : (s.body ++ s.rest).takeWhile (!endsSection ·) = s.body

theorem isFirst_of_find? (h : Section.find? label lines = some s) : IsFirst label s := by
  induction lines generalizing s with
  | nil => exact absurd h (by simp [Section.find?])
  | cons line lines ih =>
    unfold Section.find? at h
    split at h
    · rename_i hl
      rw [← Option.some.inj h]
      exact ⟨hl, List.not_mem_nil, by rw [List.takeWhile_append_dropWhile]⟩
    · rename_i hl
      obtain ⟨s', hs', rfl⟩ := Option.map_eq_some_iff.mp h
      obtain ⟨hhead, hbefore, hbody⟩ := ih hs'
      refine ⟨hhead, ?_, hbody⟩
      show label ∉ labelsOf (line :: s'.before)
      rwa [← bodyOf?_eq_none_iff, bodyOf?_cons_of_ne hl, bodyOf?_eq_none_iff]

/-! ## Links -/

namespace CompareLink

variable {relinked : List (List Char)}

theorem Relinked.labelsOf_eq (h : Relinked lines relinked) :
    labelsOf relinked = labelsOf lines := by
  cases h with
  | same => rfl
  | replaced above below h h₁ h₂ =>
    simp only [labelsOf_append, labelsOf_cons_none (headingLabel?_eq_none_of_link h),
      labelsOf_cons_none (headingLabel?_eq_none_of_link h₁),
      labelsOf_cons_none (headingLabel?_eq_none_of_link h₂)]

theorem Relinked.bodyOf?_eq (h : Relinked lines relinked) (label : List Char) :
    bodyOf? label relinked = bodyOf? label lines := by
  cases h with
  | same => rfl
  | replaced above below h h₁ h₂ =>
    simp only [bodyOf?_append (endsSection_of_link h), bodyOf?_append (endsSection_of_link h₁),
      bodyOf?_cons_of_link h, bodyOf?_cons_of_link h₁, bodyOf?_cons_of_link h₂]

end CompareLink

end Slipway.Changelog
