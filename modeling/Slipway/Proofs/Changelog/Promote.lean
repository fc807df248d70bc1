import Slipway.Proofs.Changelog.Heading
import Slipway.Proofs.Changelog.Pattern
import Slipway.Proofs.Disk.Lookup
import Slipway.Proofs.Text.Numeral
import Slipway.Proofs.Version.Text

/-!
# Promoting the pending section

About `ChangelogLedger::promote_pending` (`keel_core::changelog`). A promotion puts the heading of a
version and an empty pending section in the place of the pending heading (`Opened`), and then points
the compare link to the version. Both are edits of whole lines, so the sections of the new text can
be read off the old ones: the entry of the pending section becomes the one of the version, and no
other entry changes (`promote_conserves`).
-/

namespace Slipway.Date

theorem not_feed_padded (width n : Nat) : '\n' ∉ (Text.padded width n).toList := fun h =>
  absurd (Text.isDigit_of_mem_padded h) (by decide)

theorem not_feed_text (d : Date) : '\n' ∉ d.text.toList := by
  have hyear : '\n' ∉ (yearText d.year).toList := by
    unfold yearText
    split
    · simp [not_feed_padded]
    · split
      · simp [not_feed_padded]
      · exact not_feed_padded _ _
  simp [text, toString, hyear, not_feed_padded]

end Slipway.Date

namespace Slipway.Changelog

open Text

variable {c c' : Changelog} {v w : Version} {date : Date} {t : String}
variable {label other nl : List Char} {lines opened : List (List Char)}

/-! ## A changelog by its labels -/

/-- The labels of all headings of a changelog. -/
def labels (c : Changelog) : List String :=
  (labelsOf (keptLines c.text.toList)).map String.ofList

/-- The body of the first section of a label. -/
def body? (c : Changelog) (label : String) : Option (List (List Char)) :=
  bodyOf? label.toList (keptLines c.text.toList)

theorem mem_labels {label : String} :
    label ∈ c.labels ↔ label.toList ∈ labelsOf (keptLines c.text.toList) := by
  unfold labels
  rw [List.mem_map]
  constructor
  · rintro ⟨name, hname, rfl⟩
    rwa [String.toList_ofList]
  · exact fun h => ⟨_, h, String.ofList_toList⟩

theorem find?_eq_none_iff_labels {label : String} : c.find? label = none ↔ label ∉ c.labels := by
  rw [mem_labels, find?, find?_eq_none_iff]

theorem pendingLength?_eq (c : Changelog) : c.pendingLength? =
    (c.body? pendingLabel).map fun body => (elide body.flatten).length := by
  unfold pendingLength? pending? find? body? bodyOf?
  rw [Option.map_map]
  rfl

theorem entry?_eq (c : Changelog) (v : Version) : c.entry? v = (c.body? v.text).bind fun body =>
    if elide body.flatten = [] then none else some (String.ofList (elide body.flatten)) := by
  unfold entry? find? body? bodyOf?
  cases Section.find? v.text.toList (keptLines c.text.toList) <;> rfl

/-! ## The new lines -/

/-- The lines of a new pending section below its heading. -/
def templateLines (nl : List Char) : List (List Char) :=
  nl :: (template.map fun name => s!"### {name}".toList ++ nl) ++ [nl]

/-- The lines that take the place of the pending heading. -/
def openedLines (nl : List Char) (version date : String) : List (List Char) :=
  headingLine pendingLabel.toList nl ::
    (templateLines nl ++ [headingLine version.toList (s!" - {date}".toList ++ nl)])

theorem flatten_openedLines (nl : List Char) (version date : String) :
    (openedLines nl version date).flatten = openedHeading nl version date := by
  have hpending : s!"## [{pendingLabel}]".toList ++ nl = headingLine pendingLabel.toList nl := by
    simp [headingLine, toString]
  have hreleased : s!"## [{version}] - {date}".toList ++ nl =
      headingLine version.toList (s!" - {date}".toList ++ nl) := by
    simp [headingLine, toString]
  unfold openedLines openedHeading templateLines
  rw [hpending, List.append_assoc _ _ nl, hreleased, List.flatMap_def]
  simp only [List.flatten_cons, List.flatten_append, List.flatten_nil, List.append_nil,
    List.nil_append, List.append_assoc, List.cons_append]

/-- The line ends that a promotion writes. -/
theorem lineEndOf_eq (heading : List Char) :
    lineEndOf heading = ['\n'] ∨ lineEndOf heading = ['\r', '\n'] := by
  unfold lineEndOf
  split
  · exact Or.inr rfl
  · exact Or.inl rfl

theorem terminated_append {raw : List Char} (hr : '\n' ∉ raw)
    (hnl : nl = ['\n'] ∨ nl = ['\r', '\n']) : Terminated (raw ++ nl) := by
  rcases hnl with rfl | rfl
  · exact terminated_append_feed hr
  · exact ⟨raw ++ ['\r'], by simp [hr], by simp⟩

/-- Every new line is a text and the line end. -/
theorem exists_of_mem_openedLines {line : List Char} (nl : List Char) (v : Version) (date : Date)
    (h : line ∈ openedLines nl v.text date.text) : ∃ raw, '\n' ∉ raw ∧ line = raw ++ nl := by
  have hheading : ∀ label tail : List Char, '\n' ∉ label → '\n' ∉ tail →
      ∃ raw, '\n' ∉ raw ∧ headingLine label (tail ++ nl) = raw ++ nl := by
    intro label tail hl ht
    exact ⟨headingLine label tail, by simp [headingLine, hl, ht], by simp [headingLine]⟩
  have hsub : ∀ name ∈ template, '\n' ∉ s!"### {name}".toList := by decide
  simp only [openedLines, templateLines, List.mem_cons, List.mem_append, List.mem_map,
    List.not_mem_nil, or_false] at h
  rcases h with rfl | ((rfl | ⟨name, hname, rfl⟩) | rfl) | rfl
  · exact hheading _ [] (by decide) List.not_mem_nil
  · exact ⟨[], List.not_mem_nil, rfl⟩
  · exact ⟨_, hsub name hname, rfl⟩
  · exact ⟨[], List.not_mem_nil, rfl⟩
  · exact hheading _ _ (v.not_mem_text (by decide) (by decide)) (by
      simp [toString, Date.not_feed_text])

theorem terminated_openedLines (hnl : nl = ['\n'] ∨ nl = ['\r', '\n']) (v : Version)
    (date : Date) : ∀ line ∈ openedLines nl v.text date.text, Terminated line := by
  intro line hline
  obtain ⟨raw, hraw, rfl⟩ := exists_of_mem_openedLines nl v date hline
  exact terminated_append hraw hnl

/-! ## The edit -/

/-- A new pending section without an entry and the heading of a label stand in the place of the
first pending heading. -/
inductive Opened (label : List Char) : List (List Char) → List (List Char) → Prop
  | intro (above below blank : List (List Char)) {old new released : List Char}
    (hfirst : pendingLabel.toList ∉ labelsOf above)
    (hold : headingLabel? old = some pendingLabel.toList)
    (hnew : headingLabel? new = some pendingLabel.toList)
    (hblank : ∀ line ∈ blank, endsSection line = false)
    (hempty : elide blank.flatten = [])
    (hreleased : headingLabel? released = some label) :
    Opened label (above ++ old :: below) (above ++ new :: (blank ++ released :: below))

namespace Opened

theorem labelsOf_eq (h : Opened label lines opened) :
    ∃ above below, pendingLabel.toList ∉ above ∧
      labelsOf lines = above ++ pendingLabel.toList :: below ∧
      labelsOf opened = above ++ pendingLabel.toList :: label :: below := by
  obtain ⟨above, below, blank, hfirst, hold, hnew, hblank, -, hreleased⟩ := h
  refine ⟨labelsOf above, labelsOf below, hfirst, ?_, ?_⟩
  · rw [labelsOf_append, labelsOf_cons hold]
  · rw [labelsOf_append, labelsOf_cons hnew, labelsOf_append, labelsOf_cons hreleased,
      labelsOf_eq_nil hblank, List.nil_append]

/-- The new pending section has no entry. -/
theorem bodyOf?_pending (h : Opened label lines opened) :
    ∃ blank, bodyOf? pendingLabel.toList opened = some blank ∧ elide blank.flatten = [] := by
  obtain ⟨above, below, blank, hfirst, -, hnew, hblank, hempty, hreleased⟩ := h
  refine ⟨blank, ?_, hempty⟩
  rw [bodyOf?_append (endsSection_of_heading hnew), bodyOf?_eq_none_iff.mpr hfirst,
    bodyOf?_cons hnew, List.takeWhile_append_of_pos fun line hl => by simp [hblank line hl],
    List.takeWhile_cons_of_neg (by simp [endsSection_of_heading hreleased]), List.append_nil]
  rfl

/-- The section of the label has the body that the pending section had. -/
theorem bodyOf?_released (h : Opened label lines opened) (hl : label ∉ labelsOf lines) :
    bodyOf? label opened = bodyOf? pendingLabel.toList lines := by
  obtain ⟨above, below, blank, hfirst, hold, hnew, hblank, -, hreleased⟩ := h
  rw [labelsOf_append, labelsOf_cons hold, List.mem_append, List.mem_cons, not_or, not_or] at hl
  -- no heading of the label stands above, and the new pending section has no heading in it
  obtain ⟨habove, hne, -⟩ := hl
  have hb : bodyOf? label blank = none := by
    rw [bodyOf?_eq_none_iff, labelsOf_eq_nil hblank]
    exact List.not_mem_nil
  rw [bodyOf?_append (endsSection_of_heading hnew), bodyOf?_eq_none_iff.mpr habove,
    bodyOf?_cons_of_ne (by simpa [hnew] using Ne.symm hne),
    bodyOf?_append (endsSection_of_heading hreleased), hb, bodyOf?_cons hreleased,
    bodyOf?_append (endsSection_of_heading hold), bodyOf?_eq_none_iff.mpr hfirst,
    bodyOf?_cons hold]
  rfl

/-- The section of any other label stays as it is. -/
theorem bodyOf?_other (h : Opened label lines opened) (hl : other ≠ label)
    (hp : other ≠ pendingLabel.toList) : bodyOf? other opened = bodyOf? other lines := by
  obtain ⟨above, below, blank, -, hold, hnew, hblank, -, hreleased⟩ := h
  have hb : bodyOf? other blank = none := by
    rw [bodyOf?_eq_none_iff, labelsOf_eq_nil hblank]
    exact List.not_mem_nil
  rw [bodyOf?_append (endsSection_of_heading hnew), bodyOf?_append (endsSection_of_heading hold),
    bodyOf?_cons_of_ne (by simpa [hnew] using Ne.symm hp),
    bodyOf?_cons_of_ne (by simpa [hold] using Ne.symm hp),
    bodyOf?_append (endsSection_of_heading hreleased), hb,
    bodyOf?_cons_of_ne (by simpa [hreleased] using Ne.symm hl)]
  rfl

end Opened

theorem opened_openedLines {s : Section} (hs : IsFirst pendingLabel.toList s)
    (hnl : nl = ['\n'] ∨ nl = ['\r', '\n']) (v : Version) (date : String) :
    Opened v.text.toList (s.before ++ s.heading :: (s.body ++ s.rest))
      (s.before ++ (openedLines nl v.text date ++ (s.body ++ s.rest))) := by
  have hnew : headingLabel? (headingLine pendingLabel.toList nl) = some pendingLabel.toList :=
    headingLabel?_headingLine (by decide) nl
  have hreleased : headingLabel? (headingLine v.text.toList (s!" - {date}".toList ++ nl)) =
      some v.text.toList :=
    headingLabel?_headingLine (v.not_mem_text (by decide) (by decide)) _
  have hblank : ∀ line ∈ templateLines nl, endsSection line = false := by
    rcases hnl with rfl | rfl <;> decide
  have hempty : elide (templateLines nl).flatten = [] := by
    rcases hnl with rfl | rfl <;> decide
  have := Opened.intro s.before (s.body ++ s.rest) (templateLines nl) hs.before hs.heading hnew
    hblank hempty hreleased
  simpa [openedLines] using this

/-- The lines of a changelog, with its pending section opened above a version. -/
def Section.openedAbove (s : Section) (v : Version) (date : Date) : List (List Char) :=
  s.before ++ (openedLines (lineEndOf s.heading) v.text date.text ++ (s.body ++ s.rest))

theorem flatten_openedAbove (s : Section) (v : Version) (date : Date) :
    (s.openedAbove v date).flatten =
      s.before.flatten ++ openedHeading (lineEndOf s.heading) v.text date.text
        ++ s.body.flatten ++ s.rest.flatten := by
  rw [Section.openedAbove, List.flatten_append, List.flatten_append, flatten_openedLines,
    List.flatten_append, ← List.append_assoc, ← List.append_assoc]

theorem opened_openedAbove {s : Section} (hs : c.pending? = some s) (v : Version) (date : Date) :
    Opened v.text.toList (keptLines c.text.toList) (s.openedAbove v date) ∧
      WellCut (s.openedAbove v date) := by
  have hlines := Section.lines_of_find? hs
  have hnl := lineEndOf_eq s.heading
  have hcut := wellCut_keptLines c.text.toList
  rw [hlines] at hcut
  refine ⟨hlines ▸ opened_openedLines (isFirst_of_find? hs) hnl v date.text, ?_⟩
  exact (hcut.of_append.tail.append (terminated_openedLines hnl v date)).append hcut.terminated

theorem exists_pending (hp : pendingLabel ∈ c.labels) : ∃ s, c.pending? = some s := by
  rw [← Option.isSome_iff_exists, Option.isSome_iff_ne_none]
  exact fun hnone => find?_eq_none_iff_labels.mp hnone hp

/-! ## Entries -/

/-- What a promotion to a version keeps of the sections. -/
structure Conserved (c : Changelog) (v : Version) (c' : Changelog) : Prop where
  /-- There is a pending section. -/
  pending : c'.pending?.isSome = true
  /-- The pending section has no entry. -/
  empty : c'.pendingLength? = some 0
  /-- The entry of the pending section has become the entry of the version. -/
  released : ∃ s, c.pending? = some s ∧ c'.entry? v =
    if elide s.bodyText = [] then none else some (String.ofList (elide s.bodyText))
  /-- The other versions keep their entries. -/
  entries : ∀ w, w ≠ v → c'.entry? w = c.entry? w
  /-- All other sections keep their bodies. -/
  bodies : ∀ label, label ≠ pendingLabel → label ≠ v.text → c'.body? label = c.body? label

theorem text_ne_pendingLabel (v : Version) : v.text ≠ pendingLabel := by
  intro h
  have hmem : 'U' ∈ v.text.toList := by
    rw [h]
    decide
  exact v.not_mem_text (by decide) (by decide) hmem

theorem body?_of_relinked (h : CompareLink.Relinked opened (keptLines t.toList))
    (tagPrefix label : String) :
    (Changelog.mk t tagPrefix).body? label = bodyOf? label.toList opened :=
  h.bodyOf?_eq label.toList

/-! ## Promotion -/

section

variable [Regex.SizeLimit]

/-- The expression of the compare link, with the tag prefix escaped, is within the limit on its
size. -/
def LinkFits (c : Changelog) : Prop :=
  Regex.SizeLimit.admits (CompareLink.pattern c.tagPrefix.toList) = true

instance (c : Changelog) : Decidable c.LinkFits := inferInstanceAs (Decidable (_ = true))

/-- The error about an expression of the compare link that is too large. -/
def linkError (c : Changelog) : ReleaseError :=
  .invalidPattern (String.ofList (CompareLink.pattern c.tagPrefix.toList))
    Regex.Defect.tooLarge.message

theorem promote_eq_duplicate (date : Date) (h : v.text ∈ c.labels) :
    c.promote v date = .error (.duplicateSection v.text) := by
  have hf : (c.find? v.text).isSome = true :=
    Option.isSome_iff_ne_none.mpr fun hn => find?_eq_none_iff_labels.mp hn h
  rw [promote, if_pos hf]

theorem promote_eq_notFound (date : Date) (h : v.text ∉ c.labels) (hp : pendingLabel ∉ c.labels) :
    c.promote v date = .error (.sectionNotFound pendingLabel) := by
  rw [promote, pending?, find?_eq_none_iff_labels.mpr h, find?_eq_none_iff_labels.mpr hp]
  rfl

/-- A promotion that finds its sections opens the pending one, and then points the compare link to
the version, if it can. -/
theorem promote_of_pending {s : Section} (date : Date) (h : v.text ∉ c.labels)
    (hs : c.pending? = some s) : c.promote v date =
      if c.LinkFits then
        .ok (String.ofList (CompareLink.advance c.tagPrefix.toList v.text.toList
          (s.openedAbove v date).flatten))
      else .error c.linkError := by
  have hrewrite : c.promote v date =
      (CompareLink.rewrite c.tagPrefix.toList v.text.toList (s.openedAbove v date).flatten).map
        String.ofList := by
    rw [promote, find?_eq_none_iff_labels.mpr h, hs, flatten_openedAbove]
    rfl
  rw [hrewrite, CompareLink.rewrite_eq]
  by_cases hfits : c.LinkFits
  · rw [if_pos hfits, if_pos (by exact hfits)]
    rfl
  · rw [if_neg hfits, if_neg (by exact hfits)]
    rfl

theorem exists_promote (date : Date) (h : v.text ∉ c.labels) (hp : pendingLabel ∈ c.labels)
    (hfits : c.LinkFits) : ∃ t, c.promote v date = .ok t := by
  obtain ⟨s, hs⟩ := exists_pending hp
  rw [promote_of_pending date h hs, if_pos hfits]
  exact ⟨_, rfl⟩

theorem promote_eq_linkError (date : Date) (h : v.text ∉ c.labels) (hp : pendingLabel ∈ c.labels)
    (hfits : ¬ c.LinkFits) : c.promote v date = .error c.linkError := by
  obtain ⟨s, hs⟩ := exists_pending hp
  rw [promote_of_pending date h hs, if_neg hfits]

/-- **When a promotion succeeds**, and what it writes. -/
theorem promote_eq_ok_iff : c.promote v date = .ok t ↔
    v.text ∉ c.labels ∧ c.LinkFits ∧ ∃ s, c.pending? = some s ∧
      t.toList = CompareLink.advance c.tagPrefix.toList v.text.toList
        (s.openedAbove v date).flatten := by
  by_cases hnew : v.text ∈ c.labels
  · simp [promote_eq_duplicate date hnew, hnew]
  by_cases hp : pendingLabel ∈ c.labels
  · obtain ⟨s, hs⟩ := exists_pending hp
    rw [promote_of_pending date hnew hs]
    by_cases hfits : c.LinkFits
    · simp [hnew, hfits, hs, ← String.toList_inj, eq_comm]
    · simp [hfits]
  · have hnone : c.pending? = none := find?_eq_none_iff_labels.mpr hp
    simp [promote_eq_notFound date hnew hp, hnone]

/-- **How a promotion fails.** -/
theorem promote_error {e : ReleaseError} (h : c.promote v date = .error e) :
    e = .duplicateSection v.text ∨ e = .sectionNotFound pendingLabel ∨
      (¬ c.LinkFits ∧ e = c.linkError) := by
  by_cases hnew : v.text ∈ c.labels
  · rw [promote_eq_duplicate date hnew] at h
    exact Or.inl (Except.error.inj h).symm
  by_cases hp : pendingLabel ∈ c.labels
  · obtain ⟨s, hs⟩ := exists_pending hp
    rw [promote_of_pending date hnew hs] at h
    split at h
    · exact absurd h (by simp)
    · rename_i hfits
      exact Or.inr (Or.inr ⟨hfits, (Except.error.inj h).symm⟩)
  · rw [promote_eq_notFound date hnew hp] at h
    exact Or.inr (Or.inl (Except.error.inj h).symm)

theorem exists_opened (h : c.promote v date = .ok t) :
    v.text ∉ c.labels ∧ ∃ opened, Opened v.text.toList (keptLines c.text.toList) opened ∧
      WellCut opened ∧
      t.toList = CompareLink.advance c.tagPrefix.toList v.text.toList opened.flatten := by
  obtain ⟨hnew, -, s, hs, ht⟩ := promote_eq_ok_iff.mp h
  obtain ⟨hopened, hcut⟩ := opened_openedAbove hs v date
  exact ⟨hnew, s.openedAbove v date, hopened, hcut, ht⟩

/-- What a promotion does to the lines: the pending section is opened, and the compare link is
pointed to the version. -/
theorem opened_of_promote (hp : '\n' ∉ c.tagPrefix.toList) (h : c.promote v date = .ok t) :
    v.text ∉ c.labels ∧ ∃ opened, Opened v.text.toList (keptLines c.text.toList) opened ∧
      CompareLink.Relinked opened (keptLines t.toList) := by
  obtain ⟨hnew, opened, hopened, hcut, ht⟩ := exists_opened h
  refine ⟨hnew, opened, hopened, ?_⟩
  -- the new text is put together from lines, so these are the lines it is cut into
  have hrelinked := CompareLink.advance_lines hp (v.not_mem_text (by decide) (by decide))
    (v.not_mem_text (by decide) (by decide)) (v.not_mem_text (by decide) (by decide))
    opened.flatten
  rwa [keptLines_flatten hcut, ← ht] at hrelinked

/-- The section of the version has the body that the pending section had. -/
theorem body?_of_promote (hp : '\n' ∉ c.tagPrefix.toList) (h : c.promote v date = .ok t) :
    (Changelog.mk t c.tagPrefix).body? v.text = c.body? pendingLabel := by
  obtain ⟨hnew, opened, hopened, hlinked⟩ := opened_of_promote hp h
  rw [body?_of_relinked hlinked]
  exact hopened.bodyOf?_released ((not_congr mem_labels).mp hnew)

/-- **A promotion conserves entries.** The pending section is there again and has no entry, its
entry is the one of the version now, and all other sections keep their bodies. -/
theorem promote_conserves (hp : '\n' ∉ c.tagPrefix.toList) (h : c.promote v date = .ok t) :
    Conserved c v ⟨t, c.tagPrefix⟩ := by
  obtain ⟨hnew, opened, hopened, hlinked⟩ := opened_of_promote hp h
  have hbody := body?_of_relinked hlinked c.tagPrefix
  obtain ⟨blank, hblank, hempty⟩ := hopened.bodyOf?_pending
  have hbodies : ∀ label, label ≠ pendingLabel → label ≠ v.text →
      (Changelog.mk t c.tagPrefix).body? label = c.body? label := by
    intro label hl hv
    rw [hbody]
    exact hopened.bodyOf?_other (by rwa [ne_eq, String.toList_inj])
      (by rwa [ne_eq, String.toList_inj])
  refine ⟨?_, ?_, ?_, ?_, hbodies⟩
  · obtain ⟨s, hs, -⟩ := Option.map_eq_some_iff.mp ((hbody pendingLabel).trans hblank)
    exact Option.isSome_iff_exists.mpr ⟨s, hs⟩
  · rw [pendingLength?_eq, hbody, hblank, Option.map_some, hempty]
    rfl
  · have hreleased := hopened.bodyOf?_released ((not_congr mem_labels).mp hnew)
    obtain ⟨s, hs⟩ : ∃ s, c.pending? = some s := by
      refine Option.isSome_iff_exists.mp (Option.isSome_iff_ne_none.mpr fun hn => ?_)
      obtain ⟨above, below, -, hlabels, -⟩ := hopened.labelsOf_eq
      refine find?_eq_none_iff_labels.mp hn (mem_labels.mpr ?_)
      simp [hlabels]
    refine ⟨s, hs, ?_⟩
    have hpending : bodyOf? pendingLabel.toList (keptLines c.text.toList) = some s.body :=
      congrArg (Option.map Section.body) hs
    rw [entry?_eq, hbody, hreleased, hpending]
    rfl
  · intro w hw
    have htext : w.text ≠ v.text := fun ht => hw (Version.text_injective ht)
    rw [entry?_eq, entry?_eq, hbodies _ (text_ne_pendingLabel w) htext]

end

/-- A changelog with an entry, a released section and a compare link. -/
def tiny : Changelog where
  text := "## [Unreleased]\n- New.\n\n## [0.3.1]\n- Old.\n\n[Unreleased]: u/compare/v0.3.1...HEAD\n"
  tagPrefix := "v"

/-- `tiny` after a release. -/
def tinyReleased : String :=
  "## [Unreleased]\n\n### Added\n### Changed\n### Deprecated\n### Removed\n### Fixed\n" ++
  "### Security\n\n## [0.4.0] - 2024-03-15\n- New.\n\n## [0.3.1]\n- Old.\n\n" ++
  "[Unreleased]: u/compare/v0.4.0...HEAD\n[0.4.0]: u/compare/v0.3.1...v0.4.0\n"

theorem promote_tiny : tiny.promote ⟨0, 4, 0⟩ ⟨2024, 3, 15⟩ = .ok tinyReleased :=
  ok_of_toOption (by decide +kernel)

theorem promote_conserves_tiny :
    '\n' ∉ tiny.tagPrefix.toList ∧ tiny.promote ⟨0, 4, 0⟩ ⟨2024, 3, 15⟩ = .ok tinyReleased ∧
      Conserved tiny ⟨0, 4, 0⟩ ⟨tinyReleased, "v"⟩ :=
  ⟨by decide, promote_tiny, promote_conserves (by decide) promote_tiny⟩

end Slipway.Changelog
