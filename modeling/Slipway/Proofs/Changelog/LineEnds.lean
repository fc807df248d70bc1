import Slipway.Proofs.Changelog.Chain

/-!
# Line ends under a promotion

About `ChangelogLedger::promote_pending` (`keel_core::changelog`). A promotion ends its new headings
as the pending heading ends, and its two links as the line of the compare link ends. Where the
carriage return of that line is missing, a lone line feed comes between the two links. In a text
with carriage returns this can only be the last line, which nothing ends (`EndsInLink`), so these
are the changelogs that do not keep their line ends (`promote_crlf_iff`, `promote_mixes_line_ends`).
-/

namespace Slipway.Changelog

open Text

variable {path run text rest raw tail front tagPrefix base version line : List Char}
variable {lines above below : List (List Char)} {link : CompareLink} {carriage : Bool}
variable {c : Changelog} {s : Section} {v : Version} {date : Date} {t : String}

namespace CompareLink

/-! ## How the line of a link ends -/

/-- What was read of a text, up to the rest of it, ends in a carriage return or not. -/
def Closed (carriage : Bool) (text rest : List Char) : Prop :=
  ∃ raw, raw ≠ [] ∧ text = raw ++ rest ∧ (raw.getLast? = some '\r' ↔ carriage = true)

theorem Closed.append (h : Closed carriage text rest) (front : List Char) :
    Closed carriage (front ++ text) rest := by
  obtain ⟨raw, hne, rfl, hlast⟩ := h
  refine ⟨front ++ raw, by simp [hne], (List.append_assoc _ _ _).symm, ?_⟩
  rwa [List.getLast?_append_of_ne_nil _ hne]

theorem getLast?_append_carriageOf (h : front.getLast? ≠ some '\r') :
    (front ++ carriageOf carriage).getLast? = some '\r' ↔ carriage = true := by
  cases carriage with
  | false => simpa [carriageOf] using h
  | true => simp [carriageOf]

/-- A letter, blanks and a carriage return: the blanks hide none. -/
theorem closed_of_lineEnd? {letter : Char} (hletter : letter ≠ '\r')
    (h : lineEnd? text = some (carriage, rest)) : Closed carriage (letter :: text) rest := by
  have hgap : (letter :: text.takeWhile isGap).getLast? ≠ some '\r' := by
    intro hlast
    rcases List.mem_cons.mp (List.mem_of_getLast? hlast) with hm | hm
    · exact hletter hm.symm
    · exact absurd (List.all_eq_true.mp List.all_takeWhile _ hm) (by decide)
  obtain ⟨hsplit, -⟩ := lineEnd?_eq_some h
  refine ⟨letter :: text.takeWhile isGap ++ carriageOf carriage, by simp, ?_,
    getLast?_append_carriageOf hgap⟩
  rw [List.append_assoc, List.cons_append, ← hsplit]

theorem closed_of_previous? {previous : List Char}
    (h : previous? run text = some (previous, carriage, rest)) : Closed carriage text rest := by
  obtain ⟨more, mid, -, -, rfl, hline⟩ := previous?_eq_some h
  have hletter : 'D' ≠ '\r' := by decide
  exact ((closed_of_lineEnd? hletter hline).append "...HEA".toList).append more

theorem closed_of_base? (h : base? path run text = some (link, rest)) :
    Closed link.carriage text rest := by
  obtain ⟨more, mid, -, -, rfl, hprev⟩ := base?_eq_some h
  exact ((closed_of_previous? hprev).append path).append more

theorem closed_of_read? (h : read? tagPrefix text = some (link, rest)) :
    Closed link.carriage text rest := by
  obtain ⟨mid, hmid, hbase⟩ := Option.bind_eq_some_iff.mp h
  rw [eq_append_of_after? hmid, ← List.takeWhile_append_dropWhile (p := isGap) (l := mid)]
  exact ((closed_of_base? hbase).append _).append _

/-- **The carriage return of a link** is the one at the end of its line. -/
theorem carriage_iff (hp : '\n' ∉ tagPrefix) (hraw : '\n' ∉ raw) (htail : AtLineEnd tail)
    (h : readLine? tagPrefix (raw ++ tail) = some link) :
    link.carriage = true ↔ raw.getLast? = some '\r' := by
  obtain ⟨⟨link', rest⟩, hread, rfl⟩ := Option.map_eq_some_iff.mp h
  obtain ⟨raw', -, htext, hlast⟩ := closed_of_read? hread
  rw [read?_append hp hraw htail] at hread
  obtain ⟨⟨link'', left⟩, hleft, hout⟩ := Option.map_eq_some_iff.mp hread
  have hrest : tail = rest := by
    rw [← (Prod.mk.inj hout).2, left_of_read? hp hraw hleft]
    rfl
  rw [← hrest] at htext
  rw [List.append_cancel_right htext]
  exact hlast.symm

/-- A line of a link has its carriage return if the link has, or if it has no line feed either. -/
theorem Ended.crlf (h : Ended carriage text line) (hfeed : '\n' ∉ text)
    (hc : carriage = true) : Crlf line := by
  have hraw : '\n' ∉ text ++ carriageOf carriage := by
    rw [List.mem_append, not_or]
    exact ⟨hfeed, not_feed_carriageOf carriage⟩
  rcases h with rfl | rfl
  · exact crlf_of_not_mem hraw
  · rw [crlf_append_feed_iff hraw, hc]
    simp [carriageOf]

/-- A line of a link that ends with its line feed has its carriage return exactly if the link
has. -/
theorem Ended.crlf_iff (h : Ended carriage text line) (hfeed : '\n' ∉ text)
    (hlast : text.getLast? ≠ some '\r') (ht : Terminated line) : Crlf line ↔ carriage = true := by
  have hraw : '\n' ∉ text ++ carriageOf carriage := by
    rw [List.mem_append, not_or]
    exact ⟨hfeed, not_feed_carriageOf carriage⟩
  rcases h with rfl | rfl
  · obtain ⟨raw, -, heq⟩ := ht
    rw [heq] at hraw
    exact absurd (List.mem_append_right raw (List.mem_singleton_self _)) hraw
  · rw [crlf_append_feed_iff hraw]
    exact getLast?_append_carriageOf hlast

end CompareLink

open CompareLink

/-! ## The opened section -/

theorem lineEndOf_eq_crlf {heading : List Char} (h : ['\r', '\n'] <:+ heading) :
    lineEndOf heading = ['\r', '\n'] := by
  obtain ⟨front, rfl⟩ := h
  simp [lineEndOf]

/-- Opening the pending section keeps the carriage returns. -/
theorem crlf_openedAbove (hc : Crlf c.text.toList) (hs : c.pending? = some s)
    (hheading : ['\r', '\n'] <:+ s.heading) (v : Version) (date : Date) :
    ∀ line ∈ s.openedAbove v date, Crlf line := by
  have hlines := Section.lines_of_find? hs
  rw [← flatten_keptLines c.text.toList, crlf_flatten_iff (wellCut_keptLines _), hlines] at hc
  intro line hm
  simp only [Section.openedAbove, List.mem_append] at hm
  rcases hm with hm | hm | hm
  · exact hc line (by simp [hm])
  · obtain ⟨raw, hraw, rfl⟩ := exists_of_mem_openedLines _ v date hm
    have hraw' : '\n' ∉ raw ++ ['\r'] := by simp [hraw]
    have hline : Crlf ((raw ++ ['\r']) ++ ['\n']) := (crlf_append_feed_iff hraw').mpr (by simp)
    rw [lineEndOf_eq_crlf hheading]
    simpa using hline
  · exact hc line (by simpa using Or.inr (Or.inr hm))

/-! ## The link -/

/-- The last line of a changelog is its compare link, and nothing ends that line: neither a line
feed nor a carriage return. -/
def EndsInLink (c : Changelog) : Prop :=
  ∃ above line link, keptLines c.text.toList = above ++ [line] ∧
    Held c.tagPrefix.toList link above line ∧ '\n' ∉ line ∧ line.getLast? ≠ some '\r'

theorem EndsInLink.not_carriage (hp : '\n' ∉ c.tagPrefix.toList) (h : EndsInLink c) :
    ∃ link, c.link? = some link ∧ link.carriage = false := by
  obtain ⟨above, line, link, hlines, hheld, hfeed, hlast⟩ := h
  have hline : readLine? c.tagPrefix.toList (line ++ []) = some link := by
    rw [List.append_nil]
    exact hheld.line
  refine ⟨link, link?_of_held hp hheld hlines, Bool.not_eq_true _ ▸ fun hcarriage => ?_⟩
  exact hlast ((carriage_iff hp hfeed (Or.inl rfl) hline).mp hcarriage)

/-- In a text with carriage returns, a link without one is all of the last line. -/
theorem endsInLink_of_held (hp : '\n' ∉ c.tagPrefix.toList) (hc : Crlf c.text.toList)
    (hheld : Held c.tagPrefix.toList link above line)
    (hlines : keptLines c.text.toList = above ++ line :: below)
    (hcarriage : link.carriage = false) : EndsInLink c := by
  have hcut := wellCut_keptLines c.text.toList
  rw [← flatten_keptLines c.text.toList, crlf_flatten_iff hcut, hlines] at hc
  rw [hlines] at hcut
  have hline := hheld.line
  obtain ⟨raw, tail, hraw, rfl, htail⟩ := exists_raw hcut.of_append
  have hlast : raw.getLast? ≠ some '\r' := by
    rw [ne_eq, ← carriage_iff hp hraw (atLineEnd_tail htail) hline, hcarriage]
    decide
  rcases htail with rfl | ⟨rfl, -, rfl⟩
  · -- a line feed would have the carriage return before it
    have hcrlf := hc (raw ++ ['\n']) (by simp)
    exact absurd ((crlf_append_feed_iff hraw).mp hcrlf) hlast
  · refine ⟨above, raw ++ [], link, hlines, hheld, ?_, ?_⟩
    · rwa [List.append_nil]
    · rwa [List.append_nil]

theorem getLast?_pendingLine (tagPrefix base version : List Char) :
    (pendingLine tagPrefix base version).getLast? = some 'D' := by
  have hhead : "HEAD".toList = "HEA".toList ++ ['D'] := by decide
  rw [pendingLine, compareLine, hhead, ← List.append_assoc, List.getLast?_append]
  rfl

section

variable [Regex.SizeLimit]

/-- A promotion of a changelog with a link keeps the carriage returns exactly if the link has
one. -/
theorem promote_crlf_iff_carriage (hp : '\n' ∉ c.tagPrefix.toList) (hc : Crlf c.text.toList)
    (hs : c.pending? = some s) (hheading : ['\r', '\n'] <:+ s.heading)
    (h : c.promote v date = .ok t) (hheld : Held c.tagPrefix.toList link above line)
    (hlines : keptLines c.text.toList = above ++ line :: below) :
    Crlf t.toList ↔ link.carriage = true := by
  obtain ⟨-, -, s', hs', ht⟩ := promote_eq_ok_iff.mp h
  obtain rfl : s' = s := Option.some.inj (hs'.symm.trans hs)
  have hcrlf := crlf_openedAbove hc hs hheading v date
  obtain ⟨hopened, hcut⟩ := opened_openedAbove hs v date
  rw [hlines] at hopened
  obtain ⟨above', below', heq, hheld'⟩ :=
    hheld.of_opened hp hopened fun l (hm : l ∈ ([] : List (List Char))) =>
      absurd hm List.not_mem_nil
  rw [List.singleton_append] at heq
  rw [heq] at ht hcut hcrlf
  have hfeed : '\n' ∉ v.text.toList := v.not_mem_text (by decide) (by decide)
  obtain ⟨hbase, hprevious⟩ := not_feed_of_readLine? hp hheld'.line
  obtain ⟨line₁, line₂, h₁, h₂, hnew⟩ := advance_of_reads hp hfeed hcut hheld'.above hheld'.line
  rw [← ht] at hnew
  have hcut' := wellCut_keptLines t.toList
  rw [← flatten_keptLines t.toList, crlf_flatten_iff hcut', hnew]
  rw [hnew, ← List.singleton_append, ← List.append_assoc] at hcut'
  have hpending : '\n' ∉ pendingLine c.tagPrefix.toList link.base v.text.toList :=
    not_feed_compareLine hp hbase (by decide) hfeed (by decide)
  have hreleased : '\n' ∉ releasedLine c.tagPrefix.toList link.base link.previous v.text.toList :=
    not_feed_compareLine hp hbase hfeed hprevious (by simp [hp, hfeed])
  have hfirst := h₁.crlf_iff hpending (by rw [getLast?_pendingLine]; decide)
    (hcut'.terminated line₁ (by simp))
  constructor
  · exact fun hall => hfirst.mp (hall line₁ (by simp))
  · intro hcarriage l hm
    simp only [List.mem_append, List.mem_cons] at hm
    rcases hm with hm | rfl | rfl | hm
    · exact hcrlf l (by simp [hm])
    · exact hfirst.mpr hcarriage
    · exact h₂.crlf hreleased hcarriage
    · exact hcrlf l (by simp [hm])

/-- **A promotion keeps carriage returns.** If one stands before every line feed and the pending
heading ends with both, then so it is in the new text, unless the text ends in its compare link. -/
theorem promote_crlf_iff (hp : '\n' ∉ c.tagPrefix.toList) (hc : Crlf c.text.toList)
    (hs : c.pending? = some s) (hheading : ['\r', '\n'] <:+ s.heading)
    (h : c.promote v date = .ok t) : Crlf t.toList ↔ ¬ EndsInLink c := by
  rcases link?_cases hp with ⟨hnone, -⟩ | ⟨link, above, line, below, hsome, hheld, hlines⟩
  · obtain ⟨-, -, s', hs', ht⟩ := promote_eq_ok_iff.mp h
    obtain rfl : s' = s := Option.some.inj (hs'.symm.trans hs)
    obtain ⟨hopened, hcut⟩ := opened_openedAbove hs v date
    rw [ht, advance_of_unread hp hcut (unread_of_opened hp hnone hopened)]
    refine iff_of_true ?_ fun hends => ?_
    · exact (crlf_flatten_iff hcut).mpr (crlf_openedAbove hc hs hheading v date)
    · obtain ⟨link, hsome, -⟩ := hends.not_carriage hp
      exact absurd (hnone.symm.trans hsome) (by simp)
  · rw [promote_crlf_iff_carriage hp hc hs hheading h hheld hlines]
    constructor
    · intro hcarriage hends
      obtain ⟨link', hsome', hcarriage'⟩ := hends.not_carriage hp
      obtain rfl : link' = link := Option.some.inj (hsome'.symm.trans hsome)
      exact absurd (hcarriage.symm.trans hcarriage') (by decide)
    · intro hends
      by_contra hcarriage
      exact hends (endsInLink_of_held hp hc hheld hlines (Bool.not_eq_true _ ▸ hcarriage))

end

/-- A changelog with carriage returns. -/
def windows : Changelog where
  text := "## [Unreleased]\r\n- New.\r\n\r\n[Unreleased]: u/compare/v0.3.1...HEAD\r\n"
  tagPrefix := "v"

/-- `windows` after a release. -/
def windowsReleased : String :=
  "## [Unreleased]\r\n\r\n### Added\r\n### Changed\r\n### Deprecated\r\n### Removed\r\n" ++
    "### Fixed\r\n### Security\r\n\r\n## [0.4.0] - 2024-03-15\r\n- New.\r\n\r\n" ++
    "[Unreleased]: u/compare/v0.4.0...HEAD\r\n[0.4.0]: u/compare/v0.3.1...v0.4.0\r\n"

theorem promote_crlf_iff_windows :
    '\n' ∉ windows.tagPrefix.toList ∧ Crlf windows.text.toList ∧
      (∃ s, windows.pending? = some s ∧ ['\r', '\n'] <:+ s.heading) ∧
      windows.promote ⟨0, 4, 0⟩ ⟨2024, 3, 15⟩ = .ok windowsReleased ∧
      (Crlf windowsReleased.toList ↔ ¬ EndsInLink windows) ∧ Crlf windowsReleased.toList := by
  have hp : '\n' ∉ windows.tagPrefix.toList := by decide
  have hc : Crlf windows.text.toList := by decide +kernel
  have hs : ∃ s, windows.pending? = some s ∧ ['\r', '\n'] <:+ s.heading :=
    ⟨_, rfl, "## [Unreleased]".toList, by decide⟩
  have hok : windows.promote ⟨0, 4, 0⟩ ⟨2024, 3, 15⟩ = .ok windowsReleased :=
    ok_of_toOption (by decide +kernel)
  obtain ⟨s, hpending, hheading⟩ := id hs
  refine ⟨hp, hc, hs, hok, promote_crlf_iff hp hc hpending hheading hok, ?_⟩
  unfold windowsReleased
  rw [String.toList_append, String.toList_append]
  rw [String.toList_ofList, String.toList_ofList, String.toList_ofList]
  decide +kernel

/-- `windows` without the end of its last line. -/
def cutOff : Changelog where
  text := "## [Unreleased]\r\n- New.\r\n\r\n[Unreleased]: u/compare/v0.3.1...HEAD"
  tagPrefix := "v"

/-- `cutOff` after a release. -/
def cutOffReleased : String :=
  "## [Unreleased]\r\n\r\n### Added\r\n### Changed\r\n### Deprecated\r\n### Removed\r\n" ++
    "### Fixed\r\n### Security\r\n\r\n## [0.4.0] - 2024-03-15\r\n- New.\r\n\r\n" ++
    "[Unreleased]: u/compare/v0.4.0...HEAD\n[0.4.0]: u/compare/v0.3.1...v0.4.0"

/-- **A changelog that ends in its compare link** gets a lone line feed. -/
theorem promote_mixes_line_ends :
    '\n' ∉ cutOff.tagPrefix.toList ∧ Crlf cutOff.text.toList ∧
      (∃ s, cutOff.pending? = some s ∧ ['\r', '\n'] <:+ s.heading) ∧
      cutOff.promote ⟨0, 4, 0⟩ ⟨2024, 3, 15⟩ = .ok cutOffReleased ∧
      ¬ Crlf cutOffReleased.toList := by
  refine ⟨by decide, by decide +kernel, ⟨_, rfl, "## [Unreleased]".toList, by decide⟩,
    ok_of_toOption (by decide +kernel), ?_⟩
  unfold cutOffReleased
  rw [String.toList_append, String.toList_append]
  rw [String.toList_ofList, String.toList_ofList, String.toList_ofList]
  decide +kernel

end Slipway.Changelog
