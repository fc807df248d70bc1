import Mathlib.Data.List.Forall2
import Slipway.Proofs.Basic
import Slipway.Proofs.Changelog.Reading
import Slipway.Proofs.Changelog.Releases

/-!
# The chain of compare links

About `ChangelogLedger::rewrite_links` (`keel_core::changelog`). A promotion writes a compare link
that the next one reads back as it was meant, whatever base and prefix it has (`read?_pendingLine`):
a longer base would need one more slash, a shorter version would leave letters at the end of the
line. So the links of released versions form a chain, in which each one starts where the one below
it ends (`promote_chains`).
-/

namespace Slipway.Changelog

open Text

variable {path run text tagPrefix base version line label : List Char}
variable {lines opened above block below : List (List Char)} {link : CompareLink} {carriage : Bool}
variable {c c' : Changelog} {v : Version} {vs : List Version} {date : Date} {t : String}

namespace CompareLink

/-! ## A link is read back -/

/-- The base of a link is not empty and has no blanks. -/
theorem base_of_readLine? (h : readLine? tagPrefix line = some link) :
    link.base ≠ [] ∧ ∀ c ∈ link.base, isBlank c = false := by
  obtain ⟨⟨link', rest⟩, hread, rfl⟩ := Option.map_eq_some_iff.mp h
  obtain ⟨mid, -, hbase⟩ := Option.bind_eq_some_iff.mp hread
  obtain ⟨more, _, hmore, heq, -⟩ := base?_eq_some hbase
  rw [List.reverse_nil, List.nil_append] at heq
  rw [heq]
  exact ⟨hmore.nonempty, hmore.solid⟩

/-- No base reaches into a path that no slash follows: the path would have to occur once more, and
then there would be a slash too many. -/
theorem base?_comparePath (h : '/' ∉ text) (run : List Char) :
    base? (comparePath tagPrefix) run (comparePath tagPrefix ++ text) = none := by
  cases hfound : base? (comparePath tagPrefix) run (comparePath tagPrefix ++ text) with
  | none => rfl
  | some found =>
    obtain ⟨more, left, hmore, -, heq, -⟩ := base?_eq_some hfound
    have hslash : '/' ∈ more := by
      cases more with
      | nil => exact absurd rfl hmore.nonempty
      | cons c more =>
        have hc : '/' = c := (List.cons.inj heq).1
        rw [hc]
        exact List.mem_cons_self
    have hcount := congrArg (List.count '/') heq
    have hmore : 0 < more.count '/' := List.count_pos_iff.mpr hslash
    have htext : text.count '/' = 0 := List.count_eq_zero.mpr h
    rw [List.count_append, List.count_append, List.count_append, htext] at hcount
    omega

/-- The longest base before a path is read, if none reaches further. -/
theorem base?_append {mid previous rest : List Char} (hne : base ≠ [])
    (hbase : ∀ c ∈ base, isBlank c = false) (hlonger : ∀ run, base? path run text = none)
    (hmid : after? path text = some mid)
    (hprevious : previous? [] mid = some (previous, carriage, rest)) (run : List Char) :
    base? path run (base ++ text) = some (⟨run.reverse ++ base, previous, carriage⟩, rest) := by
  induction base generalizing run with
  | nil => exact absurd rfl hne
  | cons c base ih =>
    have hc : ¬ isBlank c = true := by simp [hbase c List.mem_cons_self]
    rw [List.cons_append, base?, if_neg hc]
    by_cases hlast : base = []
    · subst hlast
      rw [List.nil_append, hlonger, hmid]
      simp [hprevious]
    · rw [ih hlast (fun x hx => hbase x (List.mem_cons_of_mem c hx))]
      simp

/-- The characters of a version. -/
def Numeric (version : List Char) : Prop := ∀ c ∈ version, c.isDigit = true ∨ c = '.'

theorem Numeric.not_blank (h : Numeric version) {c : Char} (hc : c ∈ version) :
    isBlank c = false := by
  rcases h c hc with hdigit | rfl
  · exact isBlank_of_isDigit hdigit
  · decide

/-- `...HEAD` does not start inside of a version: its first letter would be a digit or a dot. -/
theorem after?_version (h : Numeric version) (hne : version ≠ []) (rest : List Char) :
    after? "...HEAD".toList (version ++ ("...HEAD".toList ++ rest)) = none := by
  cases hfound : after? "...HEAD".toList (version ++ ("...HEAD".toList ++ rest)) with
  | none => rfl
  | some left =>
    have hsplit : (version ++ "...".toList) ++ ("HEAD".toList ++ rest) =
        "...HEAD".toList ++ left := by
      rw [← eq_append_of_after? hfound, List.append_assoc]
      rfl
    have hlength : 3 < (version ++ "...".toList).length := by
      rw [List.length_append, show "...".toList.length = 3 from rfl]
      have := List.length_pos_iff.mpr hne
      omega
    have hletter : (version ++ "...".toList)[3]? = some 'H' := by
      rw [← List.getElem?_append_left hlength, hsplit]
      rfl
    rcases List.mem_append.mp (List.mem_of_getElem? hletter) with hm | hm
    · rcases h _ hm with hdigit | hdot
      · exact absurd hdigit (by decide)
      · exact absurd hdot (by decide)
    · exact absurd hm (by decide)

theorem lineEnd?_carriageOf (carriage : Bool) :
    lineEnd? (carriageOf carriage) = some (carriage, []) := by
  cases carriage <;> rfl

/-- A version is read up to the end of its link. -/
theorem previous?_version (h : Numeric version) (hne : version ≠ []) (carriage : Bool)
    (run : List Char) :
    previous? run (version ++ ("...HEAD".toList ++ carriageOf carriage)) =
      some (run.reverse ++ version, carriage, []) := by
  induction version generalizing run with
  | nil => exact absurd rfl hne
  | cons c version ih =>
    have hc : ¬ isBlank c = true := by simp [h.not_blank List.mem_cons_self]
    have hrest : Numeric version := fun x hx => h x (List.mem_cons_of_mem c hx)
    rw [List.cons_append, previous?, if_neg hc]
    by_cases hlast : version = []
    · subst hlast
      rw [List.nil_append, after?_append, Option.bind_some, lineEnd?_carriageOf]
      simp
    · rw [after?_version hrest hlast]
      show previous? (c :: run) _ = _
      rw [ih hrest hlast]
      simp

/-- **A link is read back** with its base and its version. -/
theorem read?_pendingLine (hne : base ≠ []) (hbase : ∀ c ∈ base, isBlank c = false)
    (hv : Numeric version) (hv' : version ≠ []) (carriage : Bool) :
    read? tagPrefix (pendingLine tagPrefix base version ++ carriageOf carriage) =
      some (⟨base, version, carriage⟩, []) := by
  have hline : pendingLine tagPrefix base version ++ carriageOf carriage =
      s!"[{pendingLabel}]:".toList ++ ' ' :: (base ++ (comparePath tagPrefix ++
        (version ++ ("...HEAD".toList ++ carriageOf carriage)))) := by
    simp [pendingLine, compareLine, toString]
  have hgap : ∀ rest, (' ' :: (base ++ rest)).dropWhile isGap = base ++ rest := by
    intro rest
    rw [List.dropWhile_cons_of_pos (by decide)]
    cases base with
    | nil => exact absurd rfl hne
    | cons c base =>
      refine List.dropWhile_cons_of_neg ?_
      have hc := hbase c List.mem_cons_self
      intro hgap
      simp only [isGap, Bool.or_eq_true, beq_iff_eq] at hgap
      rcases hgap with rfl | rfl
      · exact absurd hc (by decide)
      · exact absurd hc (by decide)
  have hslash : '/' ∉ version ++ ("...HEAD".toList ++ carriageOf carriage) := by
    rw [List.mem_append, List.mem_append, not_or, not_or]
    refine ⟨fun hm => ?_, by decide, by cases carriage <;> decide⟩
    rcases hv _ hm with hdigit | hdot
    · exact absurd hdigit (by decide)
    · exact absurd hdot (by decide)
  rw [hline, read?, after?_append]
  show base? _ [] (List.dropWhile isGap _) = _
  rw [hgap]
  exact base?_append hne hbase (base?_comparePath hslash) (after?_append _ _)
    (previous?_version hv hv' carriage []) []

/-- So is a line that holds it. -/
theorem readLine?_of_ended (hp : '\n' ∉ tagPrefix) (hne : base ≠ [])
    (hbase : ∀ c ∈ base, isBlank c = false) (hv : Numeric version) (hv' : version ≠ [])
    (h : Ended carriage (pendingLine tagPrefix base version) line) :
    readLine? tagPrefix line = some ⟨base, version, carriage⟩ := by
  have hread : read? tagPrefix (pendingLine tagPrefix base version ++ carriageOf carriage) =
      some (⟨base, version, carriage⟩, []) := read?_pendingLine hne hbase hv hv' carriage
  unfold readLine?
  rcases h with rfl | rfl
  · rw [hread]
    rfl
  · have hfeed : '\n' ∉ pendingLine tagPrefix base version ++ carriageOf carriage :=
      not_feed_pendingLine hp (fun hm => absurd (hbase _ hm) (by decide))
        (fun hm => absurd (hv.not_blank hm) (by decide)) carriage
    rw [read?_append hp hfeed (Or.inr ⟨[], rfl⟩), hread]
    rfl

end CompareLink

open CompareLink

/-! ## The link of a changelog -/

/-- The compare link of a changelog. -/
def link? (c : Changelog) : Option CompareLink :=
  (CompareLink.locate c.tagPrefix.toList true c.text.toList).map fun found => found.2.1

/-- Where a changelog holds its link: no line above can be read as one. -/
structure Held (tagPrefix : List Char) (link : CompareLink) (above : List (List Char))
    (line : List Char) : Prop where
  above : ∀ l ∈ above, readLine? tagPrefix l = none
  line : readLine? tagPrefix line = some link

theorem link?_of_held (hp : '\n' ∉ c.tagPrefix.toList) (h : Held c.tagPrefix.toList link above line)
    (hc : keptLines c.text.toList = above ++ line :: below) : c.link? = some link := by
  have hcut := wellCut_keptLines c.text.toList
  rw [hc] at hcut
  obtain ⟨raw, tail, hraw, rfl, htail⟩ := exists_raw hcut.of_append
  unfold link?
  rw [← flatten_keptLines c.text.toList, hc, locate_of_reads hp hraw htail hcut h.above h.line]
  rfl

theorem link?_of_unread (hp : '\n' ∉ c.tagPrefix.toList)
    (h : ∀ l ∈ keptLines c.text.toList, readLine? c.tagPrefix.toList l = none) :
    c.link? = none := by
  unfold link?
  rw [← flatten_keptLines c.text.toList, locate_eq_none hp (wellCut_keptLines _) h]
  rfl

/-- **The link of a changelog** is the one of the first line that holds one. -/
theorem link?_cases (hp : '\n' ∉ c.tagPrefix.toList) :
    (c.link? = none ∧ ∀ l ∈ keptLines c.text.toList, readLine? c.tagPrefix.toList l = none) ∨
      ∃ link above line below, c.link? = some link ∧ Held c.tagPrefix.toList link above line ∧
        keptLines c.text.toList = above ++ line :: below := by
  cases hfound : (keptLines c.text.toList).findSome? (readLine? c.tagPrefix.toList) with
  | none =>
    have hunread := List.findSome?_eq_none_iff.mp hfound
    exact Or.inl ⟨link?_of_unread hp hunread, hunread⟩
  | some link =>
    obtain ⟨above, line, below, hc, hline, habove⟩ := List.findSome?_eq_some_iff.mp hfound
    have hheld : Held c.tagPrefix.toList link above line := ⟨habove, hline⟩
    exact Or.inr ⟨link, above, line, below, link?_of_held hp hheld hc, hheld, hc⟩

/-! ## What opening a section leaves -/

theorem isLinkDefinition_of_heading (h : headingLabel? line = some label) :
    isLinkDefinition line = false := by
  cases hlink : isLinkDefinition line with
  | false => rfl
  | true => exact absurd (h.symm.trans (headingLabel?_eq_none_of_link hlink)) (by simp)

theorem isLinkDefinition_of_inside (h : endsSection line = false) :
    isLinkDefinition line = false := by
  unfold endsSection at h
  exact (Bool.or_eq_false_iff.mp h).2

/-- The link definitions stay as they are. -/
theorem Opened.filter_links (h : Opened label lines opened) :
    opened.filter isLinkDefinition = lines.filter isLinkDefinition := by
  obtain ⟨above, below, blank, -, hold, hnew, hblank, -, hreleased⟩ := h
  have hnone : blank.filter isLinkDefinition = [] := by
    refine List.filter_eq_nil_iff.mpr fun line hm => ?_
    simp [isLinkDefinition_of_inside (hblank line hm)]
  simp only [List.filter_append, List.filter_cons, isLinkDefinition_of_heading hold,
    isLinkDefinition_of_heading hnew, isLinkDefinition_of_heading hreleased, hnone,
    Bool.false_eq_true, if_false, List.nil_append]

/-- Lines among which there is no heading stay together, and no link definition comes above them. -/
theorem Opened.exists_around (h : Opened label (above ++ (block ++ below)) opened)
    (hblock : ∀ line ∈ block, headingLabel? line = none) :
    ∃ above' below', opened = above' ++ (block ++ below') ∧
      ∀ line ∈ above', line ∈ above ∨ isLinkDefinition line = false := by
  generalize hlines : above ++ (block ++ below) = lines at h
  cases h with
  | @intro front back blank old new released _ hold hnew hblank _ hreleased =>
    have hold' : old ∉ block := fun hm => by simp [hblock old hm] at hold
    rcases append_cons_cases hlines.symm hold' with ⟨m, rfl, rfl⟩ | ⟨m, rfl, rfl⟩
    · refine ⟨front ++ new :: (blank ++ released :: m), below, by simp, fun line hline => ?_⟩
      simp only [List.mem_append, List.mem_cons] at hline ⊢
      rcases hline with hfront | rfl | hinside | rfl | hm
      · exact Or.inl (Or.inl hfront)
      · exact Or.inr (isLinkDefinition_of_heading hnew)
      · exact Or.inr (isLinkDefinition_of_inside (hblank line hinside))
      · exact Or.inr (isLinkDefinition_of_heading hreleased)
      · exact Or.inl (Or.inr (Or.inr hm))
    · exact ⟨above, m ++ new :: (blank ++ released :: back), by simp,
        fun line hline => Or.inl hline⟩

/-- A link is held by the same line, together with the lines right below it. -/
theorem Held.of_opened {tail : List (List Char)} (hp : '\n' ∉ tagPrefix)
    (h : Held tagPrefix link above line)
    (hopened : Opened label (above ++ (line :: tail ++ below)) opened)
    (htail : ∀ l ∈ tail, headingLabel? l = none) :
    ∃ above' below', opened = above' ++ (line :: tail ++ below') ∧
      Held tagPrefix link above' line := by
  have hblock : ∀ l ∈ line :: tail, headingLabel? l = none := by
    intro l hm
    rcases List.mem_cons.mp hm with rfl | hm
    · exact headingLabel?_eq_none_of_link (isLinkDefinition_of_readLine? hp h.line)
    · exact htail l hm
  obtain ⟨above', below', rfl, habove'⟩ := hopened.exists_around hblock
  refine ⟨above', below', rfl, fun l hm => ?_, h.line⟩
  rcases habove' l hm with hm | hno
  · exact h.above l hm
  · exact readLine?_eq_none hp hno

/-- Where no line holds a link, none does after the pending section was opened. -/
theorem unread_of_opened (hp : '\n' ∉ c.tagPrefix.toList) (hlink : c.link? = none)
    (hopened : Opened label (keptLines c.text.toList) opened) :
    ∀ l ∈ opened, readLine? c.tagPrefix.toList l = none := by
  rcases link?_cases hp with ⟨-, hunread⟩ | ⟨link, above, line, below, hsome, -⟩
  · intro l hm
    by_cases hl : isLinkDefinition l = true
    · have hkept : l ∈ opened.filter isLinkDefinition := List.mem_filter.mpr ⟨hm, hl⟩
      rw [hopened.filter_links] at hkept
      exact hunread l (List.mem_filter.mp hkept).1
    · exact readLine?_eq_none hp (Bool.not_eq_true _ ▸ hl)
  · rw [hlink] at hsome
    exact absurd hsome (by simp)

/-! ## The chain -/

/-- The last released version, or the one that a link starts from. -/
def newest (previous : List Char) : List Version → List Char
  | [] => previous
  | v :: _ => v.text.toList

/-- The links of released versions: each one starts where the one below it ends. -/
def releasedLines (tagPrefix base previous : List Char) : List Version → List (List Char)
  | [] => []
  | v :: vs =>
    releasedLine tagPrefix base (newest previous vs) v.text.toList ::
      releasedLines tagPrefix base previous vs

/-- The chain of links after releases: the one of the pending section, and those of the versions. -/
def chain (tagPrefix : List Char) (link : CompareLink) (vs : List Version) : List (List Char) :=
  pendingLine tagPrefix link.base (newest link.previous vs) ::
    releasedLines tagPrefix link.base link.previous vs

/-- A link after releases: it starts from the last one. -/
def CompareLink.after (link : CompareLink) (vs : List Version) : CompareLink :=
  { link with previous := newest link.previous vs }

/-- The link stands above those of the versions that were released since; once there is one, its
line was written by a release. -/
structure Anchored (tagPrefix : List Char) (link : CompareLink) (vs : List Version)
    (above : List (List Char)) (head : List Char) (tail : List (List Char)) : Prop where
  held : Held tagPrefix (link.after vs) above head
  written : vs ≠ [] →
    Ended link.carriage (pendingLine tagPrefix link.base (newest link.previous vs)) head
  tail : List.Forall₂ (Ended link.carriage)
    (releasedLines tagPrefix link.base link.previous vs) tail

theorem headingLabel?_of_ended {base label start stop : List Char}
    (h : Ended carriage (compareLine tagPrefix base label start stop) line) :
    headingLabel? line = none := by
  rcases h with rfl | rfl
  · rfl
  · rfl

theorem headingLabel?_of_released {base previous : List Char}
    (h : List.Forall₂ (Ended carriage) (releasedLines tagPrefix base previous vs) block) :
    ∀ line ∈ block, headingLabel? line = none := by
  induction vs generalizing block with
  | nil =>
    cases h
    exact fun line hm => absurd hm List.not_mem_nil
  | cons v vs ih =>
    cases h with
    | cons hfirst hrest =>
      intro line hm
      rcases List.mem_cons.mp hm with rfl | hm
      · exact headingLabel?_of_ended hfirst
      · exact ih hrest line hm

theorem numeric_text (v : Version) : Numeric v.text.toList :=
  fun _ hc => Version.isDigit_or_of_mem_text hc

/-! ## Links over any releases -/

section

variable [Regex.SizeLimit]

/-- **A promotion extends the chain** by the link of its version. -/
theorem Anchored.promote {tail : List (List Char)} (hp : '\n' ∉ c.tagPrefix.toList)
    (h : Anchored c.tagPrefix.toList link vs above line tail)
    (hc : keptLines c.text.toList = above ++ (line :: tail ++ below))
    (hok : c.promote v date = .ok t) :
    ∃ above' line' tail' below', Anchored c.tagPrefix.toList link (v :: vs) above' line' tail' ∧
      keptLines t.toList = above' ++ (line' :: tail' ++ below') := by
  obtain ⟨-, opened, hopened, hcut, ht⟩ := exists_opened hok
  rw [hc] at hopened
  obtain ⟨above', below', rfl, hheld⟩ :=
    h.held.of_opened hp hopened (headingLabel?_of_released h.tail)
  rw [List.cons_append] at hcut ht
  have hfeed : '\n' ∉ v.text.toList := v.not_mem_text (by decide) (by decide)
  obtain ⟨line₁, line₂, h₁, h₂, hlines⟩ := advance_of_reads hp hfeed hcut hheld.above hheld.line
  obtain ⟨hne, hbase⟩ := base_of_readLine? h.held.line
  have hread : readLine? c.tagPrefix.toList line₁ = some (link.after (v :: vs)) :=
    readLine?_of_ended hp hne hbase (numeric_text v) v.text_ne_nil h₁
  refine ⟨above', line₁, line₂ :: tail, below', ⟨⟨hheld.above, hread⟩, fun _ => h₁, ?_⟩, ?_⟩
  · exact List.Forall₂.cons h₂ h.tail
  · rw [ht, hlines]
    rfl

/-- After releases, the chain starts where the link was. -/
theorem Promoted.anchored (hp : '\n' ∉ c.tagPrefix.toList) (h : Promoted c vs c')
    (hc : Held c.tagPrefix.toList link above line)
    (hlines : keptLines c.text.toList = above ++ line :: below) :
    ∃ above' line' tail' below', Anchored c.tagPrefix.toList link vs above' line' tail' ∧
      keptLines c'.text.toList = above' ++ (line' :: tail' ++ below') := by
  induction h with
  | none => exact ⟨above, line, [], below, ⟨hc, fun hn => absurd rfl hn, .nil⟩, hlines⟩
  | more h hok ih =>
    obtain ⟨above', line', tail', below', hanchored, hlines'⟩ := ih
    rw [← h.tagPrefix_eq] at hp hanchored ⊢
    exact hanchored.promote hp hlines' hok

/-- What releases make of a compare link. -/
structure Chained (c' : Changelog) (link : CompareLink) (vs : List Version) : Prop where
  /-- It is found again, with the same base, and starts from the last version. -/
  again : c'.link? = some (link.after vs)
  /-- The lines of the chain follow each other. -/
  lines : ∃ above block below, keptLines c'.text.toList = above ++ (block ++ below) ∧
    List.Forall₂ (Ended link.carriage) (chain c'.tagPrefix.toList link vs) block

theorem Promoted.chained (hp : '\n' ∉ c.tagPrefix.toList) (h : Promoted c vs c')
    (hlink : c.link? = some link) (hne : vs ≠ []) : Chained c' link vs := by
  rcases link?_cases hp with ⟨hnone, -⟩ | ⟨link', above, line, below, hsome, hheld, hlines⟩
  · rw [hlink] at hnone
    exact absurd hnone (by simp)
  · obtain rfl : link' = link := Option.some.inj (hsome.symm.trans hlink)
    obtain ⟨above', line', tail', below', hanchored, hlines'⟩ := h.anchored hp hheld hlines
    rw [← h.tagPrefix_eq] at hp hanchored
    exact ⟨link?_of_held hp hanchored.held hlines', above', line' :: tail', below', hlines',
      .cons (hanchored.written hne) hanchored.tail⟩

/-! ## Without a link -/

/-- The link definitions of a changelog. -/
def linkLines (c : Changelog) : List (List Char) :=
  (keptLines c.text.toList).filter isLinkDefinition

/-- A changelog without a link gets none. -/
theorem linkLines_of_promote (hp : '\n' ∉ c.tagPrefix.toList) (hlink : c.link? = none)
    (hok : c.promote v date = .ok t) :
    (Changelog.mk t c.tagPrefix).link? = none ∧
      (Changelog.mk t c.tagPrefix).linkLines = c.linkLines := by
  obtain ⟨-, opened, hopened, hcut, ht⟩ := exists_opened hok
  have hunread := unread_of_opened hp hlink hopened
  rw [advance_of_unread hp hcut hunread] at ht
  have hlines : keptLines t.toList = opened := by rw [ht, keptLines_flatten hcut]
  refine ⟨link?_of_unread hp ?_, ?_⟩
  · show ∀ l ∈ keptLines t.toList, _
    rwa [hlines]
  · show (keptLines t.toList).filter isLinkDefinition = _
    rw [hlines, hopened.filter_links]
    rfl

theorem linkLines_of_promoted (hp : '\n' ∉ c.tagPrefix.toList) (h : Promoted c vs c')
    (hlink : c.link? = none) : c'.link? = none ∧ c'.linkLines = c.linkLines := by
  induction h with
  | none => exact ⟨hlink, rfl⟩
  | more h hok ih =>
    rw [← h.tagPrefix_eq] at hp
    obtain ⟨hnone, hlines⟩ := linkLines_of_promote hp ih.1 hok
    exact ⟨hnone, hlines.trans ih.2⟩

/-- **Compare links form a chain.** After any releases, the link of the pending section starts from
the last version, and below it each link compares a version with the one before; the last one starts
where the first link did. All of them have its base. A changelog without such a link gets no link at
all. -/
theorem promote_chains (hp : '\n' ∉ c.tagPrefix.toList) :
    (∀ link vs c', c.link? = some link → vs ≠ [] → Promoted c vs c' → Chained c' link vs) ∧
      ∀ vs c', c.link? = none → Promoted c vs c' → c'.link? = none ∧ c'.linkLines = c.linkLines :=
  ⟨fun _ _ _ hlink hne h => h.chained hp hlink hne,
    fun _ _ hlink h => linkLines_of_promoted hp h hlink⟩

end

theorem link?_tiny : tiny.link? = some ⟨"u".toList, "0.3.1".toList, false⟩ := by decide +kernel

theorem promote_chains_tiny :
    '\n' ∉ tiny.tagPrefix.toList ∧ tiny.link? = some ⟨"u".toList, "0.3.1".toList, false⟩ ∧
      chain "v".toList ⟨"u".toList, "0.3.1".toList, false⟩ [⟨0, 5, 0⟩, ⟨0, 4, 0⟩] =
        ["[Unreleased]: u/compare/v0.5.0...HEAD".toList,
          "[0.5.0]: u/compare/v0.4.0...v0.5.0".toList,
          "[0.4.0]: u/compare/v0.3.1...v0.4.0".toList] ∧
      ∃ c', Promoted tiny [⟨0, 5, 0⟩, ⟨0, 4, 0⟩] c' ∧
        Chained c' ⟨"u".toList, "0.3.1".toList, false⟩ [⟨0, 5, 0⟩, ⟨0, 4, 0⟩] := by
  have hp : '\n' ∉ tiny.tagPrefix.toList := by decide
  obtain ⟨c', hc'⟩ := exists_promoted_tiny
  exact ⟨hp, link?_tiny, by decide +kernel, c', hc',
    (promote_chains hp).1 _ _ c' link?_tiny (by simp) hc'⟩

end Slipway.Changelog
