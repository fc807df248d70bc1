import Slipway.Proofs.Changelog.Link

/-!
# Reading compare links line by line

About `ChangelogLedger::rewrite_links` (`keel_core::changelog`). A compare link is read from its
line alone (`read?_append`), so looking for one in a text is looking at its lines in their order
(`readLine?`): the first line that can be read as one holds it (`locate_of_reads`), and there is
none if no line can (`locate_eq_none`). Pointing the link to a version puts two lines in the place
of that line (`advance_of_reads`).
-/

namespace Slipway.Changelog.CompareLink

open Text

variable {path run start raw more text tagPrefix version line : List Char}
variable {lines above below : List (List Char)} {link : CompareLink} {begins : Bool}

/-! ## Readers stop at the end of a line -/

theorem after?_line (hs : '\n' ∉ start) (hmore : AtLineEnd more) (raw : List Char) :
    after? start (raw ++ more) = (after? start raw).map (· ++ more) := by
  induction start generalizing raw with
  | nil => rfl
  | cons s start ih =>
    rw [List.mem_cons, not_or] at hs
    cases raw with
    | nil =>
      rcases hmore with rfl | ⟨more, rfl⟩
      · rfl
      · exact if_neg (Ne.symm hs.1)
    | cons c raw =>
      by_cases hc : s = c
      · simp only [List.cons_append, after?, if_pos hc, ih hs.2]
      · simp only [List.cons_append, after?, if_neg hc, Option.map_none]

theorem dropWhile_isGap_line (hmore : AtLineEnd more) (raw : List Char) :
    (raw ++ more).dropWhile isGap = raw.dropWhile isGap ++ more := by
  have hstop : more.dropWhile isGap = more := by
    rcases hmore with rfl | ⟨more, rfl⟩
    · rfl
    · exact List.dropWhile_cons_of_neg (by decide)
  rw [List.dropWhile_append]
  split
  · rename_i hempty
    rw [List.isEmpty_iff.mp hempty, hstop]
    rfl
  · rfl

theorem guard_line (hraw : '\n' ∉ raw) (hmore : AtLineEnd more) :
    (raw ++ more = [] ∨ (raw ++ more).head? = some '\n') ↔ (raw = [] ∨ raw.head? = some '\n') := by
  cases raw with
  | nil =>
    rcases hmore with rfl | ⟨more, rfl⟩
    · simp
    · simp
  | cons c raw => simp

theorem lineEnd?_line (hraw : '\n' ∉ raw) (hmore : AtLineEnd more) :
    lineEnd? (raw ++ more) =
      (lineEnd? raw).map fun (carriage, rest) => (carriage, rest ++ more) := by
  have hleft : '\n' ∉ raw.dropWhile isGap := fun h => hraw ((List.dropWhile_suffix _).mem h)
  unfold lineEnd?
  rw [dropWhile_isGap_line hmore]
  generalize raw.dropWhile isGap = left at hleft
  cases left with
  | nil =>
    rcases hmore with rfl | ⟨more, rfl⟩
    · rfl
    · rfl
  | cons c left =>
    have hleft' : '\n' ∉ left := fun h => hleft (List.mem_cons_of_mem c h)
    by_cases hc : c = '\r'
    · subst hc
      simp only [List.cons_append, guard_line hleft' hmore]
      split
      · rfl
      · rfl
    · have hfeed : c ≠ '\n' := fun h => hleft (h ▸ List.mem_cons_self)
      simp [hc, hfeed]

/-- What a reader leaves of a line has no line feed either. -/
theorem not_feed_of_after? {rest : List Char} (hraw : '\n' ∉ raw)
    (h : after? start raw = some rest) : '\n' ∉ rest := by
  rw [eq_append_of_after? h] at hraw
  exact fun hm => hraw (List.mem_append_right _ hm)

theorem bind_lineEnd?_line (hs : '\n' ∉ start) (hraw : '\n' ∉ raw) (hmore : AtLineEnd more) :
    (after? start (raw ++ more)).bind lineEnd? =
      ((after? start raw).bind lineEnd?).map fun (carriage, rest) => (carriage, rest ++ more) := by
  rw [after?_line hs hmore]
  cases hmid : after? start raw with
  | none => rfl
  | some mid => exact lineEnd?_line (not_feed_of_after? hraw hmid) hmore

theorem previous?_line (hraw : '\n' ∉ raw) (hmore : AtLineEnd more) (run : List Char) :
    previous? run (raw ++ more) =
      (previous? run raw).map fun (previous, carriage, rest) =>
        (previous, carriage, rest ++ more) := by
  induction raw generalizing run with
  | nil =>
    rcases hmore with rfl | ⟨more, rfl⟩
    · rfl
    · exact if_pos (by decide)
  | cons c raw ih =>
    rw [List.mem_cons, not_or] at hraw
    rw [List.cons_append]
    unfold previous?
    by_cases hc : isBlank c = true
    · rw [if_pos hc, if_pos hc]
      rfl
    · rw [if_neg hc, if_neg hc, bind_lineEnd?_line (by decide) hraw.2 hmore]
      cases (after? "...HEAD".toList raw).bind lineEnd? with
      | none => exact ih hraw.2 _
      | some found => rfl

theorem base?_line (hp : '\n' ∉ path) (hraw : '\n' ∉ raw) (hmore : AtLineEnd more)
    (run : List Char) : base? path run (raw ++ more) =
      (base? path run raw).map fun (link, rest) => (link, rest ++ more) := by
  induction raw generalizing run with
  | nil =>
    rcases hmore with rfl | ⟨more, rfl⟩
    · rfl
    · exact if_pos (by decide)
  | cons c raw ih =>
    rw [List.mem_cons, not_or] at hraw
    rw [List.cons_append]
    unfold base?
    by_cases hc : isBlank c = true
    · rw [if_pos hc, if_pos hc]
      rfl
    · rw [if_neg hc, if_neg hc, ih hraw.2]
      cases base? path (c :: run) raw with
      | some found => rfl
      | none =>
        rw [after?_line hp hmore]
        cases hmid : after? path raw with
        | none => rfl
        | some mid =>
          have hprev := previous?_line (not_feed_of_after? hraw.2 hmid) hmore []
          simp only [Option.map_none, Option.map_some, bind, Option.bind_some, hprev]
          cases previous? [] mid with
          | none => rfl
          | some found => rfl

/-- **A compare link is read from its line**, whatever follows the line. -/
theorem read?_append (hp : '\n' ∉ tagPrefix) (hraw : '\n' ∉ raw) (hmore : AtLineEnd more) :
    read? tagPrefix (raw ++ more) =
      (read? tagPrefix raw).map fun (link, rest) => (link, rest ++ more) := by
  unfold read?
  rw [after?_line (by decide) hmore]
  cases hmid : after? s!"[{pendingLabel}]:".toList raw with
  | none => rfl
  | some mid =>
    have hrest : '\n' ∉ mid.dropWhile isGap := fun h =>
      not_feed_of_after? hraw hmid ((List.dropWhile_suffix _).mem h)
    show base? _ [] ((mid ++ more).dropWhile isGap) = _
    rw [dropWhile_isGap_line hmore, base?_line (not_mem_comparePath hp) hrest hmore]
    rfl

/-- Nothing of the line is left. -/
theorem left_of_read? {left : List Char} (hp : '\n' ∉ tagPrefix) (hraw : '\n' ∉ raw)
    (h : read? tagPrefix raw = some (link, left)) : left = [] := by
  obtain ⟨_, rfl, hon, -⟩ := exists_of_read? hp h
  rcases hon.atEnd with rfl | ⟨more, rfl⟩
  · rfl
  · exact absurd (List.mem_append_right _ List.mem_cons_self) hraw

/-! ## Looking at the lines -/

/-- The compare link that a line holds. -/
def readLine? (tagPrefix line : List Char) : Option CompareLink :=
  (read? tagPrefix line).map Prod.fst

theorem isLinkDefinition_of_readLine? (hp : '\n' ∉ tagPrefix)
    (h : readLine? tagPrefix line = some link) : isLinkDefinition line = true := by
  obtain ⟨⟨link', rest⟩, hread, -⟩ := Option.map_eq_some_iff.mp h
  obtain ⟨raw, rfl, -⟩ := exists_of_read? hp hread
  rw [definition_append]
  exact isLinkDefinition_definition (by decide) (by decide) _

theorem not_feed_of_readLine? (hp : '\n' ∉ tagPrefix) (h : readLine? tagPrefix line = some link) :
    '\n' ∉ link.base ∧ '\n' ∉ link.previous := by
  obtain ⟨⟨link', rest⟩, hread, rfl⟩ := Option.map_eq_some_iff.mp h
  obtain ⟨raw, -, hon, -⟩ := exists_of_read? hp hread
  exact ⟨hon.base, hon.previous⟩

/-- A line that is no link definition holds no compare link. -/
theorem readLine?_eq_none (hp : '\n' ∉ tagPrefix) (h : isLinkDefinition line = false) :
    readLine? tagPrefix line = none := by
  cases hread : readLine? tagPrefix line with
  | none => rfl
  | some link =>
    rw [isLinkDefinition_of_readLine? hp hread] at h
    exact absurd h (by decide)

/-- A line that was cut is its text and its line feed, or the last line of a text. -/
theorem exists_raw {lines : List (List Char)} (h : WellCut (line :: lines)) :
    ∃ raw tail, '\n' ∉ raw ∧ line = raw ++ tail ∧
      (tail = ['\n'] ∨ tail = [] ∧ raw ≠ [] ∧ lines = []) := by
  have hline : Terminated line ∨ (line ≠ [] ∧ '\n' ∉ line ∧ lines = []) := by
    cases lines with
    | nil => exact h.imp_right fun h => ⟨h.1, h.2, rfl⟩
    | cons next lines => exact Or.inl h.1
  rcases hline with ⟨raw, hraw, rfl⟩ | ⟨hne, hraw, rfl⟩
  · exact ⟨raw, ['\n'], hraw, rfl, Or.inl rfl⟩
  · exact ⟨line, [], hraw, (List.append_nil line).symm, Or.inr ⟨rfl, hne, rfl⟩⟩

theorem atLineEnd_tail {tail : List Char} (h : tail = ['\n'] ∨ tail = [] ∧ raw ≠ [] ∧ lines = []) :
    AtLineEnd tail := by
  rcases h with rfl | ⟨rfl, -⟩
  · exact Or.inr ⟨[], rfl⟩
  · exact Or.inl rfl

theorem atLineEnd_append {tail : List Char}
    (h : tail = ['\n'] ∨ tail = [] ∧ raw ≠ [] ∧ lines = []) :
    AtLineEnd (tail ++ lines.flatten) := by
  rcases h with rfl | ⟨rfl, -, rfl⟩
  · exact Or.inr ⟨_, rfl⟩
  · exact Or.inl rfl

/-- The first line of a text is read like the text. -/
theorem read?_flatten (hp : '\n' ∉ tagPrefix) (h : WellCut (line :: lines)) :
    (read? tagPrefix (line :: lines).flatten).map Prod.fst = readLine? tagPrefix line := by
  obtain ⟨raw, tail, hraw, rfl, htail⟩ := exists_raw h
  unfold readLine?
  rw [List.flatten_cons, List.append_assoc, read?_append hp hraw (atLineEnd_append htail),
    read?_append hp hraw (atLineEnd_tail htail), Option.map_map, Option.map_map]
  rfl

theorem locate_of_read? {rest : List Char} (h : read? tagPrefix text = some (link, rest)) :
    locate tagPrefix true text = some ([], link, rest) := by
  cases text with
  | nil => exact absurd h.symm (Option.some_ne_none _)
  | cons c text => rw [locate, if_pos rfl, h]

theorem locate_of_not_read? {c : Char} (h : begins = true → read? tagPrefix (c :: text) = none) :
    locate tagPrefix begins (c :: text) =
      (locate tagPrefix (c == '\n') text).map fun (before, link, rest) =>
        (c :: before, link, rest) := by
  have hnone : (if begins = true then read? tagPrefix (c :: text) else none) = none := by
    split
    · exact h ‹_›
    · rfl
  rw [locate, hnone]

/-- Where no link starts, the next line is looked at. -/
theorem locate_line (hraw : '\n' ∉ raw)
    (h : begins = true → read? tagPrefix (raw ++ '\n' :: more) = none) :
    locate tagPrefix begins (raw ++ '\n' :: more) =
      (locate tagPrefix true more).map fun (before, link, rest) =>
        (raw ++ '\n' :: before, link, rest) := by
  induction raw generalizing begins with
  | nil =>
    rw [List.nil_append, locate_of_not_read? h]
    rfl
  | cons c raw ih =>
    rw [List.mem_cons, not_or] at hraw
    have hinside : (c == '\n') = false := by simpa using Ne.symm hraw.1
    rw [List.cons_append] at h ⊢
    rw [locate_of_not_read? h, hinside, ih hraw.2 (by simp), Option.map_map]
    rfl

theorem locate_last (hraw : '\n' ∉ raw) (h : begins = true → read? tagPrefix raw = none) :
    locate tagPrefix begins raw = none := by
  induction raw generalizing begins with
  | nil => rfl
  | cons c raw ih =>
    rw [List.mem_cons, not_or] at hraw
    have hinside : (c == '\n') = false := by simpa using Ne.symm hraw.1
    rw [locate_of_not_read? h, hinside, ih hraw.2 (by simp)]
    rfl

/-- A first line without a link is passed over. -/
theorem locate_cons (hp : '\n' ∉ tagPrefix) (h : WellCut (line :: lines))
    (hline : readLine? tagPrefix line = none) :
    locate tagPrefix true (line :: lines).flatten =
      (locate tagPrefix true lines.flatten).map fun (before, link, rest) =>
        (line ++ before, link, rest) := by
  have hnone : read? tagPrefix (line :: lines).flatten = none :=
    Option.map_eq_none_iff.mp ((read?_flatten hp h).trans hline)
  obtain ⟨raw, tail, hraw, rfl, rfl | ⟨rfl, -, rfl⟩⟩ := exists_raw h
  · rw [List.flatten_cons, List.append_assoc] at hnone ⊢
    rw [List.singleton_append] at hnone ⊢
    rw [locate_line hraw fun _ => hnone]
    simp only [List.append_assoc, List.singleton_append]
  · simp only [List.append_nil, List.flatten_cons, List.flatten_nil] at hnone ⊢
    rw [locate_last hraw fun _ => hnone]
    rfl

/-- **There is no link** in a text if no line holds one. -/
theorem locate_eq_none (hp : '\n' ∉ tagPrefix) (h : WellCut lines)
    (hnone : ∀ line ∈ lines, readLine? tagPrefix line = none) :
    locate tagPrefix true lines.flatten = none := by
  induction lines with
  | nil => rfl
  | cons line lines ih =>
    rw [locate_cons hp h (hnone line List.mem_cons_self),
      ih h.tail fun l hl => hnone l (List.mem_cons_of_mem line hl)]
    rfl

/-- **The first line that holds a link** is the one that is found. -/
theorem locate_of_reads {tail : List Char} (hp : '\n' ∉ tagPrefix) (hraw : '\n' ∉ raw)
    (htail : tail = ['\n'] ∨ tail = [] ∧ raw ≠ [] ∧ below = [])
    (h : WellCut (above ++ (raw ++ tail) :: below))
    (habove : ∀ l ∈ above, readLine? tagPrefix l = none)
    (hline : readLine? tagPrefix (raw ++ tail) = some link) :
    locate tagPrefix true (above ++ (raw ++ tail) :: below).flatten =
      some (above.flatten, link, tail ++ below.flatten) := by
  induction above with
  | nil =>
    have hfirst := (read?_flatten hp h).trans hline
    obtain ⟨⟨link', rest⟩, hread, rfl⟩ := Option.map_eq_some_iff.mp hfirst
    have hrest : rest = tail ++ below.flatten := by
      have happend := read?_append hp hraw (atLineEnd_append htail)
      rw [List.flatten_cons, List.append_assoc, happend] at hread
      obtain ⟨⟨link'', left⟩, hleft, hout⟩ := Option.map_eq_some_iff.mp hread
      rw [← (Prod.mk.inj hout).2, left_of_read? hp hraw hleft]
      rfl
    rw [List.nil_append, locate_of_read? hread, hrest]
    rfl
  | cons first above ih =>
    have hrest := ih h.tail fun l hl => habove l (List.mem_cons_of_mem first hl)
    rw [List.cons_append] at h ⊢
    rw [locate_cons hp h (habove first List.mem_cons_self), hrest]
    rfl

/-! ## The lines that take the place of a link -/

/-- The text of a link that compares two tags. -/
def compareLine (tagPrefix base label start stop : List Char) : List Char :=
  '[' :: label ++ "]: ".toList ++ base ++ comparePath tagPrefix ++ start ++ "...".toList ++ stop

/-- The text of the link of the pending section. -/
def pendingLine (tagPrefix base version : List Char) : List Char :=
  compareLine tagPrefix base pendingLabel.toList version "HEAD".toList

/-- The text of the link of a released version. -/
def releasedLine (tagPrefix base previous version : List Char) : List Char :=
  compareLine tagPrefix base version previous (tagPrefix ++ version)

/-- A line of a given text: its end has a carriage return or none, and only a last line may lack its
line feed. -/
def Ended (carriage : Bool) (text line : List Char) : Prop :=
  line = text ++ carriageOf carriage ∨ line = text ++ carriageOf carriage ++ ['\n']

theorem not_feed_carriageOf (carriage : Bool) : '\n' ∉ carriageOf carriage := by
  cases carriage <;> decide

theorem not_feed_compareLine {base label stop : List Char} (hp : '\n' ∉ tagPrefix)
    (hb : '\n' ∉ base) (hl : '\n' ∉ label) (hstart : '\n' ∉ start) (hstop : '\n' ∉ stop) :
    '\n' ∉ compareLine tagPrefix base label start stop := by
  have hpath := not_mem_comparePath hp
  simp only [compareLine, List.mem_append, List.mem_cons, not_or]
  exact ⟨⟨⟨⟨⟨⟨⟨by decide, hl⟩, by decide⟩, hb⟩, hpath⟩, hstart⟩, by decide⟩, hstop⟩

theorem not_feed_pendingLine {base : List Char} (hp : '\n' ∉ tagPrefix) (hb : '\n' ∉ base)
    (hv : '\n' ∉ version) (carriage : Bool) :
    '\n' ∉ pendingLine tagPrefix base version ++ carriageOf carriage := by
  rw [List.mem_append, not_or]
  exact ⟨not_feed_compareLine hp hb (by decide) hv (by decide), not_feed_carriageOf carriage⟩

theorem not_feed_releasedLine {base previous : List Char} (hp : '\n' ∉ tagPrefix)
    (hb : '\n' ∉ base) (hprevious : '\n' ∉ previous) (hv : '\n' ∉ version) (carriage : Bool) :
    '\n' ∉ releasedLine tagPrefix base previous version ++ carriageOf carriage := by
  have hstop : '\n' ∉ tagPrefix ++ version := by
    rw [List.mem_append, not_or]
    exact ⟨hp, hv⟩
  rw [List.mem_append, not_or]
  exact ⟨not_feed_compareLine hp hb hv hprevious hstop, not_feed_carriageOf carriage⟩

/-- A line may get another text, if it keeps its end. -/
theorem wellCut_of_tail {text tail : List Char}
    (htail : tail = ['\n'] ∨ tail = [] ∧ raw ≠ [] ∧ below = [])
    (h : WellCut ((raw ++ tail) :: below)) (hne : text ≠ []) (htext : '\n' ∉ text) :
    WellCut ((text ++ tail) :: below) := by
  rcases htail with rfl | ⟨rfl, -, rfl⟩
  · exact h.tail.cons (terminated_append_feed htext)
  · rw [List.append_nil]
    exact Or.inr ⟨hne, htext⟩

theorem ended_of_tail {text tail : List Char}
    (htail : tail = ['\n'] ∨ tail = [] ∧ raw ≠ [] ∧ below = []) (carriage : Bool) :
    Ended carriage text (text ++ carriageOf carriage ++ tail) := by
  rcases htail with rfl | ⟨rfl, -, -⟩
  · exact Or.inr rfl
  · exact Or.inl (List.append_nil _)

theorem advanced_eq (link : CompareLink) (tagPrefix version : List Char) :
    link.advanced tagPrefix version =
      pendingLine tagPrefix link.base version ++ carriageOf link.carriage ++ '\n' ::
        (releasedLine tagPrefix link.base link.previous version ++ carriageOf link.carriage) :=
  rfl

/-- **Pointing the compare link to a version** puts two lines in the place of the line that holds
it: the link of the pending section, and the one of the version. -/
theorem advance_of_reads (hp : '\n' ∉ tagPrefix) (hv : '\n' ∉ version)
    (h : WellCut (above ++ line :: below)) (habove : ∀ l ∈ above, readLine? tagPrefix l = none)
    (hline : readLine? tagPrefix line = some link) :
    ∃ line₁ line₂, Ended link.carriage (pendingLine tagPrefix link.base version) line₁ ∧
      Ended link.carriage (releasedLine tagPrefix link.base link.previous version) line₂ ∧
      keptLines (advance tagPrefix version (above ++ line :: below).flatten) =
        above ++ line₁ :: line₂ :: below := by
  obtain ⟨raw, tail, hraw, rfl, htail⟩ := exists_raw h.of_append
  have hlocate := locate_of_reads hp hraw htail h habove hline
  obtain ⟨hbase, hprevious⟩ := not_feed_of_readLine? hp hline
  have hfirst := terminated_append_feed (not_feed_pendingLine hp hbase hv link.carriage)
  have hsecond := wellCut_of_tail htail h.of_append (by simp [releasedLine, compareLine])
    (not_feed_releasedLine hp hbase hprevious hv link.carriage)
  have hadvance : advance tagPrefix version (above ++ (raw ++ tail) :: below).flatten =
      above.flatten ++ link.advanced tagPrefix version ++ (tail ++ below.flatten) := by
    unfold advance
    rw [hlocate]
  refine ⟨_, _, Or.inr rfl, ended_of_tail htail link.carriage, ?_⟩
  rw [← keptLines_flatten ((hsecond.cons hfirst).append h.terminated), hadvance, advanced_eq]
  simp only [List.flatten_append, List.flatten_cons, List.append_assoc, List.cons_append,
    List.nil_append]

/-- Where no line holds a link, there is none to point to a version. -/
theorem advance_of_unread (hp : '\n' ∉ tagPrefix) (h : WellCut lines)
    (hnone : ∀ line ∈ lines, readLine? tagPrefix line = none) :
    advance tagPrefix version lines.flatten = lines.flatten := by
  unfold advance
  rw [locate_eq_none hp h hnone]

end Slipway.Changelog.CompareLink
