import Slipway.Changelog.Link
import Slipway.Changelog.Section
import Slipway.Proofs.Text.Lines

/-!
# What a compare link occupies

About `ChangelogLedger::rewrite_links` (`keel_core::changelog`). A compare link lies on one line
(`Within`), and that line is a link definition. Pointing it to a new version puts two link
definitions in its place and leaves all other lines as they are (`advance_lines`).
-/

namespace Slipway.Changelog

open Text

variable {line name path run start stop text before rest tagPrefix version : List Char}
variable {link : CompareLink} {begins carriage : Bool} {previous : List Char}

/-! ## Link definitions -/

theorem linkName?_append (h : ']' ∉ name) (rest : List Char) :
    linkName? (name ++ ']' :: ':' :: rest) = some name := by
  induction name with
  | nil => rfl
  | cons c name ih =>
    rw [List.mem_cons, not_or] at h
    rw [List.cons_append, linkName?, if_neg fun hc => h.1 hc.1.symm, ih h.2]
    rfl

/-- The text of a link definition. -/
def definition (name raw : List Char) : List Char := '[' :: (name ++ ']' :: ':' :: raw)

theorem isLinkDefinition_definition (ho : '[' ∉ name) (hc : ']' ∉ name) (raw : List Char) :
    isLinkDefinition (definition name raw) = true := by
  unfold isLinkDefinition definition
  simp only [linkName?_append hc]
  simpa using ⟨ho, hc⟩

theorem eq_append_of_linkName? (h : linkName? text = some name) :
    ∃ raw, text = name ++ ']' :: ':' :: raw := by
  induction text generalizing name with
  | nil => exact absurd h (by simp [linkName?])
  | cons c text ih =>
    unfold linkName? at h
    split at h
    · rename_i hc
      obtain ⟨raw, hraw⟩ := List.head?_eq_some_iff.mp hc.2
      exact ⟨raw, by rw [← Option.some.inj h, hc.1, hraw]; rfl⟩
    · obtain ⟨more, hmore, rfl⟩ := Option.map_eq_some_iff.mp h
      obtain ⟨raw, rfl⟩ := ih hmore
      exact ⟨raw, rfl⟩

/-- A line that defines a link: its name stands in brackets and holds none. -/
def IsDefinition (line : List Char) : Prop :=
  ∃ name raw, '[' ∉ name ∧ ']' ∉ name ∧ line = definition name raw

theorem isLinkDefinition_iff : isLinkDefinition line = true ↔ IsDefinition line := by
  constructor
  · intro h
    unfold isLinkDefinition at h
    split at h
    · rename_i rest
      split at h
      · rename_i name hname
        obtain ⟨raw, rfl⟩ := eq_append_of_linkName? hname
        simp only [Bool.and_eq_true, Bool.not_eq_true', List.contains_eq_mem,
          decide_eq_false_iff_not] at h
        exact ⟨name, raw, h.1, h.2, rfl⟩
      · exact absurd h (by decide)
    · exact absurd h (by decide)
  · rintro ⟨name, raw, ho, hc, rfl⟩
    exact isLinkDefinition_definition ho hc raw

theorem definition_append (name raw rest : List Char) :
    definition name raw ++ rest = definition name (raw ++ rest) := by
  simp [definition]

theorem not_mem_definition {raw : List Char} (hn : '\n' ∉ name) (hr : '\n' ∉ raw) :
    '\n' ∉ definition name raw := by
  simp [definition, hn, hr]

namespace CompareLink

/-! ## Reading a link -/

/-- What was read of a text, up to the rest of it, lies on one line. -/
def Within (text rest : List Char) : Prop := ∃ raw, '\n' ∉ raw ∧ text = raw ++ rest

theorem Within.trans {mid : List Char} (h : Within text mid) (h' : Within mid rest) :
    Within text rest := by
  obtain ⟨raw, hraw, rfl⟩ := h
  obtain ⟨more, hmore, rfl⟩ := h'
  exact ⟨raw ++ more, by simp [hraw, hmore], (List.append_assoc _ _ _).symm⟩

theorem within_gap (text : List Char) : Within text (text.dropWhile isGap) := by
  refine ⟨text.takeWhile isGap, fun hm => ?_, List.takeWhile_append_dropWhile.symm⟩
  exact absurd (List.all_eq_true.mp List.all_takeWhile _ hm) (by decide)

theorem atLineEnd_of_guard (h : rest = [] ∨ rest.head? = some '\n') : AtLineEnd rest := by
  rcases h with rfl | h
  · exact Or.inl rfl
  · exact Or.inr (List.head?_eq_some_iff.mp h)

/-- The end of a line that has a carriage return or none, before its line feed. -/
def carriageOf (carriage : Bool) : List Char := if carriage then ['\r'] else []

/-- What stands between a link and the end of its line. -/
theorem lineEnd?_eq_some (h : lineEnd? text = some (carriage, rest)) :
    text = text.takeWhile isGap ++ (carriageOf carriage ++ rest) ∧ AtLineEnd rest := by
  have hsplit := List.takeWhile_append_dropWhile (p := isGap) (l := text)
  unfold lineEnd? at h
  split at h
  · rename_i more hmore
    split at h
    · rename_i hguard
      obtain ⟨rfl, rfl⟩ := Prod.mk.inj (Option.some.inj h)
      rw [hmore] at hsplit
      exact ⟨hsplit.symm, atLineEnd_of_guard hguard⟩
    · exact absurd h (by simp)
  · split at h
    · rename_i hguard
      obtain ⟨rfl, rfl⟩ := Prod.mk.inj (Option.some.inj h)
      exact ⟨hsplit.symm, atLineEnd_of_guard hguard⟩
    · exact absurd h (by simp)

/-- At least one character, and no blanks. -/
structure IsRun (run : List Char) : Prop where
  nonempty : run ≠ []
  solid : ∀ c ∈ run, isBlank c = false

theorem isRun_singleton {c : Char} (h : ¬ isBlank c = true) : IsRun [c] :=
  ⟨by simp, by simpa using h⟩

theorem IsRun.cons {c : Char} (h : IsRun run) (hc : ¬ isBlank c = true) : IsRun (c :: run) :=
  ⟨by simp, List.forall_mem_cons.mpr ⟨Bool.not_eq_true _ ▸ hc, h.solid⟩⟩

theorem IsRun.not_feed (h : IsRun run) : '\n' ∉ run := fun hm =>
  absurd (h.solid _ hm) (by decide)

/-- The version that a link starts from is a run, and `...HEAD` and the end of the line follow. -/
theorem previous?_eq_some (h : previous? run text = some (previous, carriage, rest)) :
    ∃ more mid, IsRun more ∧ previous = run.reverse ++ more ∧
      text = more ++ ("...HEAD".toList ++ mid) ∧ lineEnd? mid = some (carriage, rest) := by
  induction text generalizing run with
  | nil => exact absurd h (by simp [previous?])
  | cons c text ih =>
    unfold previous? at h
    split at h
    · exact absurd h (by simp)
    · rename_i hblank
      split at h
      · rename_i carriage' rest' hend
        obtain ⟨rfl, hout⟩ := Prod.mk.inj (Option.some.inj h)
        obtain ⟨rfl, rfl⟩ := Prod.mk.inj hout
        obtain ⟨mid, hmid, hline⟩ := Option.bind_eq_some_iff.mp hend
        exact ⟨[c], mid, isRun_singleton hblank, by simp,
          by rw [eq_append_of_after? hmid]; rfl, hline⟩
      · obtain ⟨more, mid, hmore, rfl, rfl, hline⟩ := ih h
        exact ⟨c :: more, mid, hmore.cons hblank, by simp, rfl, hline⟩

/-- The base of a link is a run, and the path of a comparison and a version follow. -/
theorem base?_eq_some (h : base? path run text = some (link, rest)) :
    ∃ more mid, IsRun more ∧ link.base = run.reverse ++ more ∧ text = more ++ (path ++ mid) ∧
      previous? [] mid = some (link.previous, link.carriage, rest) := by
  induction text generalizing run with
  | nil => exact absurd h (by simp [base?])
  | cons c text ih =>
    unfold base? at h
    split at h
    · exact absurd h (by simp)
    · rename_i hblank
      split at h
      · rename_i found hfound
        rw [Option.some.inj h] at hfound
        obtain ⟨more, mid, hmore, hbase, rfl, hprev⟩ := ih hfound
        exact ⟨c :: more, mid, hmore.cons hblank, by simp [hbase], rfl, hprev⟩
      · obtain ⟨mid, hmid, hmore⟩ := Option.bind_eq_some_iff.mp h
        obtain ⟨_, hprev, hout⟩ := Option.bind_eq_some_iff.mp hmore
        obtain ⟨rfl, rfl⟩ := Prod.mk.inj (Option.some.inj hout)
        exact ⟨[c], mid, isRun_singleton hblank, by simp,
          by rw [eq_append_of_after? hmid]; rfl, hprev⟩

theorem within_of_lineEnd? (h : lineEnd? text = some (carriage, rest)) :
    Within text rest ∧ AtLineEnd rest := by
  obtain ⟨htext, hend⟩ := lineEnd?_eq_some h
  refine ⟨⟨text.takeWhile isGap ++ carriageOf carriage, fun hm => ?_, ?_⟩, hend⟩
  · rcases List.mem_append.mp hm with hm | hm
    · exact absurd (List.all_eq_true.mp List.all_takeWhile _ hm) (by decide)
    · cases carriage <;> exact absurd hm (by decide)
  · rwa [List.append_assoc]

theorem within_of_previous? (h : previous? [] text = some (previous, carriage, rest)) :
    Within text rest ∧ AtLineEnd rest ∧ '\n' ∉ previous := by
  obtain ⟨more, mid, hmore, hprevious, rfl, hline⟩ := previous?_eq_some h
  obtain ⟨hw, hend⟩ := within_of_lineEnd? hline
  have hhead : Within ("...HEAD".toList ++ mid) mid := ⟨"...HEAD".toList, by decide, rfl⟩
  refine ⟨Within.trans ⟨more, hmore.not_feed, rfl⟩ (hhead.trans hw), hend, ?_⟩
  rw [hprevious]
  exact hmore.not_feed

/-- A link that was read: it lies on one line up to its end, and so do its parts. -/
structure OnLine (text : List Char) (link : CompareLink) (rest : List Char) : Prop where
  within : Within text rest
  atEnd : AtLineEnd rest
  base : '\n' ∉ link.base
  previous : '\n' ∉ link.previous

theorem OnLine.of_within {mid : List Char} (h : OnLine mid link rest) (hw : Within text mid) :
    OnLine text link rest :=
  ⟨hw.trans h.within, h.atEnd, h.base, h.previous⟩

theorem onLine_of_base? (hp : '\n' ∉ path) (h : base? path [] text = some (link, rest)) :
    OnLine text link rest := by
  obtain ⟨more, mid, hmore, hbase, rfl, hprev⟩ := base?_eq_some h
  obtain ⟨hw, hend, hprevious⟩ := within_of_previous? hprev
  have hpath : Within (path ++ mid) mid := ⟨path, hp, rfl⟩
  have hfront : Within (more ++ (path ++ mid)) (path ++ mid) := ⟨more, hmore.not_feed, rfl⟩
  refine ⟨hfront.trans (hpath.trans hw), hend, ?_, hprevious⟩
  rw [hbase]
  exact hmore.not_feed

theorem not_mem_comparePath (hp : '\n' ∉ tagPrefix) : '\n' ∉ comparePath tagPrefix := by
  unfold comparePath
  rw [List.mem_append, not_or]
  exact ⟨by decide, hp⟩

theorem exists_of_read? (hp : '\n' ∉ tagPrefix) (h : read? tagPrefix text = some (link, rest)) :
    ∃ raw, text = definition pendingLabel.toList raw ++ rest ∧ OnLine (raw ++ rest) link rest ∧
      '\n' ∉ raw := by
  obtain ⟨mid, hmid, hbase⟩ := Option.bind_eq_some_iff.mp h
  have hlabel : s!"[{pendingLabel}]:".toList = definition pendingLabel.toList [] := by decide
  have hon := (onLine_of_base? (not_mem_comparePath hp) hbase).of_within (within_gap mid)
  obtain ⟨raw, hraw, rfl⟩ := hon.within
  refine ⟨raw, ?_, hon, hraw⟩
  rw [eq_append_of_after? hmid, hlabel, ← List.append_assoc]
  rfl

/-- A link that was found: it starts a line and ends it. -/
structure Located (text before : List Char) (link : CompareLink) (rest : List Char) : Prop where
  atStart : AtLineStart before
  atEnd : AtLineEnd rest
  base : '\n' ∉ link.base
  previous : '\n' ∉ link.previous
  line : ∃ raw, '\n' ∉ raw ∧ text = before ++ (definition pendingLabel.toList raw ++ rest)

theorem located_of_locate (hp : '\n' ∉ tagPrefix)
    (h : locate tagPrefix begins text = some (before, link, rest)) :
    Located text before link rest ∧ (before = [] → begins = true) := by
  induction text generalizing begins before with
  | nil => exact absurd h (by simp [locate])
  | cons c text ih =>
    unfold locate at h
    split at h
    · rename_i link' rest' hread
      obtain ⟨rfl, hout⟩ := Prod.mk.inj (Option.some.inj h)
      obtain ⟨rfl, rfl⟩ := Prod.mk.inj hout
      split at hread
      · rename_i hbegins
        obtain ⟨raw, htext, hon, hraw⟩ := exists_of_read? hp hread
        exact ⟨⟨Or.inl rfl, hon.atEnd, hon.base, hon.previous, raw, hraw, htext⟩, fun _ => hbegins⟩
      · exact absurd hread (by simp)
    · obtain ⟨⟨before', link', rest'⟩, hloc, hout⟩ := Option.map_eq_some_iff.mp h
      obtain ⟨rfl, hout'⟩ := Prod.mk.inj hout
      obtain ⟨rfl, rfl⟩ := Prod.mk.inj hout'
      -- an empty text before the link means that a line starts right after this character
      obtain ⟨hl, hbegins⟩ := ih hloc
      obtain ⟨raw, hraw, rfl⟩ := hl.line
      refine ⟨⟨atLineStart_cons hl.atStart c fun hb => eq_of_beq (hbegins hb), hl.atEnd, hl.base,
        hl.previous, raw, hraw, rfl⟩, fun hb => absurd hb (by simp)⟩

/-! ## Replacing a link -/

theorem exists_advanced (hp : '\n' ∉ tagPrefix) (hv : '\n' ∉ version) (hb : '\n' ∉ link.base)
    (hprev : '\n' ∉ link.previous) :
    ∃ raw raw', '\n' ∉ raw ∧ '\n' ∉ raw' ∧ link.advanced tagPrefix version =
      definition pendingLabel.toList raw ++ '\n' :: definition version raw' := by
  have hline : ∀ start stop : List Char, '\n' ∉ start → '\n' ∉ stop →
      '\n' ∉ ' ' :: link.base ++ comparePath tagPrefix ++ start ++ "...".toList ++ stop
        ++ (if link.carriage then ['\r'] else []) := by
    intro start stop hstart hstop
    have hpath := not_mem_comparePath hp
    have hdots : '\n' ∉ "...".toList := by decide
    have hend : '\n' ∉ (if link.carriage then ['\r'] else []) := by split <;> decide
    simp only [List.mem_append, List.mem_cons, not_or]
    exact ⟨⟨⟨⟨⟨⟨by decide, hb⟩, hpath⟩, hstart⟩, hdots⟩, hstop⟩, hend⟩
  refine ⟨_, _, hline version "HEAD".toList hv (by decide),
    hline link.previous (tagPrefix ++ version) hprev (by simp [hp, hv]), ?_⟩
  simp [advanced, definition]

/-- Link definitions stand in the place of another one. -/
inductive Relinked : List (List Char) → List (List Char) → Prop
  | same (lines : List (List Char)) : Relinked lines lines
  | replaced (above below : List (List Char)) {line line₁ line₂ : List Char}
    (h : isLinkDefinition line = true) (h₁ : isLinkDefinition line₁ = true)
    (h₂ : isLinkDefinition line₂ = true) :
    Relinked (above ++ line :: below) (above ++ line₁ :: line₂ :: below)

/-- **Pointing the compare link to a new version** puts link definitions in the place of one, and
changes no other line. -/
theorem advance_lines (hp : '\n' ∉ tagPrefix) (hv : '\n' ∉ version) (ho : '[' ∉ version)
    (hc : ']' ∉ version) (text : List Char) :
    Relinked (keptLines text) (keptLines (advance tagPrefix version text)) := by
  unfold advance
  split
  · rename_i before link rest hloc
    obtain ⟨⟨hstart, hend, hb, hprev, raw, hraw, rfl⟩, -⟩ := located_of_locate hp hloc
    obtain ⟨raw₁, raw₂, hraw₁, hraw₂, hadv⟩ := exists_advanced hp hv hb hprev
    have hlabel : '\n' ∉ pendingLabel.toList := by decide
    have hne : ∀ name raw, definition name raw ≠ [] := by simp [definition]
    rw [hadv, List.append_assoc, List.append_assoc, keptLines_append hstart,
      keptLines_append hstart, keptLines_line (hne _ _) (not_mem_definition hlabel hraw) hend,
      List.cons_append, keptLines_line (hne _ _) (not_mem_definition hlabel hraw₁)
        (Or.inr ⟨_, rfl⟩)]
    show Relinked _ (_ ++ _ :: keptLines (definition version raw₂ ++ rest))
    rw [keptLines_line (hne _ _) (not_mem_definition hv hraw₂) hend]
    simp only [definition_append]
    exact .replaced _ _ (isLinkDefinition_definition (by decide) (by decide) _)
      (isLinkDefinition_definition (by decide) (by decide) _) (isLinkDefinition_definition ho hc _)
  · exact .same _

end CompareLink

end Slipway.Changelog
