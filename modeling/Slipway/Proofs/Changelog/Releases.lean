import Slipway.Proofs.Changelog.Promote

/-!
# Headings over any releases

About `ChangelogLedger::promote_pending` (`keel_core::changelog`). A promotion puts the label of its
version below the first pending heading, and the labels alone decide what it comes to
(`PromotesByLabels`). So a changelog that comes from releases (`Promoted`) has one pending heading
as long as it had one before, and lists the released versions right below it, the newest first
(`promote_headings`).
-/

namespace Slipway.Changelog

variable {c c' : Changelog} {v : Version} {date : Date} {t : String} {vs : List Version}

/-! ## One promotion -/

/-- Puts a label below the first occurrence of another one. -/
def insertBelow (anchor label : String) : List String → List String
  | [] => []
  | x :: xs => if x = anchor then x :: label :: xs else x :: insertBelow anchor label xs

theorem insertBelow_append {anchor : String} {above : List String} (h : anchor ∉ above)
    (label : String) (below : List String) : insertBelow anchor label (above ++ anchor :: below) =
      above ++ anchor :: label :: below := by
  induction above with
  | nil => exact if_pos rfl
  | cons x above ih =>
    rw [List.mem_cons, not_or] at h
    rw [List.cons_append, insertBelow, if_neg (Ne.symm h.1), ih h.2]
    rfl

section

variable [Regex.SizeLimit]

/-- **A promotion puts the label of its version** below the first pending heading. -/
theorem labels_of_promote (hp : '\n' ∉ c.tagPrefix.toList) (h : c.promote v date = .ok t) :
    pendingLabel ∈ c.labels ∧
      (Changelog.mk t c.tagPrefix).labels = insertBelow pendingLabel v.text c.labels := by
  obtain ⟨-, opened, hopened, hlinked⟩ := opened_of_promote hp h
  obtain ⟨above, below, habove, hlabels, hnew⟩ := hopened.labelsOf_eq
  have hfirst : pendingLabel ∉ above.map String.ofList := by
    rw [List.mem_map]
    rintro ⟨name, hname, hofList⟩
    rw [← hofList, String.toList_ofList] at habove
    exact habove hname
  have hc : c.labels = above.map String.ofList ++ pendingLabel :: below.map String.ofList := by
    simp [labels, hlabels]
  refine ⟨by simp [hc], ?_⟩
  rw [hc, insertBelow_append hfirst]
  show (labelsOf (Text.keptLines t.toList)).map String.ofList = _
  simp [hlinked.labelsOf_eq, hnew]

/-- What a promotion to a version comes to, told by the labels of the headings. -/
structure PromotesByLabels (c : Changelog) (v : Version) (date : Date) : Prop where
  /-- It succeeds exactly if there is a pending heading and none of the version, as long as the tag
  prefix leaves the expression of the compare link within its size. -/
  succeeds_iff : (∃ t, c.promote v date = .ok t) ↔
    pendingLabel ∈ c.labels ∧ v.text ∉ c.labels ∧ c.LinkFits
  /-- A heading of the version is refused first. -/
  duplicate : v.text ∈ c.labels → c.promote v date = .error (.duplicateSection v.text)
  /-- A pending heading has to be there. -/
  notFound : pendingLabel ∉ c.labels → v.text ∉ c.labels →
    c.promote v date = .error (.sectionNotFound pendingLabel)
  /-- An expression of the compare link that is too large is refused last. -/
  oversized : pendingLabel ∈ c.labels → v.text ∉ c.labels → ¬ c.LinkFits →
    c.promote v date = .error c.linkError
  /-- The heading of the version comes below the first pending heading. -/
  inserted : ∀ t, c.promote v date = .ok t →
    (Changelog.mk t c.tagPrefix).labels = insertBelow pendingLabel v.text c.labels

theorem promotesByLabels (hp : '\n' ∉ c.tagPrefix.toList) (v : Version) (date : Date) :
    PromotesByLabels c v date := by
  refine ⟨⟨?_, fun h => exists_promote date h.2.1 h.1 h.2.2⟩, promote_eq_duplicate date,
    fun h hv => promote_eq_notFound date hv h, fun h hv => promote_eq_linkError date hv h,
    fun t ht => (labels_of_promote hp ht).2⟩
  rintro ⟨t, ht⟩
  obtain ⟨hnew, hfits, -⟩ := promote_eq_ok_iff.mp ht
  exact ⟨(labels_of_promote hp ht).1, hnew, hfits⟩

/-! ## Any number of promotions -/

/-- One changelog comes from another one by releases of the listed versions, the newest first. -/
inductive Promoted (c : Changelog) : List Version → Changelog → Prop
  | none : Promoted c [] c
  | more {vs : List Version} {c' : Changelog} (h : Promoted c vs c') {v : Version} {date : Date}
    {t : String} (hok : c'.promote v date = .ok t) : Promoted c (v :: vs) ⟨t, c'.tagPrefix⟩

theorem Promoted.tagPrefix_eq (h : Promoted c vs c') :
    c'.tagPrefix = c.tagPrefix := by
  induction h with
  | none => rfl
  | more h hok ih => exact ih

/-- The releases since a changelog with one pending heading are listed below that heading. -/
theorem Promoted.labels_eq {above below : List String}
    (hp : '\n' ∉ c.tagPrefix.toList) (h : Promoted c vs c') (hfirst : pendingLabel ∉ above)
    (hc : c.labels = above ++ pendingLabel :: below) :
    c'.labels = above ++ pendingLabel :: (vs.map Version.text ++ below) := by
  induction h with
  | none => exact hc
  | more h hok ih =>
    rw [(labels_of_promote (h.tagPrefix_eq ▸ hp) hok).2, ih, insertBelow_append hfirst]
    rfl

/-- What releases since a changelog with one pending heading lead to. -/
structure Stacked (c : Changelog) (vs : List Version) (c' : Changelog) : Prop where
  /-- There is one pending heading. -/
  one : c'.labels.count pendingLabel = 1
  /-- The released versions follow it, and the other headings keep their places. -/
  stacked : ∃ above below, c.labels = above ++ pendingLabel :: below ∧
    c'.labels = above ++ pendingLabel :: (vs.map Version.text ++ below)
  /-- No version is released twice. -/
  refused : ∀ v date, v ∈ vs ∨ v.text ∈ c.labels →
    c'.promote v date = .error (.duplicateSection v.text)

theorem Promoted.stacked (hp : '\n' ∉ c.tagPrefix.toList)
    (h : Promoted c vs c') (hone : c.labels.count pendingLabel = 1) : Stacked c vs c' := by
  have hmem : pendingLabel ∈ c.labels := List.count_pos_iff.mp (by omega)
  obtain ⟨above, below, hc, hfirst⟩ := List.eq_append_cons_of_mem hmem
  have hc' := h.labels_eq hp hfirst hc
  -- no version is called like the pending section, so no release adds a pending heading
  have hcount : (vs.map Version.text).count pendingLabel = 0 := by
    refine List.count_eq_zero.mpr fun hm => ?_
    obtain ⟨v, -, hv⟩ := List.mem_map.mp hm
    exact text_ne_pendingLabel v hv
  refine ⟨?_, ⟨above, below, hc, hc'⟩, fun v date hv => promote_eq_duplicate date ?_⟩
  · rw [hc, List.count_append, List.count_cons_self] at hone
    rw [hc', List.count_append, List.count_cons_self, List.count_append, hcount]
    omega
  · rw [hc']
    rw [hc] at hv
    simp only [List.mem_append, List.mem_cons, List.mem_map] at hv ⊢
    rcases hv with hv | hv | hv | hv
    · exact Or.inr (Or.inr (Or.inl ⟨v, hv, rfl⟩))
    · exact Or.inl hv
    · exact Or.inr (Or.inl hv)
    · exact Or.inr (Or.inr (Or.inr hv))

/-- **The headings over any releases.** A promotion succeeds exactly if there is a pending heading
and none of the version, with a tag prefix that leaves the expression of the compare link within its
size, and it puts the heading of the version below the first pending one. So a changelog with one
pending heading keeps it, with the released versions right below it. -/
theorem promote_headings (hp : '\n' ∉ c.tagPrefix.toList) :
    (∀ v date, PromotesByLabels c v date) ∧
      ∀ vs c', c.labels.count pendingLabel = 1 → Promoted c vs c' → Stacked c vs c' :=
  ⟨promotesByLabels hp, fun _ _ hone h => h.stacked hp hone⟩

end

theorem labels_tiny : tiny.labels = [pendingLabel, "0.3.1"] := by decide +kernel

theorem exists_promoted_tiny : ∃ c', Promoted tiny [⟨0, 5, 0⟩, ⟨0, 4, 0⟩] c' := by
  have hlabels : (Changelog.mk tinyReleased "v").labels = [pendingLabel, "0.4.0", "0.3.1"] := by
    have hinserted := (labels_of_promote (by decide) promote_tiny).2
    rw [labels_tiny] at hinserted
    exact hinserted.trans (by decide)
  obtain ⟨t, ht⟩ := exists_promote (c := ⟨tinyReleased, "v"⟩) (v := ⟨0, 5, 0⟩) ⟨2024, 4, 1⟩
    (by rw [hlabels]; decide) (by rw [hlabels]; decide) (by decide +kernel)
  exact ⟨_, .more (.more .none promote_tiny) ht⟩

theorem promote_headings_tiny :
    '\n' ∉ tiny.tagPrefix.toList ∧ PromotesByLabels tiny ⟨0, 4, 0⟩ ⟨2024, 3, 15⟩ ∧
      tiny.labels.count pendingLabel = 1 ∧ ∃ c', Promoted tiny [⟨0, 5, 0⟩, ⟨0, 4, 0⟩] c' ∧
        Stacked tiny [⟨0, 5, 0⟩, ⟨0, 4, 0⟩] c' := by
  have hp : '\n' ∉ tiny.tagPrefix.toList := by decide
  have hone : tiny.labels.count pendingLabel = 1 := by
    rw [labels_tiny]
    decide
  obtain ⟨hstep, hrun⟩ := promote_headings hp
  obtain ⟨c', hc'⟩ := exists_promoted_tiny
  exact ⟨hp, hstep _ _, hone, c', hc', hrun _ _ hone hc'⟩

end Slipway.Changelog
