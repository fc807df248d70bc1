import Slipway.Proofs.Vault.Restore

/-!
# A vault that was left alone

About `BackupVault::restore` (`keel_core::backup`). As long as only the release touches its vault
(`Intact`), the slots keep what they held. Whether they can be looked up depends on the path of the
vault alone (`Captured.kept_iff`): a directory on the way to it may have been removed. Then a
restoration finds no slot, copies nothing back, and counts as complete
(`Captured.restore_of_not_directory`).
-/

namespace Slipway

open Disk

namespace Vault

/-- What stands in the vault is what was left there. -/
def Intact (dir : String) (d₁ d : Disk) : Prop :=
  ∀ q, Path.place dir <+: q → d.at? q = d₁.at? q

variable {dir : String} {paths : List String} {d₀ d₁ d : Disk} {set : BackupSet}
variable {e : CapturedPath} {slot : String} {c : Content}

/-- A vault is left alone if a file outside of it is changed, and something is removed that neither
lies in it nor holds it. -/
theorem intact_put_cut {p r : Place} (hp : ¬ Path.place dir <+: p) (hr : ¬ Path.place dir <+: r)
    (hr' : ¬ r <+: Path.place dir) (d : Disk) (entry : Entry) :
    Intact dir d ((d.put p entry).cut r) := by
  intro q hq
  have hchanged : q ≠ p := by
    rintro rfl
    exact hp hq
  have hremoved : ¬ r <+: q := fun h => (List.prefix_or_prefix_of_prefix hq h).elim hr hr'
  rw [at?_cut, if_neg fun h => hremoved h.2, at?_put_of_ne hchanged]

theorem Captured.dir_ne_empty (h : Captured dir paths d₀ set d₁) : dir ≠ "" :=
  ne_empty_of_isDirectory h.present

theorem Captured.slot_inside (h : Captured dir paths d₀ set d₁) (he : e ∈ set.paths)
    (hs : e.slot = some slot) : Path.place dir <+: Path.place slot := by
  obtain ⟨j, -, hj⟩ := h.copied.slot_eq e he slot hs
  rw [hj, place_slotPath h.dir_ne_empty]
  exact List.prefix_append _ _

/-- A slot can be looked up if the directory of the vault can. -/
theorem Captured.leads_slot_iff (h : Captured dir paths d₀ set d₁) (he : e ∈ set.paths)
    (hs : e.slot = some slot) : d.Leads slot ↔ d.isDirectory dir = true := by
  obtain ⟨j, -, hj⟩ := h.copied.slot_eq e he slot hs
  obtain ⟨c, hl, -⟩ := h.copied.secured.saved e he slot hs
  have hjoin := fun d : Disk =>
    leads_join_iff (d := d) h.dir_ne_empty (plain_slotFile j e.path)
  rw [hj, slotPath_eq] at hl ⊢
  have hname := ((hjoin d₁).mp (lookup_eq_ok_iff.mp hl).1).2
  rw [hjoin d]
  exact and_iff_left hname

theorem Captured.at?_slot (h : Captured dir paths d₀ set d₁) (hin : Intact dir d₁ d)
    (he : e ∈ set.paths) (hs : e.slot = some slot) (hl : d₁.lookup slot = .ok (.file c)) :
    d.at? (Path.place slot) = some (.file c) := by
  rw [hin _ (h.slot_inside he hs)]
  exact (lookup_eq_ok_iff.mp hl).2

theorem Captured.lookup_slot (h : Captured dir paths d₀ set d₁) (hin : Intact dir d₁ d)
    (hdir : d.isDirectory dir = true) (he : e ∈ set.paths) (hs : e.slot = some slot)
    (hl : d₁.lookup slot = .ok (.file c)) : d.lookup slot = .ok (.file c) :=
  lookup_eq_ok_iff.mpr ⟨(h.leads_slot_iff he hs).mpr hdir, h.at?_slot hin he hs hl⟩

theorem Captured.slotsKept (h : Captured dir paths d₀ set d₁) (hin : Intact dir d₁ d) :
    SlotsKept set.paths d₁ d := by
  intro e he slot hs hp
  obtain ⟨c, hl, -⟩ := h.copied.secured.saved e he slot hs
  rw [hl]
  exact h.lookup_slot hin ((h.leads_slot_iff he hs).mp (pathExists_iff.mp hp).1) he hs hl

theorem Captured.kept_iff (h : Captured dir paths d₀ set d₁) (hin : Intact dir d₁ d)
    (he : e ∈ set.paths) (hs : e.slot = some slot) : e.Kept d ↔ d.isDirectory dir = true := by
  constructor
  · rintro ⟨slot', hs', hp⟩
    exact (h.leads_slot_iff he hs').mp (pathExists_iff.mp hp).1
  · intro hdir
    obtain ⟨c, hl, -⟩ := h.copied.secured.saved e he slot hs
    refine ⟨slot, hs, pathExists_iff.mpr ⟨(h.leads_slot_iff he hs).mpr hdir, ?_⟩⟩
    rw [h.at?_slot hin he hs hl]
    exact Option.some_ne_none _

/-- The vault is a directory exactly if its path leads anywhere. -/
theorem Captured.isDirectory_iff (h : Captured dir paths d₀ set d₁) (hin : Intact dir d₁ d) :
    d.isDirectory dir = true ↔ d.Leads dir := by
  rw [Disk.isDirectory_iff, and_iff_left]
  rw [hin _ (List.prefix_refl _)]
  exact (Disk.isDirectory_iff.mp h.present).2

theorem Captured.restored (h : Captured dir paths d₀ set d₁) (hin : Intact dir d₁ d) :
    Restored set.paths d₁ d (restore set d) :=
  restoreAll_restored h.copied.secured (h.slotsKept hin)

/-- Copying back leaves the vault alone, too. -/
theorem Captured.intact_restore (h : Captured dir paths d₀ set d₁) (hin : Intact dir d₁ d)
    (hout : ∀ e ∈ set.paths, ¬ Path.place dir <+: Path.place e.path) :
    Intact dir d₁ (restore set d).2 := by
  intro q hq
  rw [(h.restored hin).rest q, hin q hq]
  rintro ⟨e, he, -, rfl⟩
  exact hout e he hq

/-- Without the directory of the vault nothing is copied back, and every path is skipped. -/
theorem Captured.restore_eq (h : Captured dir paths d₀ set d₁) (hin : Intact dir d₁ d)
    (hdir : d.isDirectory dir = false) : restore set d = (⟨[], paths, []⟩, d) := by
  have hnone : ∀ e ∈ set.paths, ¬ e.Kept d := by
    rintro e he ⟨slot, hs, hp⟩
    have hthere := (h.kept_iff hin he hs).mp ⟨slot, hs, hp⟩
    rw [hdir] at hthere
    exact Bool.false_ne_true hthere
  unfold restore
  rw [restoreAll_of_not_kept hnone, h.copied.paths_eq]

/-- That counts as complete. -/
theorem Captured.restore_of_not_directory (h : Captured dir paths d₀ set d₁)
    (hin : Intact dir d₁ d) (hdir : d.isDirectory dir = false) :
    (restore set d).1.complete = true ∧ ∀ q, (restore set d).2.at? q = d.at? q := by
  rw [h.restore_eq hin hdir]
  exact ⟨rfl, fun _ => rfl⟩

/-! ## Discarding the vault -/

theorem discard_of_directory (hdir : d.isDirectory set.dir = true) :
    ∃ gone, d.removeTree set.dir = .ok gone ∧ discard set d = .ok gone := by
  refine ⟨_, removeTree_eq_ok_iff.mpr ⟨hdir, rfl⟩, ?_⟩
  unfold discard
  rw [if_pos (pathExists_of_isDirectory hdir), removeTree_eq_ok_iff.mpr ⟨hdir, rfl⟩]
  rfl

theorem discard_of_missing (hl : ¬ d.Leads set.dir) : discard set d = .ok d := by
  unfold discard
  rw [if_neg fun hp => hl (pathExists_iff.mp hp).1]

end Slipway.Vault
