import Slipway.Proofs.Disk.Tree
import Slipway.Proofs.Vault.Capture

/-!
# Which files a vault changes

About `BackupVault` (`keel_core::backup`). Outside of the vault, no regular file comes, goes or
changes when files are captured, or when the vault is removed. Copying back changes the files that
were captured.

* `capture_confined`: a capture changes no file outside of the vault.
* `set_files`: outside of the vault, what has a slot was a file when it was captured.
* `restore_confined`: so copying back makes no file there.
-/

namespace Slipway.Vault

open Disk

variable {dir path : String} {i : Nat} {paths : List String} {entries : List CapturedPath}
variable {d d₁ d' : Disk} {set : BackupSet} {S T : Place → Prop}

/-! ## Capturing -/

/-- **A capture changes no file outside of the vault**, even if it is refused. -/
theorem capture_confined (dir : String) (paths : List String) (d : Disk) (T : Place → Prop) :
    Confined (Path.place dir <+: ·) T d (capture dir paths d).2 := by
  unfold capture
  split
  · exact Confined.refl _ T d
  · have hmade := (makeDirectories_made d dir).confined (Path.place dir <+: ·) T
    split
    · rename_i hm
      rwa [hm] at hmade
    · rename_i made hm
      rw [hm] at hmade
      have hb := ne_empty_of_isDirectory (isDirectory_makeDirectories hm)
      have hfill := ((fill_wrote hb paths made).mono fun _ hq => hq.inside).confined T
      split
      · rename_i hf
        rw [hf] at hfill
        exact hmade.trans hfill
      · rename_i filled hf
        rw [hf] at hfill
        refine (hmade.trans hfill).trans ?_
        unfold attempt
        split
        · rename_i hgone
          exact (removeTree_removed hgone).confined T
        · exact Confined.refl _ T filled

theorem isTree_capture (ht : d.IsTree) (h : capture dir paths d = (.ok set, d')) : d'.IsTree := by
  obtain ⟨bare, hhalf⟩ := exists_halfway h
  have htree := ht.makeDirectories dir
  rw [hhalf.makes] at htree
  refine htree.wrote hhalf.wrote fun q hq _ => ?_
  -- what is written lies right below the directory of the vault
  have hup : q.dropLast = Path.place dir := by
    rcases hq with rfl | ⟨j, t, -, rfl⟩
    · exact List.dropLast_concat
    · exact List.dropLast_concat
  rw [hup]
  exact (isDirectory_iff.mp hhalf.directory).2

theorem copyAll_files (hb : dir ≠ "") (h : copyAll dir i paths d = (.ok entries, d')) :
    ∀ e ∈ entries, e.path ∈ paths ∧ (e.slot ≠ none → ¬ Path.place dir <+: Path.place e.path →
      ∃ c, d.at? (Path.place e.path) = some (.file c)) := by
  induction paths generalizing i d d' entries with
  | nil =>
    rw [← Except.ok.inj (Prod.mk.inj h).1]
    exact fun e he => absurd he List.not_mem_nil
  | cons path paths ih =>
    obtain ⟨entry, d₁, rest, hfirst, hcopies, rfl⟩ := copyAll_cons_eq_ok h
    intro e he
    rcases List.mem_cons.mp he with rfl | he
    · refine ⟨?_, fun hslot _ => ?_⟩
      · cases hfirst <;> exact List.mem_cons_self
      · cases hfirst with
        | missing hp => exact absurd rfl hslot
        | copied hlook hwrite => exact ⟨_, (lookup_eq_ok_iff.mp hlook).2⟩
    · obtain ⟨hm, hfile⟩ := ih hcopies e he
      refine ⟨List.mem_cons_of_mem path hm, fun hslot hout => ?_⟩
      obtain ⟨c, hc⟩ := hfile hslot hout
      refine ⟨c, ?_⟩
      cases hfirst with
      | missing hp => exact hc
      | copied hlook hwrite =>
        rw [← (wrote_of_write_slot hb hwrite).at?_eq fun hq => hout hq.inside]
        exact hc

/-- **Outside of the vault, what has a slot was a file** when it was captured. -/
theorem set_files (h : capture dir paths d = (.ok set, d')) :
    ∀ e ∈ set.paths, e.path ∈ paths ∧ (e.slot ≠ none → ¬ Path.place dir <+: Path.place e.path →
      ∃ c, d.at? (Path.place e.path) = some (.file c)) := by
  obtain ⟨bare, hhalf⟩ := exists_halfway h
  have hfill := hhalf.fills
  have hmade := hhalf.made.confined (Path.place dir <+: ·) fun _ => False
  obtain ⟨entries, d₁, hcopy, hpaths⟩ : ∃ entries d₁,
      copyAll dir 0 paths bare = (.ok entries, d₁) ∧ set.paths = entries := by
    unfold fill at hfill
    split at hfill
    · exact absurd (Prod.mk.inj hfill).1 (by simp)
    · rename_i entries d₁ hcopy
      split at hfill
      · exact absurd (Prod.mk.inj hfill).1 (by simp)
      · rw [← Except.ok.inj (Prod.mk.inj hfill).1]
        exact ⟨entries, d₁, hcopy, rfl⟩
  intro e he
  rw [hpaths] at he
  obtain ⟨hpath, hfile⟩ := copyAll_files hhalf.nonempty hcopy e he
  exact ⟨hpath, fun hslot hout => (hmade.there _ hout).mp (hfile hslot hout)⟩

/-! ## Copying back -/

/-- What has a slot is a file, outside of `S`. -/
def Files (S : Place → Prop) (entries : List CapturedPath) (d : Disk) : Prop :=
  ∀ e ∈ entries, e.slot ≠ none → ¬ S (Path.place e.path) →
    ∃ c, d.at? (Path.place e.path) = some (.file c)

theorem Files.confined (h : Files S entries d) (hc : Confined S T d d') : Files S entries d' :=
  fun e he hslot hS => (hc.there _ hS).mpr (h e he hslot hS)

theorem restoreOne_confined {e : CapturedPath} (h : Files S [e] d)
    (hT : ∀ e' ∈ [e], T (Path.place e'.path)) : Confined S T d (restoreOne e d).2 := by
  unfold restoreOne
  cases hs : e.slot with
  | none => exact Confined.refl S T d
  | some slot =>
    simp only
    split
    · exact Confined.refl S T d
    · split
      · rename_i d' hcopy
        obtain ⟨c, -, hw⟩ := copy_eq_ok_iff.mp hcopy
        have hwrote := (wrote_of_write hw).1
        refine (Wrote.confined_over hwrote ?_).mono (fun _ => id) ?_
        · rintro q rfl hS
          obtain ⟨c', hfile⟩ := h e (List.mem_singleton_self e) (by rw [hs]; simp) hS
          rw [hfile]
          simp
        · rintro q rfl
          exact hT e (List.mem_singleton_self e)
      · exact Confined.refl S T d

/-- **Copying back changes only files**, those that were captured. -/
theorem restore_confined (h : Files S set.paths d)
    (hT : ∀ e ∈ set.paths, T (Path.place e.path)) : Confined S T d (restore set d).2 := by
  unfold restore
  generalize set.paths = entries at h hT
  induction entries generalizing d with
  | nil => exact Confined.refl S T d
  | cons e entries ih =>
    have hfirst : Confined S T d (restoreOne e d).2 := by
      refine restoreOne_confined (fun e' he' => h e' ?_) fun e' he' => hT e' ?_
      · rw [List.mem_singleton.mp he']
        exact List.mem_cons_self
      · rw [List.mem_singleton.mp he']
        exact List.mem_cons_self
    have hrest : Files S entries d := fun e' he' => h e' (List.mem_cons_of_mem e he')
    exact hfirst.trans (ih (hrest.confined hfirst) fun e' he' => hT e' (List.mem_cons_of_mem e he'))

/-! ## Removing the vault -/

theorem discard_removed (h : discard set d = .ok d') : Removed (Path.place set.dir) d d' := by
  unfold discard at h
  split at h
  · cases hr : d.removeTree set.dir with
    | error cause =>
      rw [hr] at h
      exact absurd h (by simp [ofDisk])
    | ok gone =>
      rw [hr] at h
      rw [← Except.ok.inj h]
      exact removeTree_removed hr
  · rw [← Except.ok.inj h]
    exact fun q => Or.inl rfl

end Slipway.Vault
