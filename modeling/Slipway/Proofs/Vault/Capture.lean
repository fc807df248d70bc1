import Slipway.Proofs.Vault.Slot

/-!
# What a capture leaves

About `BackupVault::capture` (`keel_core::backup`).

* `copyAll_copied`: each slot holds what stands at its path, and copying the slots back in their
  order overwrites none of them before its turn.
* `capture_ok`: a capture that succeeds leaves the vault, filled.
* `capture_error`: a capture that fails leaves no vault.
* `Spared`: outside of the vault a capture only makes directories, and only above the vault.
-/

namespace Slipway.Vault

open Disk

variable {dir path : String} {i : Nat} {paths : List String} {entries : List CapturedPath}
variable {d d₁ d' : Disk} {c : Content} {q : Place}

/-! ## Copying into the slots -/

theorem copyAll_of_missing (h : d.pathExists path = false) : copyAll dir i (path :: paths) d =
    ((copyAll dir (i + 1) paths d).1.map (⟨path, none⟩ :: ·), (copyAll dir (i + 1) paths d).2) := by
  rw [copyAll, if_pos (by rw [h]; rfl)]

theorem copyAll_of_exists (h : d.pathExists path = true) : copyAll dir i (path :: paths) d =
    match d.copy path (slotPath dir i path) with
    | .error cause => (.error (.backupStaging path cause), d)
    | .ok d' => ((copyAll dir (i + 1) paths d').1.map (⟨path, some (slotPath dir i path)⟩ :: ·),
        (copyAll dir (i + 1) paths d').2) := by
  have hno : ¬ (!d.pathExists path) = true := by
    rw [h]
    decide
  exact if_neg hno

/-- What becomes of the first path: nothing stands there, or its file is copied into its slot. -/
inductive CopiesFirst (dir : String) (i : Nat) (path : String) (d : Disk) :
    CapturedPath → Disk → Prop where
  | missing (h : d.pathExists path = false) : CopiesFirst dir i path d ⟨path, none⟩ d
  | copied {c : Content} {d₁ : Disk} (hlook : d.lookup path = .ok (.file c))
      (hwrite : d.write (slotPath dir i path) c = .ok d₁) :
      CopiesFirst dir i path d ⟨path, some (slotPath dir i path)⟩ d₁

theorem copyAll_cons_eq_ok (h : copyAll dir i (path :: paths) d = (.ok entries, d')) :
    ∃ entry d₁ rest, CopiesFirst dir i path d entry d₁ ∧
      copyAll dir (i + 1) paths d₁ = (.ok rest, d') ∧ entries = entry :: rest := by
  cases hp : d.pathExists path with
  | false =>
    rw [copyAll_of_missing hp] at h
    obtain ⟨he, hd⟩ := Prod.mk.inj h
    obtain ⟨rest, hrest, rfl⟩ := map_eq_ok_iff.mp he
    exact ⟨_, d, rest, .missing hp, Prod.ext hrest hd, rfl⟩
  | true =>
    rw [copyAll_of_exists hp] at h
    split at h
    · exact absurd (Prod.mk.inj h).1 (by simp)
    · rename_i d₁ hcopy
      obtain ⟨c, hlook, hwrite⟩ := copy_eq_ok_iff.mp hcopy
      obtain ⟨he, hd⟩ := Prod.mk.inj h
      obtain ⟨rest, hrest, rfl⟩ := map_eq_ok_iff.mp he
      exact ⟨_, d₁, rest, .copied hlook hwrite, Prod.ext hrest hd, rfl⟩

theorem wrote_of_write_slot (hb : dir ≠ "") (h : d.write (slotPath dir i path) c = .ok d₁) :
    Wrote (Pending dir i) d d₁ := by
  refine (wrote_of_write h).1.mono fun q hq => ?_
  rw [hq]
  exact pending_slotPath hb i path

/-- Copying into the slots changes nothing else, even if it is broken off. -/
theorem copyAll_wrote (hb : dir ≠ "") (i : Nat) (paths : List String) (d : Disk) :
    Wrote (Pending dir i) d (copyAll dir i paths d).2 := by
  induction paths generalizing i d with
  | nil => exact Wrote.refl _ d
  | cons path paths ih =>
    have hrest : ∀ d, Wrote (Pending dir i) d (copyAll dir (i + 1) paths d).2 := fun d =>
      (ih (i + 1) d).mono fun q hq => hq.mono (Nat.le_succ i)
    cases hp : d.pathExists path with
    | false =>
      rw [copyAll_of_missing hp]
      exact hrest d
    | true =>
      rw [copyAll_of_exists hp]
      split
      · exact Wrote.refl _ d
      · rename_i d' hcopy
        obtain ⟨c, -, hwrite⟩ := copy_eq_ok_iff.mp hcopy
        exact (wrote_of_write_slot hb hwrite).trans (hrest d')

/-! ## What the slots hold -/

/-- The slots hold what stands at their paths, and copying the entries back in their order does not
overwrite a slot before its turn. -/
structure Secured (entries : List CapturedPath) (d : Disk) : Prop where
  saved : ∀ e ∈ entries, ∀ slot, e.slot = some slot →
    ∃ c, d.lookup slot = .ok (.file c) ∧ d.lookup e.path = .ok (.file c)
  apart : entries.Pairwise fun e e' => ∀ slot slot', e.slot = some slot → e'.slot = some slot' →
    Path.place e.path ≠ Path.place slot'

/-- The entries that copying paths leaves. -/
structure Copied (dir : String) (i : Nat) (paths : List String) (d : Disk)
    (entries : List CapturedPath) (d' : Disk) : Prop where
  paths_eq : entries.map (·.path) = paths
  slot_eq : ∀ e ∈ entries, ∀ slot, e.slot = some slot → ∃ j, i ≤ j ∧ slot = slotPath dir j e.path
  notManifest : ∀ e ∈ entries, e.slot ≠ none → Path.place e.path ≠ Path.place (manifestPath dir)
  missing : ∀ e ∈ entries, e.slot = none → d.pathExists e.path = false
  secured : Secured entries d'

/-- No file to be copied stands where something is still to be written. -/
def Clear (dir : String) (i : Nat) (paths : List String) (d : Disk) : Prop :=
  ∀ t ∈ paths, Pending dir i (Path.place t) → ∀ c, d.at? (Path.place t) ≠ some (.file c)

theorem Clear.tail (h : Clear dir i (path :: paths) d) : Clear dir (i + 1) paths d :=
  fun t ht hp => h t (List.mem_cons_of_mem path ht) (hp.mono (Nat.le_succ i))

theorem Clear.write_slot (hb : dir ≠ "") (h : Clear dir (i + 1) paths d)
    (hw : d.write (slotPath dir i path) c = .ok d₁) : Clear dir (i + 1) paths d₁ := by
  intro t ht hp
  have hne : Path.place t ≠ Path.place (slotPath dir i path) := by
    intro he
    rw [he] at hp
    exact not_pending_slotPath hb _ (Nat.lt_succ_self i) hp
  rw [(wrote_of_write hw).1.at?_eq hne]
  exact h t ht hp

theorem Copied.cons_missing (h : Copied dir (i + 1) paths d entries d')
    (hp : d.pathExists path = false) :
    Copied dir i (path :: paths) d (⟨path, none⟩ :: entries) d' where
  paths_eq := by rw [List.map_cons, h.paths_eq]
  slot_eq := by
    intro e he slot hslot
    rcases List.mem_cons.mp he with rfl | he
    · exact absurd hslot (by simp)
    · obtain ⟨j, hj, hs⟩ := h.slot_eq e he slot hslot
      exact ⟨j, by omega, hs⟩
  notManifest := by
    intro e he hslot
    rcases List.mem_cons.mp he with rfl | he
    · exact absurd rfl hslot
    · exact h.notManifest e he hslot
  missing := by
    intro e he hslot
    rcases List.mem_cons.mp he with rfl | he
    · exact hp
    · exact h.missing e he hslot
  secured := by
    refine ⟨fun e he slot hslot => ?_, List.pairwise_cons.mpr ⟨?_, h.secured.apart⟩⟩
    · rcases List.mem_cons.mp he with rfl | he
      · exact absurd hslot (by simp)
      · exact h.secured.saved e he slot hslot
    · intro e _ slot slot' hslot
      exact absurd hslot (by simp)

theorem Copied.cons_copied (hb : dir ≠ "") (hclear : Clear dir i (path :: paths) d)
    (hlook : d.lookup path = .ok (.file c)) (hwrite : d.write (slotPath dir i path) c = .ok d₁)
    (hrest : Wrote (Pending dir (i + 1)) d₁ d') (h : Copied dir (i + 1) paths d₁ entries d') :
    Copied dir i (path :: paths) d (⟨path, some (slotPath dir i path)⟩ :: entries) d' := by
  have hfirst := wrote_of_write_slot hb hwrite
  -- the file that was just copied is neither this slot nor a later file of the vault
  have hfree : ¬ Pending dir i (Path.place path) := fun hp =>
    hclear path List.mem_cons_self hp c (lookup_eq_ok_iff.mp hlook).2
  have hkept : ¬ Pending dir (i + 1) (Path.place path) := fun hp => hfree (hp.mono (Nat.le_succ i))
  have hslot : d₁.lookup (slotPath dir i path) = .ok (.file c) :=
    lookup_eq_ok_iff.mpr ⟨hfirst.leads_iff.mpr (write_eq_ok_iff.mp hwrite).1.leads,
      (wrote_of_write hwrite).2⟩
  refine ⟨by rw [List.map_cons, h.paths_eq], fun e he slot hs => ?_, fun e he hs => ?_,
    fun e he hs => ?_, fun e he slot hs => ?_,
    List.pairwise_cons.mpr ⟨fun e he slot slot' _ hs => ?_, h.secured.apart⟩⟩
  · rcases List.mem_cons.mp he with rfl | he
    · exact ⟨i, Nat.le_refl i, (Option.some.inj hs).symm⟩
    · obtain ⟨j, hj, hs⟩ := h.slot_eq e he slot hs
      exact ⟨j, by omega, hs⟩
  · rcases List.mem_cons.mp he with rfl | he
    · intro hm
      refine hfree ?_
      rw [hm]
      exact pending_manifestPath hb i
    · exact h.notManifest e he hs
  · rcases List.mem_cons.mp he with rfl | he
    · exact absurd hs (by simp)
    · rw [← Bool.not_eq_true]
      intro hp
      exact absurd (h.missing e he hs) (by rw [hfirst.pathExists hp]; decide)
  · rcases List.mem_cons.mp he with rfl | he
    · rw [← Option.some.inj hs]
      refine ⟨c, (hrest.lookup_eq_ok_iff ?_).mpr hslot, ?_⟩
      · exact not_pending_slotPath hb _ (Nat.lt_succ_self i)
      · exact (hrest.lookup_eq_ok_iff hkept).mpr ((hfirst.lookup_eq_ok_iff hfree).mpr hlook)
    · exact h.secured.saved e he slot hs
  · obtain ⟨j, hj, hslot'⟩ := h.slot_eq e he slot' hs
    intro hq
    refine hkept ?_
    rw [hq, hslot']
    exact (pending_slotPath hb j e.path).mono hj

/-- **Copying secures the files**: every slot holds what stands at its path. -/
theorem copyAll_copied (hb : dir ≠ "") (hclear : Clear dir i paths d)
    (h : copyAll dir i paths d = (.ok entries, d')) : Copied dir i paths d entries d' := by
  induction paths generalizing i d entries d' with
  | nil =>
    obtain ⟨he, -⟩ := Prod.mk.inj h
    rw [← Except.ok.inj he]
    exact ⟨rfl, by simp, by simp, by simp, by simp, List.Pairwise.nil⟩
  | cons path paths ih =>
    obtain ⟨entry, d₁, rest, hfirst, hcopies, rfl⟩ := copyAll_cons_eq_ok h
    cases hfirst with
    | missing hp => exact (ih hclear.tail hcopies).cons_missing hp
    | copied hlook hwrite =>
      have hrest := copyAll_wrote hb (i + 1) paths d₁
      rw [hcopies] at hrest
      exact (ih (hclear.tail.write_slot hb hwrite) hcopies).cons_copied hb hclear hlook hwrite hrest

theorem Copied.write_manifest (hb : dir ≠ "") (h : Copied dir i paths d entries d₁)
    (hw : d₁.write (manifestPath dir) c = .ok d') : Copied dir i paths d entries d' where
  paths_eq := h.paths_eq
  slot_eq := h.slot_eq
  notManifest := h.notManifest
  missing := h.missing
  secured := by
    refine ⟨fun e he slot hs => ?_, h.secured.apart⟩
    have hwrote := (wrote_of_write hw).1
    obtain ⟨c, hslot, hpath⟩ := h.secured.saved e he slot hs
    refine ⟨c, (hwrote.lookup_eq_ok_iff fun hm => ?_).mpr hslot,
      (hwrote.lookup_eq_ok_iff (h.notManifest e he (by simp [hs]))).mpr hpath⟩
    obtain ⟨j, -, hj⟩ := h.slot_eq e he slot hs
    refine not_pending_slotPath hb e.path (Nat.lt_succ_self j) ?_
    rw [← hj, hm]
    exact pending_manifestPath hb (j + 1)

/-! ## Filling the vault -/

theorem fill_wrote (hb : dir ≠ "") (paths : List String) (d : Disk) :
    Wrote (Pending dir 0) d (fill dir paths d).2 := by
  have hcopy := copyAll_wrote hb 0 paths d
  unfold fill
  split
  · rename_i hc
    rwa [hc] at hcopy
  · rename_i d₁ hc
    rw [hc] at hcopy
    split
    · exact hcopy
    · rename_i d' hw
      refine hcopy.trans ((wrote_of_write hw).1.mono fun q hq => ?_)
      rw [hq]
      exact pending_manifestPath hb 0

theorem fill_dir {set : BackupSet} (h : fill dir paths d = (.ok set, d')) : set.dir = dir := by
  unfold fill at h
  split at h
  · exact absurd (Prod.mk.inj h).1 (by simp)
  · split at h
    · exact absurd (Prod.mk.inj h).1 (by simp)
    · rw [← Except.ok.inj (Prod.mk.inj h).1]

theorem fill_ok {set : BackupSet} (hb : dir ≠ "") (hclear : Clear dir 0 paths d)
    (h : fill dir paths d = (.ok set, d')) :
    set.dir = dir ∧ Copied dir 0 paths d set.paths d' := by
  unfold fill at h
  split at h
  · exact absurd (Prod.mk.inj h).1 (by simp)
  · rename_i entries d₁ hc
    split at h
    · exact absurd (Prod.mk.inj h).1 (by simp)
    · rename_i hw
      obtain ⟨hset, hd⟩ := Prod.mk.inj h
      rw [← Except.ok.inj hset]
      rw [hd] at hw
      exact ⟨rfl, (copyAll_copied hb hclear hc).write_manifest hb hw⟩

/-! ## The vault as a whole -/

/-- Outside of the vault nothing was changed, but directories above it may have been made. -/
def Spared (dir : String) (d d' : Disk) : Prop :=
  ∀ q, ¬ Path.place dir <+: q → d'.at? q = d.at? q ∨
    (q ∈ (Path.above dir).map Path.place ∧ d.at? q = none ∧ d'.at? q = some .directory)

theorem Spared.refl (dir : String) (d : Disk) : Spared dir d d := fun _ _ => Or.inl rfl

theorem spared_of_made (h : Made ((dir :: Path.above dir).map Path.place) d d') :
    Spared dir d d' := by
  intro q hq
  refine (h q).imp_right fun ⟨hm, hn, hd⟩ => ⟨?_, hn, hd⟩
  rcases List.mem_cons.mp hm with rfl | hm
  · exact absurd (List.prefix_refl _) hq
  · exact hm

theorem Spared.congr (h : Spared dir d d₁)
    (he : ∀ q, ¬ Path.place dir <+: q → d'.at? q = d₁.at? q) : Spared dir d d' := by
  intro q hq
  rw [he q hq]
  exact h q hq

/-- Files outside of the vault are still there. -/
theorem Spared.lookup {t : String} {e : Entry} (h : Spared dir d d') (ht : Path.Outside dir t)
    (hl : d.lookup t = .ok e) : d'.lookup t = .ok e := by
  have keep : ∀ q e, ¬ Path.place dir <+: q → d.at? q = some e → d'.at? q = some e := by
    intro q e hq he
    rcases h q hq with h | ⟨-, hn, -⟩
    · rw [h, he]
    · rw [hn] at he
      exact absurd he (by simp)
  rw [lookup_eq_ok_iff] at hl ⊢
  exact ⟨hl.1.mono fun q hq => keep q _ (ht.way hq), keep _ _ ht.place hl.2⟩

theorem Spared.pathExists {t : String} (h : Spared dir d d') (ht : Path.Outside dir t)
    (he : d.pathExists t = true) : d'.pathExists t = true := by
  obtain ⟨hl, hn⟩ := pathExists_iff.mp he
  obtain ⟨e, hat⟩ := Option.ne_none_iff_exists'.mp hn
  obtain ⟨hl', hat'⟩ := lookup_eq_ok_iff.mp (h.lookup ht (lookup_eq_ok_iff.mpr ⟨hl, hat⟩))
  exact pathExists_iff.mpr ⟨hl', by rw [hat']; exact Option.some_ne_none e⟩

/-- A file that stands outside of the vault has stood there before. -/
theorem Spared.at?_file (h : Spared dir d d') (hq : ¬ Path.place dir <+: q)
    (hf : d'.at? q = some (.file c)) : d.at? q = some (.file c) := by
  rcases h q hq with he | ⟨-, -, hd⟩
  · rw [← he, hf]
  · rw [hd] at hf
    exact absurd hf (by simp)

/-- What a capture that succeeds leaves. -/
structure Captured (dir : String) (paths : List String) (d : Disk) (set : BackupSet) (d' : Disk) :
    Prop where
  dir_eq : set.dir = dir
  fresh : d.pathExists dir = false
  present : d'.isDirectory dir = true
  spared : Spared dir d d'
  copied : Copied dir 0 paths d set.paths d'
  kept : ∀ t ∈ paths, ∀ c, d.lookup t = .ok (.file c) → d'.lookup t = .ok (.file c)

/-- No file to be captured lies in the vault. -/
def Apart (dir : String) (paths : List String) (d : Disk) : Prop :=
  ∀ t ∈ paths, Path.place dir <+: Path.place t → ∀ c, d.at? (Path.place t) ≠ some (.file c)

theorem ne_empty_of_isDirectory (h : d.isDirectory dir = true) : dir ≠ "" :=
  (isDirectory_iff.mp h).1.valid.nonempty

/-- A capture that succeeds, at the moment when the directory of the vault has been made and is
still to be filled. -/
structure Halfway (dir : String) (paths : List String) (d bare : Disk) (set : BackupSet)
    (d' : Disk) : Prop where
  fresh : d.pathExists dir = false
  makes : d.makeDirectories dir = (.ok (), bare)
  fills : fill dir paths bare = (.ok set, d')

theorem exists_halfway {set : BackupSet} (h : capture dir paths d = (.ok set, d')) :
    ∃ bare, Halfway dir paths d bare set d' := by
  unfold capture at h
  split at h
  · exact absurd (Prod.mk.inj h).1 (by simp)
  · rename_i hfresh
    split at h
    · exact absurd (Prod.mk.inj h).1 (by simp)
    · rename_i made hmade
      split at h
      · rename_i hfill
        exact ⟨made, Bool.not_eq_true _ ▸ hfresh, hmade, by rwa [hfill]⟩
      · exact absurd (Prod.mk.inj h).1 (by simp)

section

variable {bare : Disk} {set : BackupSet}

theorem Halfway.made (h : Halfway dir paths d bare set d') :
    Made ((dir :: Path.above dir).map Path.place) d bare := by
  have hmade := makeDirectories_made d dir
  rwa [h.makes] at hmade

theorem Halfway.directory (h : Halfway dir paths d bare set d') : bare.isDirectory dir = true :=
  isDirectory_makeDirectories h.makes

theorem Halfway.nonempty (h : Halfway dir paths d bare set d') : dir ≠ "" :=
  ne_empty_of_isDirectory h.directory

theorem Halfway.wrote (h : Halfway dir paths d bare set d') :
    Wrote (Pending dir 0) bare d' := by
  have hwrote := fill_wrote h.nonempty paths bare
  rwa [h.fills] at hwrote

end

/-- A capture that succeeds leaves a directory for its vault. -/
theorem capture_present {set : BackupSet} (h : capture dir paths d = (.ok set, d')) :
    set.dir = dir ∧ d'.isDirectory dir = true := by
  obtain ⟨bare, hhalf⟩ := exists_halfway h
  exact ⟨fill_dir hhalf.fills, hhalf.wrote.isDirectory_iff.mpr hhalf.directory⟩

/-- What stands somewhere, a capture leaves there. -/
theorem pathExists_capture {set : BackupSet} (h : capture dir paths d = (.ok set, d'))
    (hp : d.pathExists path = true) : d'.pathExists path = true := by
  obtain ⟨bare, hhalf⟩ := exists_halfway h
  exact hhalf.wrote.pathExists (hhalf.made.pathExists hp)

theorem clear_of_made (hapart : Apart dir paths d)
    (hm : Made ((dir :: Path.above dir).map Path.place) d d₁) : Clear dir 0 paths d₁ := by
  intro t ht hp c hc
  rcases hm (Path.place t) with he | ⟨-, -, he⟩
  · exact hapart t ht hp.inside c (he ▸ hc)
  · rw [hc] at he
    exact absurd he (by simp)

theorem spared_of_capture {set : BackupSet} (h : capture dir paths d = (.ok set, d')) :
    Spared dir d d' := by
  obtain ⟨bare, hhalf⟩ := exists_halfway h
  exact (spared_of_made hhalf.made).congr fun q hq => hhalf.wrote.at?_eq fun hp => hq hp.inside

/-- **A capture that succeeds leaves a vault** with a slot for every file. -/
theorem capture_ok {set : BackupSet} (hapart : Apart dir paths d)
    (h : capture dir paths d = (.ok set, d')) : Captured dir paths d set d' := by
  obtain ⟨bare, hhalf⟩ := exists_halfway h
  have hclear := clear_of_made hapart hhalf.made
  obtain ⟨hset, hcopied⟩ := fill_ok hhalf.nonempty hclear hhalf.fills
  refine ⟨hset, hhalf.fresh, (capture_present h).2, spared_of_capture h,
    { hcopied with missing := fun e he hs => ?_ }, fun t ht c hl => ?_⟩
  · rw [← Bool.not_eq_true]
    intro hp
    exact absurd (hcopied.missing e he hs) (by rw [hhalf.made.pathExists hp]; decide)
  · have hl' := hhalf.made.lookup hl
    have hfree : ¬ Pending dir 0 (Path.place t) := fun hp =>
      hclear t ht hp c (lookup_eq_ok_iff.mp hl').2
    exact (hhalf.wrote.lookup_eq_ok_iff hfree).mpr hl'

/-- **A capture that fails leaves no vault**, and of its directories at most those above. -/
theorem capture_error {e : ReleaseError} (hp : Path.place dir ≠ [])
    (h : capture dir paths d = (.error e, d')) :
    Spared dir d d' ∧ (d'.isDirectory dir = true → d.pathExists dir = true) := by
  unfold capture at h
  split at h
  · rename_i hstale
    rw [← (Prod.mk.inj h).2]
    exact ⟨Spared.refl dir d, fun _ => hstale⟩
  · have hm := makeDirectories_made d dir
    split at h
    · rename_i cause made hmade
      have hd' : d' = made := (Prod.mk.inj h).2.symm
      rw [hmade] at hm
      rw [hd']
      refine ⟨spared_of_made hm, fun hd => ?_⟩
      rw [isDirectory_makeDirectories_refused hmade] at hd
      exact absurd hd (by simp)
    · rename_i made hmade
      rw [hmade] at hm
      have hdir := isDirectory_makeDirectories hmade
      split at h
      · exact absurd (Prod.mk.inj h).1 (by simp)
      · rename_i e' filled hfill
        have hwrote := fill_wrote (ne_empty_of_isDirectory hdir) paths made
        rw [hfill] at hwrote
        obtain ⟨gone, hgone⟩ : ∃ gone, filled.removeTree dir = .ok gone :=
          ⟨_, removeTree_eq_ok_iff.mpr ⟨hwrote.isDirectory_iff.mpr hdir, rfl⟩⟩
        have hd' : d' = gone := by
          rw [← (Prod.mk.inj h).2, Disk.attempt, hgone]
        rw [hd']
        refine ⟨(spared_of_made hm).congr fun q hq => ?_, fun hd => ?_⟩
        · rw [(removeTree_removed hgone).at?_eq hq, hwrote.at?_eq fun hp => hq hp.inside]
        · rw [isDirectory_removeTree hgone hp] at hd
          exact absurd hd (by simp)

/-- A file that was captured has a slot with its content. -/
theorem Captured.exists_slot {set : BackupSet} (h : Captured dir paths d set d') {t : String}
    (ht : t ∈ paths) (hl : d.lookup t = .ok (.file c)) :
    ∃ slot, ⟨t, some slot⟩ ∈ set.paths ∧ d'.lookup slot = .ok (.file c) := by
  have hmem := ht
  rw [← h.copied.paths_eq] at hmem
  obtain ⟨⟨path, slot⟩, he, rfl⟩ := List.mem_map.mp hmem
  cases slot with
  | none =>
    have hyes : d.pathExists path = true := by
      rw [pathExists_iff]
      rw [lookup_eq_ok_iff] at hl
      exact ⟨hl.1, by rw [hl.2]; exact Option.some_ne_none _⟩
    exact absurd (h.copied.missing _ he rfl) (by rw [hyes]; decide)
  | some slot =>
    obtain ⟨c', hslot, hpath⟩ := h.copied.secured.saved _ he slot rfl
    rw [h.kept path ht c hl] at hpath
    rw [Entry.file.inj (Except.ok.inj hpath)]
    exact ⟨slot, he, hslot⟩

end Slipway.Vault
