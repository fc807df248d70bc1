import Slipway.Proofs.Release.Run
import Slipway.Proofs.Vault.Intact

/-!
# Rolling back

About the abort of `ReleaseOrchestrator::execute` (`keel_core::release`). What is left when a
release fails.

* `execute_failed_keeps`: if no command touches the vault, nothing is lost. A touched file holds
  what it held, or its slot does; and if the path of the vault still leads there, the failure names
  the vault.
* `execute_failed_restores`: if the commands moreover keep the directories on the way, every touched
  file holds what it held, and there is no vault.
-/

namespace Slipway.Project

open Disk Vault Session

variable {σ : Type} {w : World σ} {p : Project} {o : ReleaseOptions} {plan : ReleasePlan}
variable {dir t slot : String} {paths : List String} {d d₀ d₁ : Disk} {set : BackupSet}
variable {progress : Progress} {e : ReleaseError} {f : ReleaseFailure} {s s₀ s₁ s' : Session σ}
variable {c : Content}

/-! ## The vault after rolling back -/

theorem rollBack_of_incomplete (h : (restore set s.disk).1.complete = false) :
    rollBack set progress e none s =
      (progress.failure e (some (restore set s.disk).1) (some set.dir),
        { s with disk := (restore set s.disk).2 }) := by
  unfold rollBack
  simp only [h, Bool.false_eq_true, if_false]

theorem rollBack_of_complete {gone : Disk} (h : (restore set s.disk).1.complete = true)
    (hd : discard set (restore set s.disk).2 = .ok gone) :
    rollBack set progress e none s =
      (progress.failure e (some (restore set s.disk).1) none, { s with disk := gone }) := by
  unfold rollBack
  simp only [h, if_true, hd]


/-- The content of a captured file is not lost: the file holds it, or its slot does. The vault is
named, and the slot found, exactly if the path of the vault leads anywhere. -/
def Preserved (dir t slot : String) (c : Content) (f : ReleaseFailure) (d : Disk) : Prop :=
  d.lookup t = .ok (.file c) ∨
    (d.at? (Path.place slot) = some (.file c) ∧
      (d.Leads dir ↔ f.backupDir = some dir ∧ d.isDirectory dir = true ∧
        d.lookup slot = .ok (.file c)))

theorem preserved_of_intact (hc : Captured dir paths d₀ set d₁) (hin : Intact dir d₁ d)
    (hm : ⟨t, some slot⟩ ∈ set.paths) (hl : d₁.lookup slot = .ok (.file c))
    (hb : d.Leads dir → f.backupDir = some dir) : Preserved dir t slot c f d := by
  refine Or.inr ⟨hc.at?_slot hin hm rfl hl, fun hd => ?_, fun h => (isDirectory_iff.mp h.2.1).1⟩
  have hdir := (hc.isDirectory_iff hin).mpr hd
  exact ⟨hb hd, hdir, hc.lookup_slot hin hdir hm rfl hl⟩

theorem rollBack_preserved (hc : Captured dir paths d₀ set d₁) (hin : Intact dir d₁ s.disk)
    (hout : ∀ e ∈ set.paths, Path.Outside dir e.path) (hm : ⟨t, some slot⟩ ∈ set.paths)
    (hl : d₁.lookup slot = .ok (.file c)) :
    Preserved dir t slot c (rollBack set progress e none s).1
      (rollBack set progress e none s).2.disk := by
  obtain rfl := hc.dir_eq
  have hres := hc.restored hin
  have hin' := hc.intact_restore hin fun e he => (hout e he).place
  have hwrote := hres.wrote hc.copied.secured
  by_cases hdir : s.disk.isDirectory set.dir = true
  · cases hcomp : (restore set s.disk).1.complete with
    | false =>
      rw [rollBack_of_incomplete hcomp]
      exact preserved_of_intact hc hin' hm hl fun _ => rfl
    | true =>
      obtain ⟨gone, hgone, hdis⟩ := discard_of_directory (hwrote.isDirectory_iff.mpr hdir)
      rw [rollBack_of_complete hcomp hdis]
      have hpath := hc.copied.secured.lookup_path hm rfl hl
      have hret := hres.returns_of_complete hcomp hm ((hc.kept_iff hin hm rfl).mpr hdir)
      exact Or.inl ((removeTree_removed hgone).lookup (hout _ hm)
        (hres.lookup hc.copied.secured hm hret hpath))
  · obtain ⟨hcomp, hsame⟩ := hc.restore_of_not_directory hin (Bool.not_eq_true _ ▸ hdir)
    have hno : ¬ (restore set s.disk).2.Leads set.dir := fun h =>
      hdir ((hc.isDirectory_iff hin).mpr (hwrote.leads_iff.mp h))
    rw [rollBack_of_complete hcomp (discard_of_missing hno)]
    exact preserved_of_intact hc hin' hm hl fun h => absurd h hno

theorem Ends.preserved (h : Ends set s₁ f s') (hc : Captured dir paths d₀ set d₁)
    (hin : Intact dir d₁ s₁.disk) (hout : ∀ e ∈ set.paths, Path.Outside dir e.path)
    (hm : ⟨t, some slot⟩ ∈ set.paths) (hl : d₁.lookup slot = .ok (.file c)) :
    Preserved dir t slot c f s'.disk := by
  cases h with
  | rolledBack progress e _ => exact rollBack_preserved hc hin hout hm hl
  | late progress _ =>
    refine preserved_of_intact hc hin hm hl fun _ => ?_
    rw [← hc.dir_eq]
    rfl

/-! ## Commands that leave the vault alone -/

/-- No command touches the vault. -/
def SparesVault (w : World σ) (dir : String) : Prop :=
  ∀ c d m q, Path.place dir <+: q → (w.launch c d m).disk.at? q = d.at? q

theorem apart_of_outside (hout : ∀ t ∈ paths, Path.Outside dir t) (d : Disk) : Apart dir paths d :=
  fun t ht hp => absurd hp (hout t ht).place

theorem intact_of_reaches (hw : SparesVault w dir) (hr : Reaches w s₀ s₁)
    (hin : Intact dir d₁ s₀.disk) : Intact dir d₁ s₁.disk :=
  hr.disk (fun c d m h q hq => (hw c d m q hq).trans (h q hq)) hin

section

variable [Regex.SizeLimit]

theorem intact_updateFiles (hout : ∀ t ∈ p.touched, Path.Outside dir t) (o : ReleaseOptions)
    (plan : ReleasePlan) (d₁ : Disk) : Intact dir d₁ (p.updateFiles o plan d₁).2 := by
  intro q hq
  refine (updateFiles_wrote p o plan d₁).at?_eq fun hm => ?_
  obtain ⟨⟨t, ht, rfl⟩, -⟩ := hm
  exact (hout t ht).place hq

/-- The vault at the end of a run that fails: it was captured, and left alone. -/
theorem Secures.captured_intact (h : Secures p o plan s set d₁ s₀)
    (hplan : p.prepare o d₀ = .ok plan) (hout : ∀ t ∈ plan.touched, Path.Outside p.vaultDir t)
    (hw : SparesVault w p.vaultDir) (hr : Reaches w s₀ s₁) :
    Captured p.vaultDir plan.touched s.disk set d₁ ∧ Intact p.vaultDir d₁ s₁.disk ∧
      ∀ e ∈ set.paths, Path.Outside p.vaultDir e.path := by
  have hc := capture_ok (apart_of_outside hout s.disk) h.captured
  refine ⟨hc, intact_of_reaches hw hr ?_, fun e he => hout _ ?_⟩
  · rw [h.updated]
    rw [(prepare_eq_ok hplan).2] at hout
    exact intact_updateFiles hout o plan d₁
  · rw [← hc.copied.paths_eq]
    exact List.mem_map_of_mem he

/-- **Nothing is lost when a release fails**, whatever the commands do outside of the vault: a
touched file holds what it held, or the slot that was recorded for it does. The failure then names
the vault, and the slot is found, exactly if the path of the vault still leads anywhere. A stop
after an effect that others see leaves the files as they are. -/
theorem execute_failed_keeps (hplan : p.prepare o d₀ = .ok plan)
    (hout : ∀ t ∈ plan.touched, Path.Outside p.vaultDir t) (hw : SparesVault w p.vaultDir)
    (hrun : p.execute w o plan s = (.failed f, s')) :
    (∀ t ∈ plan.touched, ∀ c, s.disk.lookup t = .ok (.file c) →
      s'.disk.lookup t = .ok (.file c) ∨
        ∃ set d₁ slot, capture p.vaultDir plan.touched s.disk = (.ok set, d₁) ∧
          ⟨t, some slot⟩ ∈ set.paths ∧ s'.disk.at? (Path.place slot) = some (.file c) ∧
          (s'.disk.Leads p.vaultDir ↔ f.backupDir = some p.vaultDir ∧
            s'.disk.isDirectory p.vaultDir = true ∧ s'.disk.lookup slot = .ok (.file c))) ∧
    (f.error = .interrupted → f.isIrreversible = true →
      f.rolledBack = false ∧ f.backupDir = some p.vaultDir ∧
        ∃ set d₁ s₀, Secures p o plan s set d₁ s₀ ∧ Reaches w s₀ s' ∧
          ∀ t ∈ plan.touched, ∀ c, s.disk.lookup t = .ok (.file c) →
            ∃ slot, ⟨t, some slot⟩ ∈ set.paths ∧
              s'.disk.at? (Path.place slot) = some (.file c) ∧
              (s'.disk.Leads p.vaultDir → s'.disk.lookup slot = .ok (.file c))) := by
  rcases execute_failed hplan hrun with hearly | ⟨set, d₁, s₀, s₁, hsec, hreach, hends⟩
  · refine ⟨fun t ht c hl => Or.inl ?_, fun _ hlive => ?_⟩
    · rcases hearly.disk with hd | ⟨e, he⟩
      · rwa [hd]
      · exact (capture_error (hout t ht).place_ne_nil he).1.lookup (hout t ht) hl
    · unfold ReleaseFailure.isIrreversible at hlive
      rw [hearly.live] at hlive
      exact absurd hlive (by decide)
  · obtain ⟨hc, hin, hout'⟩ := hsec.captured_intact hplan hout hw hreach
    refine ⟨fun t ht c hl => ?_, fun herr hlive => ?_⟩
    · obtain ⟨slot, hm, hslot⟩ := hc.exists_slot ht hl
      rcases hends.preserved hc hin hout' hm hslot with h | ⟨hat, hiff⟩
      · exact Or.inl h
      · exact Or.inr ⟨set, d₁, slot, hsec.captured, hm, hat, hiff⟩
    · cases hends with
      | rolledBack progress e hlive' =>
        have hnil : progress.live = [] := hlive' herr
        have : (!progress.live.isEmpty) = true := hlive
        rw [hnil] at this
        exact absurd this (by decide)
      | late progress hlive' =>
        refine ⟨rfl, by rw [← hc.dir_eq]; rfl, set, d₁, s₀, hsec, hreach, fun t ht c hl => ?_⟩
        obtain ⟨slot, hm, hslot⟩ := hc.exists_slot ht hl
        refine ⟨slot, hm, hc.at?_slot hin hm rfl hslot, fun hd => ?_⟩
        exact hc.lookup_slot hin ((hc.isDirectory_iff hin).mpr hd) hm rfl hslot

end

/-! ### The small project -/

/-- A world in which every command changes the disk in one way, and fails. -/
def failingWorld (change : Disk → Disk) : World Unit where
  launch := fun _ d m => ⟨.ok ⟨1, "", ""⟩, change d, false, m⟩
  ask := fun _ m => ⟨true, false, m⟩

/-- The end of the release in such a world. -/
def tinyRun (backup : String) (artifacts : List Artifact) (change : Disk → Disk) :
    ReleaseOutcome × Session Unit :=
  (tiny backup artifacts).execute (failingWorld change) tinyOptions (tinyPlan backup artifacts)
    (Session.start tinyDisk ())

/-- The failure of the build, with a report about the files. -/
def buildFailure (report : RestoreReport) : ReleaseFailure where
  error := .step ⟨.build, "Building package", ⟨"make", []⟩, "exited with status 1",
    some ⟨1, "", ""⟩, some report⟩
  state := .filesMutated
  restore := some report
  live := []
  localEffects := []
  backupDir := none

/-- Empties the changelog. -/
def emptyChangelog (d : Disk) : Disk := d.put ["app", "CHANGELOG.md"] (.file (.text ""))

/-- Removes the project. -/
def removeProject (d : Disk) : Disk := d.cut ["app"]

theorem outside_tiny : ∀ t ∈ (tinyPlan "kept" []).touched,
    Path.Outside (tiny "kept" []).vaultDir t := by
  decide +kernel

theorem tinyRun_emptyChangelog : tinyRun "kept" [] emptyChangelog =
    (.failed (buildFailure ⟨["app/CHANGELOG.md"], [], []⟩), (tinyRun "kept" [] emptyChangelog).2) :=
  pair_of_fst (by decide +kernel)

theorem lookup_tinyDisk : tinyDisk.lookup "app/CHANGELOG.md" = .ok (.file tinyText) :=
  ok_of_toOption (by decide +kernel)

theorem mem_touched_tiny : "app/CHANGELOG.md" ∈ (tinyPlan "kept" []).touched := by
  decide +kernel

theorem sparesVault_emptyChangelog (dir : String)
    (hdir : ¬ Path.place dir <+: ["app", "CHANGELOG.md"]) :
    SparesVault (failingWorld emptyChangelog) dir :=
  fun _ _ _ _ hq => at?_put_of_ne fun he => hdir (he ▸ hq)

theorem execute_failed_keeps_tiny :
    let s' := (tinyRun "kept" [] emptyChangelog).2
    let f := buildFailure ⟨["app/CHANGELOG.md"], [], []⟩
    (tiny "kept" []).prepare tinyOptions tinyDisk = .ok (tinyPlan "kept" []) ∧
    (∀ t ∈ (tinyPlan "kept" []).touched, Path.Outside (tiny "kept" []).vaultDir t) ∧
    SparesVault (failingWorld emptyChangelog) (tiny "kept" []).vaultDir ∧
    tinyRun "kept" [] emptyChangelog = (.failed f, s') ∧
    (s'.disk.lookup "app/CHANGELOG.md" = .ok (.file tinyText) ∨
      ∃ set d₁ slot, capture (tiny "kept" []).vaultDir (tinyPlan "kept" []).touched tinyDisk =
          (.ok set, d₁) ∧
        ⟨"app/CHANGELOG.md", some slot⟩ ∈ set.paths ∧
        s'.disk.at? (Path.place slot) = some (.file tinyText) ∧
        (s'.disk.Leads (tiny "kept" []).vaultDir ↔ f.backupDir = some (tiny "kept" []).vaultDir ∧
          s'.disk.isDirectory (tiny "kept" []).vaultDir = true ∧
          s'.disk.lookup slot = .ok (.file tinyText))) :=
  have hw := sparesVault_emptyChangelog (tiny "kept" []).vaultDir (by decide +kernel)
  ⟨prepare_tiny, outside_tiny, hw, tinyRun_emptyChangelog,
    (execute_failed_keeps prepare_tiny outside_tiny hw
      tinyRun_emptyChangelog).1 _ mem_touched_tiny _ lookup_tinyDisk⟩

/-- A command that removes the directories on the way to the vault makes the release lose files:
nothing is copied back, and no vault is named. -/
theorem execute_failed_loses :
    let s' := (tinyRun "../kept" [] removeProject).2
    let f := buildFailure ⟨[], ["app/CHANGELOG.md"], []⟩
    (tiny "../kept" []).prepare tinyOptions tinyDisk = .ok (tinyPlan "../kept" []) ∧
    (∀ t ∈ (tinyPlan "../kept" []).touched, Path.Outside (tiny "../kept" []).vaultDir t) ∧
    SparesVault (failingWorld removeProject) (tiny "../kept" []).vaultDir ∧
    tinyRun "../kept" [] removeProject = (.failed f, s') ∧
    "app/CHANGELOG.md" ∈ (tinyPlan "../kept" []).touched ∧
    tinyDisk.lookup "app/CHANGELOG.md" = .ok (.file tinyText) ∧
    ¬ (s'.disk.lookup "app/CHANGELOG.md" = .ok (.file tinyText) ∨ f.backupDir ≠ none) := by
  have hplace : Path.place (tiny "../kept" []).vaultDir = ["kept"] := by decide +kernel
  refine ⟨ok_of_toOption (by decide +kernel), by decide +kernel, fun c d m q hq => ?_,
    pair_of_fst (by decide +kernel), by decide +kernel, lookup_tinyDisk, ?_⟩
  · rw [hplace] at hq
    show (d.cut ["app"]).at? q = d.at? q
    rw [at?_cut, if_neg]
    rintro ⟨-, hq'⟩
    obtain ⟨a, rfl⟩ := hq
    obtain ⟨b, hb⟩ := hq'
    exact absurd (List.cons.inj hb).1 (by decide)
  · rintro (h | h)
    · exact absurd (congrArg Except.toOption h) (by decide +kernel)
    · exact h rfl

/-! ## Commands that work around the vault -/

/-- Commands may write and remove files, but not in the vault. They keep the directories on the way
to the vault and to the touched files, and put no directory in the place of such a file. -/
structure WorksAround (w : World σ) (dir : String) (touched : List String) : Prop where
  vault : SparesVault w dir
  ways : ∀ c d m, ∀ t ∈ dir :: touched, ∀ q ∈ Path.way t, d.at? q = some .directory →
    (w.launch c d m).disk.at? q = some .directory
  files : ∀ c d m, ∀ t ∈ touched, d.at? (Path.place t) ≠ some .directory →
    (w.launch c d m).disk.at? (Path.place t) ≠ some .directory

/-- The disk on which such commands have worked: the vault and the touched files are still within
reach. -/
structure InReach (dir : String) (touched : List String) (d₁ d : Disk) : Prop where
  intact : Intact dir d₁ d
  ways : ∀ t ∈ dir :: touched, ∀ q ∈ Path.way t, d₁.at? q = some .directory →
    d.at? q = some .directory
  files : ∀ t ∈ touched, d₁.at? (Path.place t) ≠ some .directory →
    d.at? (Path.place t) ≠ some .directory

theorem inReach_of_reaches {touched : List String} (hw : WorksAround w dir touched)
    (hr : Reaches w s₀ s₁) (h : InReach dir touched d₁ s₀.disk) :
    InReach dir touched d₁ s₁.disk := by
  refine hr.disk (P := InReach dir touched d₁) (fun c d m h => ⟨?_, ?_, ?_⟩) h
  · exact fun q hq => (hw.vault c d m q hq).trans (h.intact q hq)
  · exact fun t ht q hq hd => hw.ways c d m t ht q hq (h.ways t ht q hq hd)
  · exact fun t ht hd => hw.files c d m t ht (h.files t ht hd)

section

variable [Regex.SizeLimit]

theorem inReach_updateFiles (hout : ∀ t ∈ p.touched, Path.Outside dir t) (o : ReleaseOptions)
    (plan : ReleasePlan) (d₁ : Disk) :
    InReach dir p.touched d₁ (p.updateFiles o plan d₁).2 := by
  have hwrote := updateFiles_wrote p o plan d₁
  exact ⟨intact_updateFiles hout o plan d₁, fun t _ q _ hd => (hwrote.directory_iff q).mpr hd,
    fun t _ hd h => hd ((hwrote.directory_iff _).mp h)⟩

end

theorem InReach.isDirectory (h : InReach dir paths d₁ d) (hc : Captured dir paths d₀ set d₁) :
    d.isDirectory dir = true := by
  rw [hc.isDirectory_iff h.intact]
  exact (isDirectory_iff.mp hc.present).1.mono (h.ways dir List.mem_cons_self)

theorem InReach.accepts (h : InReach dir paths d₁ d) (ht : t ∈ paths)
    (hl : d₁.lookup t = .ok (.file c)) : d.Accepts t := by
  obtain ⟨hlead, hat⟩ := lookup_eq_ok_iff.mp hl
  exact ⟨hlead.mono (h.ways t (List.mem_cons_of_mem dir ht)), h.files t ht (by simp [hat])⟩

theorem InReach.returns (h : InReach dir paths d₁ d) (hc : Captured dir paths d₀ set d₁)
    (hm : ⟨t, some slot⟩ ∈ set.paths) : Returns d ⟨t, some slot⟩ := by
  obtain ⟨c, -, hl⟩ := hc.copied.secured.saved _ hm slot rfl
  refine ⟨(hc.kept_iff h.intact hm rfl).mpr (h.isDirectory hc), h.accepts ?_ hl⟩
  rw [← hc.copied.paths_eq]
  exact List.mem_map_of_mem (f := CapturedPath.path) hm

theorem InReach.complete (h : InReach dir paths d₁ d) (hc : Captured dir paths d₀ set d₁) :
    (restore set d).1.complete = true := by
  have hnone : (restore set d).1.failed.map Prod.fst = [] := by
    rw [List.eq_nil_iff_forall_not_mem]
    intro t ht
    obtain ⟨⟨path, slot⟩, hm, ⟨hkept, hno⟩, -⟩ := ((hc.restored h.intact).failed_iff t).mp ht
    obtain ⟨slot', hs, -⟩ := id hkept
    obtain rfl : slot = some slot' := hs
    exact hno (h.returns hc hm).2
  unfold RestoreReport.complete
  rw [List.map_eq_nil_iff.mp hnone]
  rfl

/-- What rolling back leaves when all is within reach: no vault, every captured file as it was, and
nothing else changed outside of the vault. -/
theorem rollBack_inReach (hc : Captured dir paths d₀ set d₁) (h : InReach dir paths d₁ s.disk)
    (hout : ∀ t ∈ paths, Path.Outside dir t) (hp : Path.place dir ≠ []) (progress : Progress)
    (e : ReleaseError) :
    (rollBack set progress e none s).1.backupDir = none ∧
    (rollBack set progress e none s).2.disk.isDirectory dir = false ∧
    (∀ t slot c, ⟨t, some slot⟩ ∈ set.paths → d₁.lookup t = .ok (.file c) →
      (rollBack set progress e none s).2.disk.lookup t = .ok (.file c)) ∧
    (∀ q, ¬ Path.place dir <+: q → (rollBack set progress e none s).2.disk.at? q = s.disk.at? q ∨
      ∃ c, d₁.at? q = some (.file c)) := by
  obtain rfl := hc.dir_eq
  have hres := hc.restored h.intact
  have hsec := hc.copied.secured
  obtain ⟨gone, hgone, hdis⟩ :=
    discard_of_directory ((hres.wrote hsec).isDirectory_iff.mpr (h.isDirectory hc))
  have hremoved := removeTree_removed hgone
  rw [rollBack_of_complete (h.complete hc) hdis]
  refine ⟨rfl, isDirectory_removeTree hgone hp, fun t slot c hm hl => ?_, fun q hq => ?_⟩
  · refine hremoved.lookup (hout t ?_) (hres.lookup hsec hm (h.returns hc hm) hl)
    rw [← hc.copied.paths_eq]
    exact List.mem_map_of_mem (f := CapturedPath.path) hm
  · show gone.at? q = _ ∨ _
    rw [hremoved.at?_eq hq]
    by_cases hb : Back set.paths s.disk q
    · obtain ⟨e, he, ⟨⟨slot, hs, -⟩, -⟩, rfl⟩ := hb
      obtain ⟨c, -, hl⟩ := hsec.saved e he slot hs
      exact Or.inr ⟨c, (lookup_eq_ok_iff.mp hl).2⟩
    · exact Or.inl (hres.rest q hb)

/-! ## Nothing is left behind -/

/-- The capture makes a directory above the vault, at a place where nothing stood. -/
def MadeAbove (p : Project) (plan : ReleasePlan) (d : Disk) (q : Place) : Prop :=
  q ∈ (Path.above p.vaultDir).map Path.place ∧ d.at? q = none ∧
    (capture p.vaultDir plan.touched d).2.at? q = some .directory

theorem absent_or_madeAbove (h : Spared p.vaultDir d (capture p.vaultDir plan.touched d).2)
    {q : Place} (hq : ¬ Path.place p.vaultDir <+: q) (hn : d.at? q = none) :
    (capture p.vaultDir plan.touched d).2.at? q = none ∨ MadeAbove p plan d q := by
  rcases h q hq with he | hmade
  · exact Or.inl (he.trans hn)
  · exact Or.inr hmade

/-- A directory that was made above the vault is on the way to it, and stays. -/
theorem MadeAbove.stays {q : Place} (h : MadeAbove p plan s.disk q)
    (hcap : (capture p.vaultDir plan.touched s.disk).2 = d₁)
    (hin : InReach p.vaultDir plan.touched d₁ d) (hq : ¬ Path.place p.vaultDir <+: q) :
    d.at? q = some .directory := by
  obtain ⟨hm, -, hd⟩ := h
  obtain ⟨up, hup, rfl⟩ := List.mem_map.mp hm
  rw [hcap] at hd
  rcases Path.mem_way_of_above hup (Or.inl rfl) with he | hway
  · rw [he] at hq
    exact absurd (List.prefix_refl _) hq
  · exact hin.ways p.vaultDir List.mem_cons_self _ hway hd

/-- A release is undone. Every touched file holds what it held, no vault is named or left, and where
nothing stood before a command made what stands there now. There is one exception: a directory that
was made above the vault is still there. -/
structure Undone (w : World σ) (p : Project) (plan : ReleasePlan) (s : Session σ)
    (f : ReleaseFailure) (s' : Session σ) : Prop where
  files : ∀ t ∈ plan.touched, ∀ c, s.disk.lookup t = .ok (.file c) →
    s'.disk.lookup t = .ok (.file c)
  absent : ∀ t ∈ plan.touched, s.disk.at? (Path.place t) = none →
    s'.disk.at? (Path.place t) = none ∨ Makes w s s' (Path.place t) ∨
      (MadeAbove p plan s.disk (Path.place t) ∧ s'.disk.at? (Path.place t) = some .directory)
  unnamed : f.backupDir = none
  removed : s'.disk.isDirectory p.vaultDir = true → s.disk.pathExists p.vaultDir = true

theorem FailsEarly.undone (h : FailsEarly p plan s f s')
    (hout : ∀ t ∈ plan.touched, Path.Outside p.vaultDir t) (hp : Path.place p.vaultDir ≠ []) :
    Undone w p plan s f s' := by
  rcases h.disk with hd | ⟨e, he⟩
  · refine ⟨fun t _ c hl => ?_, fun t _ hn => Or.inl ?_, h.backupDir, ?_⟩
    · rwa [hd]
    · rwa [hd]
    · rw [hd]
      exact pathExists_of_isDirectory
  · obtain ⟨hspared, hdir⟩ := capture_error hp he
    refine ⟨fun t ht c hl => hspared.lookup (hout t ht) hl, fun t ht hn => ?_, h.backupDir, hdir⟩
    have hcap : (capture p.vaultDir plan.touched s.disk).2 = s'.disk := by rw [he]
    rw [← hcap] at hspared ⊢
    exact (absent_or_madeAbove hspared (hout t ht).place hn).imp_right fun h => Or.inr ⟨h, h.2.2⟩

section

variable [Regex.SizeLimit]

theorem absent_or_made (hsec : Secures p o plan s set d₁ s₀)
    (hc : Captured p.vaultDir plan.touched s.disk set d₁) (hreach : Reaches w s₀ s₁)
    (hin : InReach p.vaultDir plan.touched d₁ s₁.disk) (hev : s'.events = s₁.events) {q : Place}
    (hq : ¬ Path.place p.vaultDir <+: q) (hn : s.disk.at? q = none)
    (hroll : s'.disk.at? q = s₁.disk.at? q ∨ ∃ c, d₁.at? q = some (.file c)) :
    s'.disk.at? q = none ∨ Makes w s s' q ∨
      (MadeAbove p plan s.disk q ∧ s'.disk.at? q = some .directory) := by
  have hcap : (capture p.vaultDir plan.touched s.disk).2 = d₁ := by rw [hsec.captured]
  have hspared : Spared p.vaultDir s.disk (capture p.vaultDir plan.touched s.disk).2 :=
    hcap ▸ hc.spared
  rcases absent_or_madeAbove hspared hq hn with h₁ | h
  · rw [hcap] at h₁
    rcases hroll with he | ⟨c, hfile⟩
    · rw [he]
      by_cases hend : s₁.disk.at? q = none
      · exact Or.inl hend
      · have h₀ : s₀.disk.at? q = none := by
          rw [hsec.updated, (updateFiles_wrote p o plan d₁).at?_eq fun hm => hm.2 h₁, h₁]
        obtain ⟨new, hnew⟩ := hsec.events
        exact Or.inr (Or.inl (((hreach.makes h₀ hend).prepend hnew).append
          (e := []) (by rw [hev, List.append_nil])))
    · rw [h₁] at hfile
      exact absurd hfile (by simp)
  · refine Or.inr (Or.inr ⟨h, ?_⟩)
    rcases hroll with he | ⟨c, hfile⟩
    · rw [he]
      exact h.stays hcap hin hq
    · rw [← hcap, h.2.2] at hfile
      exact absurd hfile (by simp)

theorem Secures.undone (h : Secures p o plan s set d₁ s₀)
    (hout : ∀ t ∈ plan.touched, Path.Outside p.vaultDir t) (hp : Path.place p.vaultDir ≠ [])
    (hreach : Reaches w s₀ s₁) (hin : InReach p.vaultDir plan.touched d₁ s₁.disk)
    (progress : Progress) (e : ReleaseError) :
    Undone w p plan s (rollBack set progress e none s₁).1 (rollBack set progress e none s₁).2 := by
  have hc := capture_ok (apart_of_outside hout s.disk) h.captured
  obtain ⟨hback, hgone, hfiles, hrest⟩ := rollBack_inReach hc hin hout hp progress e
  have hev : (rollBack set progress e none s₁).2.events = s₁.events := rfl
  refine ⟨fun t ht c hl => ?_, fun t ht hn => ?_, hback, fun hd => ?_⟩
  · obtain ⟨slot, hm, -⟩ := hc.exists_slot ht hl
    exact hfiles t slot c hm (hc.kept t ht c hl)
  · exact absent_or_made h hc hreach hin hev (hout t ht).place hn (hrest _ (hout t ht).place)
  · rw [hgone] at hd
    exact absurd hd (by simp)

end

theorem worksAround_emptyChangelog (dir : String) (touched : List String)
    (hdir : ¬ Path.place dir <+: ["app", "CHANGELOG.md"])
    (hways : ∀ t ∈ dir :: touched, ∀ q ∈ Path.way t, q ≠ ["app", "CHANGELOG.md"]) :
    WorksAround (failingWorld emptyChangelog) dir touched where
  vault := sparesVault_emptyChangelog dir hdir
  ways := fun c d m t ht q hq hd => (at?_put_of_ne (hways t ht q hq)).trans hd
  files := by
    intro c d m t _ hd
    show (d.put _ _).at? _ ≠ _
    rw [at?_put]
    split
    · simp
    · exact hd

/-- An optional artifact that does not exist. -/
def missingArtifact : Artifact := { Artifact.ofSearch "data" "v" with optional := true }

end Slipway.Project
