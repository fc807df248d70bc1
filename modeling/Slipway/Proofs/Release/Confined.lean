import Slipway.Proofs.Release.Account
import Slipway.Proofs.Release.Files
import Slipway.Proofs.Vault.Confined

/-!
# Which files a release changes

About `ReleaseOrchestrator::execute` (`keel_core::release`). A release changes the touched files,
those of its vault, and the file that holds the notes while it is published. The last one is removed
afterwards, whether it was there before or not.

* `World.SparesFiles`: the programs change no regular file. Directories may come and go.
* `Publication.confined`: what a publication changes, and that its notes are removed.
* `execute_confined`: the files that a release leaves as they are, however it ends (`Confines`).
* `execute_removes_file`: the notes take the place of a file that was there.
-/

namespace Slipway

open Disk Vault Session

variable {σ : Type} {w : World σ}

/-- The programs of a world change no regular file of a tree, and leave it a tree. -/
structure World.SparesFiles (w : World σ) : Prop where
  files : ∀ c d m q content, d.IsTree →
    ((w.launch c d m).disk.at? q = some (.file content) ↔ d.at? q = some (.file content))
  tree : ∀ c d m, d.IsTree → (w.launch c d m).disk.IsTree

/-- A place of a file that the plan touches. -/
def ReleasePlan.Touches (plan : ReleasePlan) (q : Place) : Prop :=
  ∃ t ∈ plan.touched, Path.place t = q

namespace Project

variable {p : Project} {o : ReleaseOptions} {plan : ReleasePlan} {set : BackupSet}
variable {step : Step} {steps : List Step} {progress progress' : Progress}
variable {s s₁ s' : Session σ} {f : ReleaseFailure} {d d₀ d₁ d' : Disk} {S T : Place → Prop}

/-- A place in the vault. -/
def InVault (p : Project) (q : Place) : Prop := Path.place p.vaultDir <+: q

/-- The place of the file that holds the notes. -/
def IsNotes (p : Project) (q : Place) : Prop := q = Path.place p.host.notesPath

/-! ## The programs, the update and the vault -/

theorem launch_confined (hw : w.SparesFiles) (ht : d.IsTree) (c : Command) (m : σ)
    (S T : Place → Prop) : Confined S T d (w.launch c d m).disk :=
  confined_of_files T fun q _ content => hw.files c d m q content ht

theorem reaches_confined (hw : w.SparesFiles) (ht : s.disk.IsTree) (h : Reaches w s s')
    (S T : Place → Prop) : s'.disk.IsTree ∧ Confined S T s.disk s'.disk := by
  refine h.disk (P := fun d => d.IsTree ∧ Confined S T s.disk d) ?_ ⟨ht, Confined.refl S T _⟩
  rintro c d m ⟨htree, hconfined⟩
  exact ⟨hw.tree c d m htree, hconfined.trans (launch_confined hw htree c m S T)⟩

theorem emptyVault_removed (p : Project) (set : BackupSet) (d : Disk) :
    Removed (Path.place set.dir) d (p.emptyVault set d).2 := by
  unfold emptyVault
  split
  · rename_i hd
    exact discard_removed hd
  · exact fun q => Or.inl rfl

theorem rollBack_confined (hset : set.dir = p.vaultDir) (e : ReleaseError)
    (h : Files p.InVault set.paths s.disk)
    (hT : ∀ e ∈ set.paths, T (Path.place e.path)) :
    Confined p.InVault T s.disk (rollBack set progress e none s).2.disk := by
  have hrestore := restore_confined h hT
  unfold rollBack
  simp only
  split
  · split
    · rename_i hd
      have hremoved := (discard_removed hd).confined T
      rw [hset] at hremoved
      exact hrestore.trans hremoved
    · exact hrestore
  · exact hrestore

theorem Ends.confined (h : Ends set s₁ f s') (hset : set.dir = p.vaultDir)
    (hfiles : Files p.InVault set.paths s₁.disk)
    (hT : ∀ e ∈ set.paths, T (Path.place e.path)) :
    Confined p.InVault T s₁.disk s'.disk := by
  cases h with
  | rolledBack progress e _ => exact rollBack_confined hset e hfiles hT
  | late progress _ => exact Confined.refl _ T _

section

variable [Regex.SizeLimit]

theorem updateFiles_confined (p : Project) (o : ReleaseOptions) (plan : ReleasePlan) (d : Disk)
    (S : Place → Prop) : Confined S p.Touches d (p.updateFiles o plan d).2 :=
  (Wrote.confined_over (updateFiles_wrote p o plan d) fun _ hq _ => hq.2).mono (fun _ => id)
    fun _ hq => hq.1

theorem isTree_updateFiles (ht : d.IsTree) (p : Project) (o : ReleaseOptions)
    (plan : ReleasePlan) : (p.updateFiles o plan d).2.IsTree :=
  ht.wrote (updateFiles_wrote p o plan d) fun _ hq hn => absurd hn hq.2

/-! ## A release that fails -/

/-- A release that fails changes only touched files, and those of its vault. -/
theorem failed_confined (hplan : p.prepare o d₀ = .ok plan) (hw : w.SparesFiles)
    (ht : s.disk.IsTree) (h : p.execute w o plan s = (.failed f, s')) :
    Confined p.InVault p.Touches s.disk s'.disk := by
  rcases execute_failed hplan h with hearly | ⟨set, d₁, s₀, s₁, hsec, hreach, hends⟩
  · rcases hearly.disk with hd | ⟨e, hcap⟩
    · rw [hd]
      exact Confined.refl _ _ _
    · have hconfined := capture_confined p.vaultDir plan.touched s.disk p.Touches
      rwa [hcap] at hconfined
  · have hcapture := capture_confined p.vaultDir plan.touched s.disk p.Touches
    rw [hsec.captured] at hcapture
    have hupdate := updateFiles_confined p o plan d₁ p.InVault
    rw [← hsec.updated] at hupdate
    have htree : s₀.disk.IsTree := by
      rw [hsec.updated]
      exact isTree_updateFiles (isTree_capture ht hsec.captured) p o plan
    obtain ⟨-, hrun⟩ := reaches_confined hw htree hreach p.InVault p.Touches
    have hbefore := (hcapture.trans hupdate).trans hrun
    have hfiles : Files p.InVault set.paths s.disk :=
      fun e he => (set_files hsec.captured e he).2
    refine hbefore.trans (hends.confined (capture_present hsec.captured).1
      (hfiles.confined hbefore) fun e he => ⟨e.path, ?_, rfl⟩)
    rw [← (prepare_eq_ok hplan).2]
    exact (set_files hsec.captured e he).1

end

/-! ## A publication -/

/-- Since an earlier session, the command that publishes the release was launched on a disk. -/
def Published (p : Project) (plan : ReleasePlan) (d : Disk) (s s' : Session σ) : Prop :=
  ∃ new result stop, s'.events = s.events ++ new ∧
    .launched (p.host.createCommand d plan.tag plan.next) d result stop ∈ new

theorem Published.prepend (h : Published p plan d s₁ s') {e : List Event}
    (he : s₁.events = s.events ++ e) : Published p plan d s s' := by
  obtain ⟨new, result, stop, hnew, hm⟩ := h
  refine ⟨e ++ new, result, stop, ?_, List.mem_append_right e hm⟩
  rw [hnew, he, List.append_assoc]

/-- The notes were removed, if the path to them still leads there. -/
def NotesGone (p : Project) (d : Disk) : Prop :=
  d.Leads p.host.notesPath → d.at? (Path.place p.host.notesPath) = none

theorem NotesGone.of_removed {q : Place} (h : NotesGone p d) (hr : Removed q d d') :
    NotesGone p d' := by
  intro hl
  have hl' : d.Leads p.host.notesPath := by
    refine hl.mono fun q' _ hq' => ?_
    rcases hr q' with he | ⟨-, hn⟩
    · rw [← he, hq']
    · rw [hn] at hq'
      exact absurd hq' (by simp)
  rcases hr (Path.place p.host.notesPath) with he | ⟨-, hn⟩
  · rw [he, h hl']
  · exact hn

/-- The notes are removed where they stand. -/
theorem notesGone_withoutNotes {c : Content}
    (hc : s.disk.at? (Path.place p.host.notesPath) = some (.file c)) :
    NotesGone p (p.withoutNotes s).disk := by
  unfold withoutNotes
  simp only
  unfold attempt
  split
  · rename_i d' hr
    obtain ⟨-, -, rfl⟩ := removeFile_eq_ok_iff.mp hr
    have hne : Path.place p.host.notesPath ≠ [] := by
      intro he
      rw [he] at hc
      exact absurd hc (by simp)
    intro _
    rw [at?_cut, if_pos ⟨hne, List.prefix_refl _⟩]
  · rename_i e hr
    intro hl
    have hok := removeFile_eq_ok_iff.mpr ⟨hl, ⟨c, hc⟩, rfl⟩
    exact absurd (hr.symm.trans hok) (by simp)

/-- No other file of a tree is removed with them. -/
theorem withoutNotes_confined (ht : s.disk.IsTree) {c : Content}
    (hc : s.disk.at? (Path.place p.host.notesPath) = some (.file c)) (T : Place → Prop) :
    Confined p.IsNotes T s.disk (p.withoutNotes s).disk := by
  unfold withoutNotes
  simp only
  unfold attempt
  split
  · rename_i d' hr
    obtain ⟨-, -, rfl⟩ := removeFile_eq_ok_iff.mp hr
    exact (removed_cut _ _).confined_file ht hc T
  · exact Confined.refl _ T _

/-- **What a publication changes**: nothing, or at most the file of its notes, which it removes. -/
theorem Publication.confined {result : StepResult} {warnings : List String} (hw : w.SparesFiles)
    (ht : s.disk.IsTree) (h : p.Publication w plan s result warnings s') (T : Place → Prop) :
    (Confined S T s.disk s'.disk) ∨
      (∃ d, Published p plan d s s' ∧ NotesGone p s'.disk ∧
        Confined p.IsNotes T s.disk s'.disk) := by
  have hstatus := status_reaches w p.host s
  cases h with
  | withheld reason => exact Or.inl (reaches_confined hw ht hstatus S T).2
  | launched d result warnings hwrite hsucc =>
    let command := p.host.createCommand d plan.tag plan.next
    let s₂ := ((p.withNotes w s d).launch w command).2
    have hpublished : Published p plan d s (p.withoutNotes s₂) := by
      obtain ⟨new, hnew⟩ := hstatus.events
      obtain ⟨result', stop, hlast⟩ : ∃ result' stop, (p.withoutNotes s₂).events =
          (p.host.status w s).2.events ++ [.launched command d result' stop] := ⟨_, _, rfl⟩
      refine ⟨new ++ [.launched command d result' stop], result', stop, ?_,
        List.mem_append_right new (List.mem_singleton_self _)⟩
      rw [hlast, hnew, List.append_assoc]
    obtain ⟨htree, hasked⟩ := reaches_confined hw ht hstatus p.IsNotes T
    obtain ⟨hwrote, hnotes⟩ := wrote_of_write hwrite
    have hd : d.IsTree := htree.write hwrite
    -- the command is launched with the notes on the disk, and leaves them there
    have hrun := launch_confined hw hd command (p.withNotes w s d).world
      p.IsNotes T
    have hkept := (hw.files command d (p.withNotes w s d).world _ _ hd).mpr hnotes
    have hremoved := withoutNotes_confined (s := s₂) (hw.tree command d _ hd) hkept T
    exact Or.inr ⟨d, hpublished, notesGone_withoutNotes (s := s₂) hkept,
      ((hasked.trans (hwrote.confined T)).trans hrun).trans hremoved⟩

/-! ## A release that comes to its end -/

section

variable [Regex.SizeLimit]

/-- The steps of a plan that come to their end change no files, but a last one may be a
publication. -/
theorem runSteps_confined (hplan : p.prepare o d₀ = .ok plan) (hw : w.SparesFiles)
    (ht : s.disk.IsTree)
    (h : p.runSteps w plan set plan.steps progress s = (.ok progress', s')) (T : Place → Prop) :
    (Confined S T s.disk s'.disk) ∨
      (∃ d, Published p plan d s s' ∧ NotesGone p s'.disk ∧
        Confined p.IsNotes T s.disk s'.disk) := by
  obtain ⟨front, back, hsteps, hfront, hback⟩ := steps_eq hplan
  rw [hsteps] at h
  obtain ⟨progress₁, s₁, hrun, hlast⟩ := runSteps_append h
  have hreach : Reaches w s s₁ := runSteps_reaches (fun step hm => (hfront step hm).2) hrun
  rcases hback with rfl | ⟨step, rfl, hk, -⟩
  · obtain rfl : s₁ = s' := (Prod.mk.inj hlast).2
    exact Or.inl (reaches_confined hw ht hreach S T).2
  · obtain ⟨-, progress₂, s₂, hstep, hend⟩ := runSteps_cons_eq_ok hlast
    obtain rfl : s₂ = s' := (Prod.mk.inj hend).2
    rw [runStep_of_publish hk] at hstep
    have hpub := publish_publication w p plan set s₁
    rw [(Prod.mk.inj hstep).2] at hpub
    have htree := (reaches_confined hw ht hreach S T).1
    rcases hpub.confined hw htree T with hconfined | ⟨d, hpublished, hgone, hconfined⟩
    · exact Or.inl ((reaches_confined hw ht hreach S T).2.trans hconfined)
    · obtain ⟨new, hnew⟩ := hreach.events
      exact Or.inr ⟨d, hpublished.prepend hnew, hgone,
        (reaches_confined hw ht hreach _ T).2.trans hconfined⟩

/-- Which files a release changes. Outside of its vault it changes only touched files, and none of
them comes or goes. A release that is published also writes and removes the notes. -/
inductive Confines (p : Project) (plan : ReleasePlan) (s s' : Session σ) : Prop
  | withheld (h : Confined p.InVault plan.Touches s.disk s'.disk)
  | published (d : Disk) (h : Published p plan d s s') (hgone : NotesGone p s'.disk)
    (hrest : Confined (fun q => p.InVault q ∨ p.IsNotes q) plan.Touches s.disk s'.disk)

theorem released_confined {report : ReleaseReport} (hplan : p.prepare o d₀ = .ok plan)
    (hw : w.SparesFiles) (ht : s.disk.IsTree)
    (h : p.execute w o plan s = (.released report, s')) : Confines p plan s s' := by
  have hgoes := execute_goes w p o plan s
  rw [h] at hgoes
  cases hgoes with
  | released set d₁ hb artifacts d₂ hup progress s₁ hrun =>
    have hcapture := capture_confined p.vaultDir plan.touched s.disk p.Touches
    rw [hb.captured] at hcapture
    have hupdate := updateFiles_confined p o plan d₁ p.InVault
    have htree := isTree_updateFiles (isTree_capture ht hb.captured) p o plan
    rw [hup] at hupdate htree
    have hempty := emptyVault_removed p set s₁.disk
    rw [(capture_present hb.captured).1] at hempty
    have hT : ∀ q, p.Touches q → plan.Touches q := by
      rintro q ⟨t, hm, rfl⟩
      exact ⟨t, (prepare_eq_ok hplan).2 ▸ hm, rfl⟩
    have hbefore : Confined p.InVault p.Touches s.disk d₂ := hcapture.trans hupdate
    have hafter : Confined p.InVault p.Touches s₁.disk (p.emptyVault set s₁.disk).2 :=
      hempty.confined p.Touches
    rcases runSteps_confined (S := p.InVault) hplan hw (s := atWork w plan s d₂) htree hrun
      p.Touches with hsteps | ⟨d, hpublished, hgone, hsteps⟩
    · exact .withheld (((hbefore.trans hsteps).trans hafter).mono (fun _ => id) hT)
    · have hpublished' : Published p plan d s s₁ := hpublished.prepend rfl
      have hvault : ∀ q, p.InVault q → p.InVault q ∨ p.IsNotes q := fun _ => Or.inl
      have hnotes : ∀ q, p.IsNotes q → p.InVault q ∨ p.IsNotes q := fun _ => Or.inr
      exact .published d hpublished' (hgone.of_removed hempty)
        ((((hbefore.mono hvault fun _ => id).trans (hsteps.mono hnotes fun _ => id)).trans
          (hafter.mono hvault fun _ => id)).mono (fun _ => id) hT)

/-- **The files that a release leaves as they are.** However it ends, outside of its vault no
regular file comes, goes or changes but the touched ones, which change only. There is one exception:
when a release is published, the file that holds the notes is overwritten and removed. -/
theorem execute_confined (hplan : p.prepare o d₀ = .ok plan) (hw : w.SparesFiles)
    (ht : s.disk.IsTree) : Confines p plan s (p.execute w o plan s).2 := by
  cases hrun : p.execute w o plan s with
  | mk outcome s' =>
    cases outcome with
    | released report => exact released_confined hplan hw ht hrun
    | failed f =>
      refine .withheld ((failed_confined hplan hw ht hrun).mono (fun _ => id) ?_)
      rintro q ⟨t, hm, rfl⟩
      exact ⟨t, (prepare_eq_ok hplan).2 ▸ hm, rfl⟩
    | aborted =>
      have hgoes := execute_goes w p o plan s
      rw [hrun] at hgoes
      cases hgoes with
      | declined h hno => exact .withheld (Confined.refl _ _ _)

end

/-! ### The small project -/

theorem sparesFiles_quietWorld : quietWorld.SparesFiles :=
  ⟨fun _ _ _ _ _ _ => Iff.rfl, fun _ _ _ ht => ht⟩

theorem execute_confined_tiny :
    (tiny "kept" []).prepare publishOptions tinyDisk = .ok publishPlan ∧
    quietWorld.SparesFiles ∧ tinyDisk.IsTree ∧
    Confines (tiny "kept" []) publishPlan (Session.start tinyDisk ())
      ((tiny "kept" []).execute quietWorld publishOptions publishPlan
        (Session.start tinyDisk ())).2 := by
  have hplan : (tiny "kept" []).prepare publishOptions tinyDisk = .ok publishPlan :=
    ok_of_toOption (by decide +kernel)
  have htree : tinyDisk.IsTree := isTree_of_entries (by decide +kernel)
  exact ⟨hplan, sparesFiles_quietWorld, htree,
    execute_confined hplan sparesFiles_quietWorld (s := Session.start tinyDisk ()) htree⟩

/-- The disk of the small project, with a file of its own where the notes are to be. -/
def notedDisk : Disk := tinyDisk.put ["app", ".release-notes.md"] (.file (.text "mine"))

/-- A file that stands where the notes are to be is lost when the release is published, though it is
not touched. -/
theorem execute_removes_file :
    (tiny "kept" []).prepare publishOptions notedDisk = .ok publishPlan ∧
    quietWorld.SparesFiles ∧ notedDisk.IsTree ∧
    ¬ publishPlan.Touches ["app", ".release-notes.md"] ∧
    ¬ (tiny "kept" []).InVault ["app", ".release-notes.md"] ∧
    notedDisk.at? ["app", ".release-notes.md"] = some (.file (.text "mine")) ∧
    ((tiny "kept" []).execute quietWorld publishOptions publishPlan
      (Session.start notedDisk ())).2.disk.at? ["app", ".release-notes.md"] = none := by
  have hother : ∀ t ∈ publishPlan.touched, Path.place t ≠ ["app", ".release-notes.md"] := by
    decide +kernel
  have hout : ¬ Path.place (tiny "kept" []).vaultDir <+: ["app", ".release-notes.md"] := by
    decide +kernel
  exact ⟨ok_of_toOption (by decide +kernel), sparesFiles_quietWorld,
    isTree_of_entries (by decide +kernel), fun ⟨t, hm, ht⟩ => hother t hm ht, hout,
    by decide +kernel, by decide +kernel⟩

end Project

end Slipway
