import Slipway.Proofs.Release.Effects
import Slipway.Proofs.Release.Run
import Slipway.Proofs.Vault.Capture

/-!
# A vault that was left

About `ReleaseOrchestrator::execute` (`keel_core::release`) and `BackupVault::capture`
(`keel_core::backup`). A release that fails may leave its vault, since the only copies of the files
may be in it. No release uses a vault that is there, removes it, or works without one.

* `execute_of_leftover`: a release that finds something where its vault is to be touches nothing and
  launches nothing, and does not come to its end.
* `results_barred`: nor do any number of releases, one after the other (`Attempt`, `Barred`).
* `leftover_bars_releases`: so the copies stay there once a failure has named their vault.
-/

namespace Slipway

open Session Disk

namespace Session

variable {σ : Type}

theorem launches_ask (w : World σ) (question : String) (s : Session σ) :
    (s.ask w question).2.launches = s.launches := by
  unfold launches
  show (s.events ++ [_]).filterMap _ = _
  rw [List.filterMap_append]
  exact List.append_nil _

end Session

namespace Project

variable {σ : Type} {w : World σ} {p : Project} {o : ReleaseOptions} {plan : ReleasePlan}
variable {set : BackupSet} {progress : Progress} {e : ReleaseError} {f : ReleaseFailure}
variable {s s' : Session σ} {dir : String} {paths : List String} {d d₁ : Disk}

/-! ## The vault that a failure names -/

theorem backupDir_rollBack {restored : Option RestoreReport}
    (h : rollBack set progress e restored s = (f, s')) (hdir : f.backupDir = some dir) :
    dir = set.dir := by
  rw [show f = (rollBack set progress e restored s).1 from (congrArg Prod.fst h).symm] at hdir
  unfold rollBack at hdir
  -- a vault that is not removed is named, whether the files were copied back completely or not
  cases restored
  all_goals
    simp only [Progress.failure] at hdir
    split at hdir
    · split at hdir
      · exact absurd hdir (by simp)
      · exact (Option.some.inj hdir).symm
    · exact (Option.some.inj hdir).symm

theorem backupDir_interrupt (h : interrupt set progress s = (f, s'))
    (hdir : f.backupDir = some dir) : dir = set.dir := by
  unfold interrupt at h
  split at h
  · exact backupDir_rollBack h hdir
  · obtain ⟨rfl, -⟩ := Prod.mk.inj h
    exact (Option.some.inj hdir).symm

/-! ## One release -/

theorem capture_of_pathExists (h : d.pathExists dir = true) (paths : List String) :
    Vault.capture dir paths d = (.error (.staleBackup dir), d) := by
  unfold Vault.capture
  rw [if_pos h]

theorem Begins.fresh (h : Begins w p plan s set d₁) : s.disk.pathExists p.vaultDir = false := by
  obtain ⟨_, hhalf⟩ := Vault.exists_halfway h.captured
  exact hhalf.fresh

section

variable [Regex.SizeLimit]

/-- **A release that finds a vault** leaves the disk as it is and launches no command, whatever its
plan is. It is refused or declined. -/
theorem execute_of_leftover (h : s.disk.pathExists p.vaultDir = true) (w : World σ)
    (o : ReleaseOptions) (plan : ReleasePlan) :
    (p.execute w o plan s).2.disk = s.disk ∧ (p.execute w o plan s).2.launches = s.launches ∧
      ∀ report, (p.execute w o plan s).1 ≠ .released report := by
  -- a release that begins has found nothing where its vault is to be
  have hno : ∀ {set d₁}, ¬ Begins w p plan s set d₁ := by
    intro set d₁ hb
    rw [hb.fresh] at h
    exact absurd h (by simp)
  have hgoes := execute_goes w p o plan s
  generalize p.execute w o plan s = run at hgoes ⊢
  obtain ⟨outcome, s'⟩ := run
  cases hgoes with
  | refused e hcheck => exact ⟨rfl, rfl, by simp⟩
  | declined hcheck hdecline => exact ⟨rfl, launches_ask w _ s, by simp⟩
  | stopped hcheck hstop => exact ⟨rfl, launches_ask w _ s, by simp⟩
  | uncaptured hcheck e d hcap =>
    have hd : d = s.disk := by
      rw [capture_of_pathExists h] at hcap
      exact (Prod.mk.inj hcap).2.symm
    exact ⟨hd, launches_ask w _ s, by simp⟩
  | notUpdated set d₁ hb => exact absurd hb hno
  | broken set d₁ hb => exact absurd hb hno
  | released set d₁ hb => exact absurd hb hno

/-- A failure that names a vault names the one of its project. -/
theorem backupDir_of_failed (h : p.execute w o plan s = (.failed f, s'))
    (hdir : f.backupDir = some dir) : dir = p.vaultDir := by
  have hgoes := execute_goes w p o plan s
  rw [h] at hgoes
  cases hgoes with
  | refused e hcheck => exact absurd hdir (by simp [Progress.failure])
  | stopped hcheck hstop => exact absurd hdir (by simp [Progress.failure])
  | uncaptured hcheck e d hcap => exact absurd hdir (by simp [Progress.failure])
  | notUpdated set d₁ hb e d₂ hup _ _ hroll =>
    rw [← (Vault.capture_present hb.captured).1]
    exact backupDir_rollBack hroll hdir
  | broken set d₁ hb artifacts d₂ hup _ _ hrun =>
    rw [← (Vault.capture_present hb.captured).1]
    obtain ⟨done, step, rest, progress₁, s₁, -, -, ⟨-, hint⟩ | ⟨failure, s₂, -, hroll⟩⟩ :=
      runSteps_error hrun
    · exact backupDir_interrupt hint hdir
    · exact backupDir_rollBack hroll hdir

end

end Project

/-! ## One release after the other -/

/-- An attempt at a release: of which project, with which options, and in which world. It may be
asked to stop before it starts. -/
structure Attempt where
  project : Project
  options : ReleaseOptions
  State : Type
  world : World State
  state : State
  stopped : Bool

namespace Attempt

/-- What comes of an attempt: how it ends, the commands that it launches, and the disk that it
leaves. It ends with an error if there is no plan. -/
structure Result where
  ended : Except ReleaseError ReleaseOutcome
  launches : List (Command × Disk)
  disk : Disk

section

variable [Regex.SizeLimit]

/-- Plans a release on a disk and carries out the plan. -/
def result (a : Attempt) (d : Disk) : Result :=
  match a.project.prepare a.options d with
  | .error e => ⟨.error e, [], d⟩
  | .ok plan =>
    let (outcome, s) := a.project.execute a.world a.options plan ⟨d, a.state, a.stopped, []⟩
    ⟨.ok outcome, s.launches, s.disk⟩

/-- The results of attempts that are made one after the other. -/
def results : List Attempt → Disk → List Result
  | [], _ => []
  | a :: attempts, d => a.result d :: results attempts (a.result d).disk

/-- Nothing comes of an attempt on a disk: the disk is left as it is, no command is launched, and no
release comes to its end. -/
structure Result.Barred (d : Disk) (r : Result) : Prop where
  disk : r.disk = d
  launches : r.launches = []
  ended : ∀ report, r.ended ≠ .ok (.released report)

variable {a : Attempt} {attempts : List Attempt} {d : Disk} {dir : String}

theorem result_barred (h : d.pathExists a.project.vaultDir = true) : (a.result d).Barred d := by
  unfold result
  split
  · exact ⟨rfl, rfl, by simp⟩
  · rename_i plan hplan
    obtain ⟨hdisk, hlaunches, hended⟩ := Project.execute_of_leftover
      (s := ⟨d, a.state, a.stopped, []⟩) h a.world a.options plan
    exact ⟨hdisk, hlaunches, fun report he => hended report (Except.ok.inj he)⟩

/-- **Nothing comes of any number of attempts**, one after the other, while something stands where
their vaults are to be. -/
theorem results_barred (h : ∀ a ∈ attempts, d.pathExists a.project.vaultDir = true) :
    ∀ r ∈ results attempts d, r.Barred d := by
  induction attempts with
  | nil => exact fun r hr => absurd hr List.not_mem_nil
  | cons a attempts ih =>
    have hfirst : (a.result d).Barred d := result_barred (h a List.mem_cons_self)
    intro r hr
    unfold results at hr
    -- the first attempt leaves the disk for the others as it was
    rw [hfirst.disk] at hr
    rcases List.mem_cons.mp hr with rfl | hr
    · exact hfirst
    · exact ih (fun a' hm => h a' (List.mem_cons_of_mem a hm)) r hr

/-- **A vault that was left bars all releases** of the projects that share it, and so its copies
stay there. The vault that a failure names is the one of its project: if it still exists, the disk
stays as the failure left it. -/
theorem leftover_bars_releases :
    (∀ (d : Disk) (attempts : List Attempt),
      (∀ a ∈ attempts, d.pathExists a.project.vaultDir = true) →
        ∀ r ∈ results attempts d, r.Barred d) ∧
    ∀ (σ : Type) (w : World σ) (p : Project) (o : ReleaseOptions) (plan : ReleasePlan)
      (s s' : Session σ) (f : ReleaseFailure) (dir : String),
      p.execute w o plan s = (.failed f, s') → f.backupDir = some dir →
        dir = p.vaultDir ∧
        (s'.disk.pathExists dir = true → ∀ attempts : List Attempt,
          (∀ a ∈ attempts, a.project.vaultDir = dir) →
            ∀ r ∈ results attempts s'.disk, r.Barred s'.disk) := by
  refine ⟨fun d attempts => results_barred, fun σ w p o plan s s' f dir hrun hdir => ⟨?_, ?_⟩⟩
  · exact Project.backupDir_of_failed hrun hdir
  · intro hexists attempts hshared
    refine results_barred fun a ha => ?_
    rw [hshared a ha]
    exact hexists

end

/-! ### The small project -/

open Project

/-- The small project, which releases without anything pending. -/
def tinyLax : Project :=
  { tiny "kept" [] with
    config := { (tiny "kept" []).config with changelog := { minPendingChars := 0 } } }

/-- A world in which every command succeeds, but the operator asks to stop while the commits are
pushed. -/
def pushWorld : World Unit where
  launch := fun c d m => ⟨.ok ⟨0, "", ""⟩, d, c.args == ["push"], m⟩
  ask := fun _ m => ⟨true, false, m⟩

/-- The release, which is stopped with the commits pushed. -/
def pushRun : ReleaseOutcome × Session Unit :=
  (tiny "kept" []).execute pushWorld pushOptions pushPlan (Session.start tinyDisk ())

/-- How the release ends. -/
def pushFailure : ReleaseFailure where
  error := .interrupted
  state := .tagged
  restore := none
  live := ["release commit pushed"]
  localEffects := ["commit \"Bump version to 1.1.0\"", "tag v1.1.0"]
  backupDir := some "app/kept"

/-- Two attempts at a further release. -/
def further : List Attempt :=
  [⟨tinyLax, tinyOptions, Unit, pushWorld, (), false⟩,
   ⟨tiny "kept" [], pushOptions, Unit, pushWorld, (), true⟩]

theorem leftover_bars_releases_pushed :
    ∃ s', pushRun = (.failed pushFailure, s') ∧ pushFailure.backupDir = some "app/kept" ∧
      s'.disk.pathExists "app/kept" = true ∧
      (∀ a ∈ further, a.project.vaultDir = "app/kept") ∧
      ∀ r ∈ results further s'.disk, r.Barred s'.disk := by
  have hrun : pushRun = (.failed pushFailure, pushRun.2) := pair_of_fst (by decide +kernel)
  have hexists : pushRun.2.disk.pathExists "app/kept" = true := by decide +kernel
  have hshared : ∀ a ∈ further, a.project.vaultDir = "app/kept" := by
    intro a ha
    rcases List.mem_cons.mp ha with rfl | ha
    · decide +kernel
    · rw [List.mem_singleton.mp ha]
      decide +kernel
  have hbars := leftover_bars_releases.2 Unit pushWorld (tiny "kept" []) pushOptions pushPlan
    (Session.start tinyDisk ()) pushRun.2 pushFailure "app/kept" hrun rfl
  exact ⟨pushRun.2, hrun, rfl, hexists, hshared, hbars.2 hexists further hshared⟩

end Attempt

end Slipway
