import Slipway.Proofs.Release.Step

/-!
# The course of a release

About `ReleaseOrchestrator::execute` (`keel_core::release`). A release checks its changelog, asks
the operator, looks at the request to stop, copies the files and updates them. Then it runs its
steps.

* `execute_goes`: the ends of a release, one by one (`Goes`).
* `execute_of_runSteps`: a release whose steps come to their end is released.
* `runStep_ok_iff`, `runSteps_ok_iff`: a step goes on unless it is required, is not declined and
  does not succeed; a run comes to its end exactly if all its steps go on and none finds a request
  (`GoesWell`).
* `execute_released_iff`: so does a release.
-/

namespace Slipway.Project

open Session

variable {σ : Type} {w : World σ} {p : Project} {o : ReleaseOptions} {plan : ReleasePlan}
variable {set : BackupSet} {step : Step} {steps : List Step} {progress : Progress}
variable {s s' : Session σ} {d₀ : Disk}

/-! ## The ends of a release -/

/-- A release comes to its work: the changelog is accepted, the operator confirms and does not ask
to stop, and the files are copied. -/
structure Begins (w : World σ) (p : Project) (plan : ReleasePlan) (s : Session σ) (set : BackupSet)
    (d : Disk) : Prop where
  checked : p.checkChangelog s.disk = .ok ()
  confirmed : (s.ask w (releaseQuestion plan)).1 = true
  going : (s.ask w (releaseQuestion plan)).2.stopped = false
  captured : Vault.capture p.vaultDir plan.touched s.disk = (.ok set, d)

theorem Begins.unique {set' : BackupSet} {d d' : Disk} (h : Begins w p plan s set d)
    (h' : Begins w p plan s set' d') : set = set' ∧ d = d' := by
  obtain ⟨hset, hd⟩ := Prod.mk.inj (h.captured.symm.trans h'.captured)
  exact ⟨Except.ok.inj hset, hd⟩

/-- The session in which the first step begins, with the updated files. -/
def atWork (w : World σ) (plan : ReleasePlan) (s : Session σ) (d : Disk) : Session σ :=
  (s.ask w (releaseQuestion plan)).2.work w d

/-- The progress with which the first step begins. -/
def mutated (plan : ReleasePlan) (artifacts : ApplyReport) : Progress :=
  ⟨.filesMutated, [], [], [], [], plan.warnings ++ artifactWarnings artifacts⟩

/-- The progress of a release that has checked its changelog. -/
def validated (plan : ReleasePlan) : Progress :=
  (Progress.start plan.warnings).reach .changelogValidated

section

variable [Regex.SizeLimit]

/-- The ends of a release. -/
inductive Goes (w : World σ) (p : Project) (o : ReleaseOptions) (plan : ReleasePlan)
    (s : Session σ) : ReleaseOutcome → Session σ → Prop
  | refused (e : ReleaseError) (h : p.checkChangelog s.disk = .error e) :
    Goes w p o plan s (.failed ((Progress.start plan.warnings).failure e none none)) s
  | declined (h : p.checkChangelog s.disk = .ok ())
    (hno : (s.ask w (releaseQuestion plan)).1 = false) :
    Goes w p o plan s .aborted (s.ask w (releaseQuestion plan)).2
  | stopped (h : p.checkChangelog s.disk = .ok ())
    (hstop : (s.ask w (releaseQuestion plan)).2.stopped = true) :
    Goes w p o plan s (.failed ((validated plan).failure .interrupted none none))
      (s.ask w (releaseQuestion plan)).2
  | uncaptured (h : p.checkChangelog s.disk = .ok ()) (e : ReleaseError) (d : Disk)
    (hcap : Vault.capture p.vaultDir plan.touched s.disk = (.error e, d)) :
    Goes w p o plan s (.failed ((validated plan).failure e none none))
      { (s.ask w (releaseQuestion plan)).2 with disk := d }
  | notUpdated (set : BackupSet) (d₁ : Disk) (h : Begins w p plan s set d₁) (e : ReleaseError)
    (d₂ : Disk) (hup : p.updateFiles o plan d₁ = (.error e, d₂)) (f : ReleaseFailure)
    (s' : Session σ) (hroll : rollBack set ((validated plan).reach .backedUp) e none
      { (s.ask w (releaseQuestion plan)).2 with disk := d₂ } = (f, s')) :
    Goes w p o plan s (.failed f) s'
  | broken (set : BackupSet) (d₁ : Disk) (h : Begins w p plan s set d₁) (artifacts : ApplyReport)
    (d₂ : Disk) (hup : p.updateFiles o plan d₁ = (.ok artifacts, d₂)) (f : ReleaseFailure)
    (s' : Session σ) (hrun : p.runSteps w plan set plan.steps (mutated plan artifacts)
      (atWork w plan s d₂) = (.error f, s')) :
    Goes w p o plan s (.failed f) s'
  | released (set : BackupSet) (d₁ : Disk) (h : Begins w p plan s set d₁) (artifacts : ApplyReport)
    (d₂ : Disk) (hup : p.updateFiles o plan d₁ = (.ok artifacts, d₂)) (progress : Progress)
    (s₁ : Session σ) (hrun : p.runSteps w plan set plan.steps (mutated plan artifacts)
      (atWork w plan s d₂) = (.ok progress, s₁)) :
    Goes w p o plan s
      (.released (report plan artifacts (progress.warn (p.emptyVault set s₁.disk).1)))
      { s₁ with disk := (p.emptyVault set s₁.disk).2 }

theorem executeSecured_goes {d₁ : Disk} (h : Begins w p plan s set d₁) :
    Goes w p o plan s
      (p.executeSecured w o plan set ((validated plan).reach .backedUp)
        { (s.ask w (releaseQuestion plan)).2 with disk := d₁ }).1
      (p.executeSecured w o plan set ((validated plan).reach .backedUp)
        { (s.ask w (releaseQuestion plan)).2 with disk := d₁ }).2 := by
  unfold executeSecured
  split
  · rename_i e d₂ hup
    exact .notUpdated set d₁ h e d₂ hup _ _ rfl
  · rename_i artifacts d₂ hup
    simp only
    split
    · rename_i f s' hrun
      exact .broken set d₁ h artifacts d₂ hup f s' hrun
    · rename_i progress s₁ hrun
      exact .released set d₁ h artifacts d₂ hup progress s₁ hrun

/-- **The ends of a release.** -/
theorem execute_goes (w : World σ) (p : Project) (o : ReleaseOptions) (plan : ReleasePlan)
    (s : Session σ) :
    Goes w p o plan s (p.execute w o plan s).1 (p.execute w o plan s).2 := by
  unfold execute
  simp only
  split
  · rename_i e hcheck
    exact .refused e hcheck
  · rename_i hcheck
    by_cases hyes : (s.ask w (releaseQuestion plan)).1 = true
    · rw [hyes]
      simp only [Bool.not_true, Bool.false_eq_true, if_false]
      by_cases hstop : (s.ask w (releaseQuestion plan)).2.stopped = true
      · rw [if_pos hstop]
        exact .stopped hcheck hstop
      · rw [if_neg hstop]
        split
        · rename_i e d₁ hcap
          exact .uncaptured hcheck e d₁ hcap
        · rename_i set d₁ hcap
          exact executeSecured_goes ⟨hcheck, hyes, Bool.not_eq_true _ ▸ hstop, hcap⟩
    · have hno : (s.ask w (releaseQuestion plan)).1 = false := Bool.not_eq_true _ ▸ hyes
      rw [hno]
      exact .declined hcheck hno

/-- A release whose steps come to their end is released, and its vault is emptied. -/
theorem execute_of_runSteps {d₁ d₂ : Disk} {report : ApplyReport} {s₁ : Session σ}
    (h : Begins w p plan s set d₁)
    (hup : p.updateFiles o plan d₁ = (.ok report, d₂))
    (hrun : p.runSteps w plan set plan.steps (mutated plan report) (atWork w plan s d₂) =
      (.ok progress, s₁)) :
    p.execute w o plan s =
      (.released (Project.report plan report (progress.warn (p.emptyVault set s₁.disk).1)),
        { s₁ with disk := (p.emptyVault set s₁.disk).2 }) := by
  have hdisk : (s.ask w (releaseQuestion plan)).2.disk = s.disk := rfl
  have hsecured : p.executeSecured w o plan set ((validated plan).reach .backedUp)
      { (s.ask w (releaseQuestion plan)).2 with disk := d₁ } =
      (.released (Project.report plan report (progress.warn (p.emptyVault set s₁.disk).1)),
        { s₁ with disk := (p.emptyVault set s₁.disk).2 }) := by
    have hrun' : p.runSteps w plan set plan.steps
        ((((validated plan).reach .backedUp).warn (artifactWarnings report)).reach .filesMutated)
        (({ (s.ask w (releaseQuestion plan)).2 with disk := d₁ } : Session σ).work w d₂) =
        (.ok progress, s₁) := hrun
    unfold executeSecured
    simp only [hup, hrun']
  unfold execute
  simp only [h.checked]
  rw [if_neg (by simp [h.confirmed]), if_neg (by simp [h.going]), hdisk, h.captured]
  exact hsecured

end

/-! ## Steps that go on -/

/-- The session after a step. -/
def afterStep (w : World σ) (p : Project) (plan : ReleasePlan) (set : BackupSet) (step : Step)
    (s : Session σ) : Session σ :=
  (p.runStep w plan set step (Progress.start []) s).2

/-- What a step does to the session does not depend on the progress. -/
theorem runStep_session (w : World σ) (p : Project) (plan : ReleasePlan) (set : BackupSet)
    (step : Step) (progress : Progress) (s : Session σ) :
    (p.runStep w plan set step progress s).2 = afterStep w p plan set step s := by
  unfold afterStep
  by_cases hp : step.kind = .publish
  · rw [runStep_of_publish hp, runStep_of_publish hp]
  by_cases hd : Declined w plan step s
  · rw [runStep_of_declined hd, runStep_of_declined hd]
  · rw [runStep_of_not_declined hp hd, runStep_of_not_declined hp hd]
    rfl

/-- A step does what is required of it: it need not succeed, is declined, or succeeds. -/
def Satisfied (w : World σ) (plan : ReleasePlan) (step : Step) (s : Session σ) : Prop :=
  step.required = true → Declined w plan step s ∨ step.Succeeds w (before w plan step s)

/-- From a session on, the steps come to their end: none of them finds a request to stop, and each
one does what is required of it. -/
def GoesWell (w : World σ) (p : Project) (plan : ReleasePlan) (set : BackupSet) :
    List Step → Session σ → Prop
  | [], _ => True
  | step :: steps, s =>
    s.stopped = false ∧ Satisfied w plan step s ∧
      GoesWell w p plan set steps (afterStep w p plan set step s)

/-- A step of a release goes on exactly if it does what is required of it. -/
theorem runStep_ok_iff (hpub : step.kind = .publish → step.required = false) :
    (∃ progress', (p.runStep w plan set step progress s).1 = .ok progress') ↔
      Satisfied w plan step s := by
  have hgoes := runStep_goes w p plan set step progress s
  generalize p.runStep w plan set step progress s = run at hgoes ⊢
  obtain ⟨outcome, s'⟩ := run
  cases hgoes with
  | declined hd => exact iff_of_true ⟨_, rfl⟩ fun _ => Or.inl hd
  | succeeded hp hd h => exact iff_of_true ⟨_, rfl⟩ fun _ => Or.inr h
  | passedOver hp hd h hr reason =>
    exact iff_of_true ⟨_, rfl⟩ fun hr' => absurd hr' (by simp [hr])
  | failed hp hd h hr failure _ hback =>
    refine iff_of_false (by simp) fun hsat => ?_
    rcases hsat hr with hd' | h'
    · exact hd hd'
    · exact h h'
  | published hp result warnings _ h =>
    exact iff_of_true ⟨_, rfl⟩ fun hr => absurd hr (by simp [hpub hp])

/-- **A run comes to its end** exactly if its steps do. -/
theorem runSteps_ok_iff (hpub : ∀ step ∈ steps, step.kind = .publish → step.required = false) :
    (∃ progress', (p.runSteps w plan set steps progress s).1 = .ok progress') ↔
      GoesWell w p plan set steps s := by
  induction steps generalizing progress s with
  | nil => exact iff_of_true ⟨progress, rfl⟩ trivial
  | cons step steps ih =>
    have hstep : (∃ progress', (p.runStep w plan set step progress s).1 = .ok progress') ↔
        Satisfied w plan step s := runStep_ok_iff (hpub step List.mem_cons_self)
    have hrest := fun step' hm => hpub step' (List.mem_cons_of_mem step hm)
    unfold runSteps GoesWell
    by_cases hstop : s.stopped = true
    · rw [if_pos hstop]
      exact iff_of_false (by simp) fun h => absurd h.1 (by simp [hstop])
    · rw [if_neg hstop]
      have hgo : s.stopped = false := Bool.not_eq_true _ ▸ hstop
      have hsession := runStep_session w p plan set step progress s
      split
      · rename_i progress₁ s₁ hrun
        rw [hrun] at hsession
        rw [ih hrest, ← hsession]
        have hsat : Satisfied w plan step s := hstep.mp ⟨progress₁, by rw [hrun]⟩
        exact ⟨fun h => ⟨hgo, hsat, h⟩, fun h => h.2.2⟩
      · rename_i failure s₁ hrun
        refine iff_of_false (by simp) fun h => ?_
        obtain ⟨progress', hok⟩ := hstep.mpr h.2.1
        rw [hrun] at hok
        exact absurd hok (by simp)

variable [Regex.SizeLimit]

/-- A release comes to its end: it comes to its work, the files are updated, and the steps go
well. -/
def ComesThrough (w : World σ) (p : Project) (o : ReleaseOptions) (plan : ReleasePlan)
    (s : Session σ) : Prop :=
  ∃ set d₁ artifacts d₂, Begins w p plan s set d₁ ∧
    p.updateFiles o plan d₁ = (.ok artifacts, d₂) ∧
    GoesWell w p plan set plan.steps (atWork w plan s d₂)

/-- **A release comes to its end** exactly if every part of it does. -/
theorem execute_released_iff
    (hpub : ∀ step ∈ plan.steps, step.kind = .publish → step.required = false) :
    (∃ report s', p.execute w o plan s = (.released report, s')) ↔ ComesThrough w p o plan s := by
  have hgoes := execute_goes w p o plan s
  generalize p.execute w o plan s = run at hgoes ⊢
  obtain ⟨outcome, s'⟩ := run
  cases hgoes with
  | refused e h =>
    refine iff_of_false (by simp) fun ⟨_, _, _, _, hb, _⟩ => ?_
    exact absurd (h.symm.trans hb.checked) (by simp)
  | declined h hno =>
    refine iff_of_false (by simp) fun ⟨_, _, _, _, hb, _⟩ => ?_
    exact absurd (hno.symm.trans hb.confirmed) (by simp)
  | stopped h hstop =>
    refine iff_of_false (by simp) fun ⟨_, _, _, _, hb, _⟩ => ?_
    exact absurd (hstop.symm.trans hb.going) (by simp)
  | uncaptured h e d hcap =>
    refine iff_of_false (by simp) fun ⟨_, _, _, _, hb, _⟩ => ?_
    exact absurd (Prod.mk.inj (hcap.symm.trans hb.captured)).1 (by simp)
  | notUpdated set d₁ h e d₂ hup f _ hroll =>
    refine iff_of_false (by simp) fun ⟨_, _, _, _, hb, hup', _⟩ => ?_
    obtain ⟨-, rfl⟩ := h.unique hb
    exact absurd (Prod.mk.inj (hup.symm.trans hup')).1 (by simp)
  | broken set d₁ h artifacts d₂ hup f _ hrun =>
    refine iff_of_false (by simp) fun ⟨_, _, _, _, hb, hup', hwell⟩ => ?_
    obtain ⟨rfl, rfl⟩ := h.unique hb
    obtain ⟨-, rfl⟩ := Prod.mk.inj (hup.symm.trans hup')
    obtain ⟨progress', hok⟩ := (runSteps_ok_iff hpub).mpr hwell
    exact absurd ((congrArg Prod.fst hrun).symm.trans hok) (by simp)
  | released set d₁ h artifacts d₂ hup progress s₁ hrun =>
    refine iff_of_true ⟨_, _, rfl⟩ ⟨set, d₁, artifacts, d₂, h, hup, ?_⟩
    exact (runSteps_ok_iff hpub).mp ⟨progress, congrArg Prod.fst hrun⟩

end Slipway.Project
