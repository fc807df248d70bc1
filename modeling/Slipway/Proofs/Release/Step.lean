import Slipway.Proofs.Release.Plan

/-!
# What one step does

About `StepRunner::run` (`keel_core::pipeline`) and `ReleaseOrchestrator::publish`
(`keel_core::release`). A step launches its command. If that does not succeed, a required step
copies the files back and fails, and any other step is passed over. A deployment asks the operator
before, and a publication asks its host.

* `Step.run_runs`: what running a step comes to (`Step.Runs`).
* `publish_publication`: what a publication comes to (`Publication`). It never fails.
* `runStep_goes`: what a step of a plan comes to (`StepGoes`), with the progress it records.
* `runStep_ok`, `runStep_error`: the same for a step that goes on, and for one that fails.
-/

namespace Slipway

open Disk

variable {σ : Type} {w : World σ} {p : Project} {plan : ReleasePlan} {set : BackupSet} {step : Step}
variable {progress progress' : Progress} {s s' : Session σ} {failure : StepFailure}

/-! ## Running a command -/

/-- A failure after which the files were copied back, and the session it leaves. -/
def Recovers (set : BackupSet) (failure : StepFailure) (s s' : Session σ) : Prop :=
  failure.restore = some (Vault.restore set s.disk).1 ∧
    s' = { s with disk := (Vault.restore set s.disk).2 }

theorem Step.fail_recovers (step : Step) (set : BackupSet) (detail : String)
    (output : Option CommandOutput) (s : Session σ) :
    Recovers set (step.fail (some set) detail output s).1 s
      (step.fail (some set) detail output s).2 :=
  ⟨rfl, rfl⟩

/-- The step succeeded. -/
def StepResult.isSuccess : StepResult → Bool
  | .succeeded _ => true
  | .failed _ | .unavailable _ => false

/-- The command of a step succeeds. -/
def Step.Succeeds (w : World σ) (step : Step) (s : Session σ) : Prop :=
  ∃ output, (s.launch w step.command).1 = .ok output ∧ output.success = true

/-- What running a step comes to: it ends with a result, or it fails and the files are copied
back. -/
inductive Step.Runs (w : World σ) (set : BackupSet) (step : Step) (s : Session σ) :
    Except StepFailure StepResult → Session σ → Prop
  | ends (result : StepResult) (h : result.isSuccess = true ↔ step.Succeeds w s)
    (hr : step.Succeeds w s ∨ step.required = false) :
    Runs w set step s (.ok result) (s.launch w step.command).2
  | fails (failure : StepFailure) (s' : Session σ) (h : ¬ step.Succeeds w s)
    (hr : step.required = true) (hback : Recovers set failure (s.launch w step.command).2 s') :
    Runs w set step s (.error failure) s'

/-- **What running a step comes to** is decided by its command, and by whether it is required. -/
theorem Step.run_runs (w : World σ) (set : BackupSet) (step : Step) (s : Session σ) :
    step.Runs w set s (step.run w (some set) s).1 (step.run w (some set) s).2 := by
  have hs : step.Succeeds w s ↔
      ∃ output, (s.launch w step.command).1 = .ok output ∧ output.success = true := Iff.rfl
  unfold Step.run
  cases hl : s.launch w step.command with
  | mk result s₁ =>
    have hs₁ : s₁ = (s.launch w step.command).2 := by rw [hl]
    rw [hl] at hs
    rw [hs₁]
    cases result with
    | ok output =>
      have hiff : step.Succeeds w s ↔ output.success = true := by simp [hs]
      by_cases hsucc : output.success = true
      · simp only [hsucc, if_true]
        exact .ends _ (by simp [StepResult.isSuccess, hiff, hsucc]) (Or.inl (hiff.mpr hsucc))
      · by_cases hr : step.required = true
        · simp only [hsucc, hr, if_true]
          exact .fails _ _ (fun h => hsucc (hiff.mp h)) hr (step.fail_recovers set _ _ _)
        · simp only [hsucc, hr]
          exact .ends _ (by simp [StepResult.isSuccess, hiff, hsucc])
            (Or.inr (Bool.not_eq_true _ ▸ hr))
    | error reason =>
      have hno : ¬ step.Succeeds w s := by simp [hs]
      by_cases hr : step.required = true
      · simp only [hr, if_true]
        exact .fails _ _ hno hr (step.fail_recovers set _ _ _)
      · simp only [hr]
        exact .ends _ (by simp [StepResult.isSuccess, hno]) (Or.inr (Bool.not_eq_true _ ▸ hr))

/-! ## Publishing -/

theorem ReleaseHost.status_session (h : ReleaseHost) (w : World σ) (s : Session σ) :
    (h.status w s).2 = (s.launch w h.probe).2 ∨
      (h.status w s).2 = ((s.launch w h.probe).2.launch w h.authProbe).2 := by
  unfold ReleaseHost.status
  simp only
  split
  · rename_i hl
    exact Or.inl (congrArg Prod.snd hl).symm
  · rename_i output s₁ hl
    have hs₁ : (s.launch w h.probe).2 = s₁ := congrArg Prod.snd hl
    rw [hs₁]
    split
    · exact Or.inl rfl
    · split
      · rename_i hl'
        exact Or.inr (congrArg Prod.snd hl').symm
      · rename_i hl'
        split
        · exact Or.inr (congrArg Prod.snd hl').symm
        · exact Or.inr (congrArg Prod.snd hl').symm

namespace Project

/-- The session in which the command that publishes is launched, with the notes on the disk. -/
def withNotes (w : World σ) (p : Project) (s : Session σ) (d : Disk) : Session σ :=
  { (p.host.status w s).2 with disk := d }

/-- A session without the notes. -/
def withoutNotes (p : Project) (s : Session σ) : Session σ :=
  { s with disk := s.disk.attempt (·.removeFile p.host.notesPath) }

/-- What a publication comes to: it is given up after the host was asked, or its command is
launched while the notes are on the disk. -/
inductive Publication (w : World σ) (p : Project) (plan : ReleasePlan) (s : Session σ) :
    StepResult → List String → Session σ → Prop
  | withheld (reason : String) :
    Publication w p plan s (.unavailable reason) [] (p.host.status w s).2
  | launched (d : Disk) (result : StepResult) (warnings : List String)
    (hw : (p.host.status w s).2.disk.write p.host.notesPath
      (.text (p.releaseNotes plan (p.host.status w s).2.disk)) = .ok d)
    (h : result.isSuccess = true ↔
      (p.host.publishStep d plan.tag plan.next).Succeeds w (p.withNotes w s d)) :
    Publication w p plan s result warnings (p.withoutNotes
      ((p.withNotes w s d).launch w (p.host.createCommand d plan.tag plan.next)).2)

/-- **What a publication comes to** is decided by the host, by its notes and by its command. -/
theorem publish_publication (w : World σ) (p : Project) (plan : ReleasePlan) (set : BackupSet)
    (s : Session σ) :
    p.Publication w plan s (p.publish w plan set s).1 (p.publish w plan set s).2.1
      (p.publish w plan set s).2.2 := by
  unfold publish
  simp only
  split
  · rename_i reason s₁ hl
    rw [show s₁ = (p.host.status w s).2 by rw [hl]]
    exact .withheld reason
  · rename_i reason s₁ hl
    rw [show s₁ = (p.host.status w s).2 by rw [hl]]
    exact .withheld reason
  · rename_i s₁ hl
    obtain rfl : s₁ = (p.host.status w s).2 := by rw [hl]
    split
    · exact .withheld _
    · rename_i d hw
      have hruns := (p.host.publishStep d plan.tag plan.next).run_runs w set (p.withNotes w s d)
      split
      · rename_i result s₂ hrun
        rw [show (p.host.publishStep d plan.tag plan.next).run w (some set) (p.withNotes w s d) =
          (.ok result, s₂) from hrun] at hruns
        cases hruns with
        | ends _ h _ => exact .launched d result _ hw h
      · rename_i failure s₂ hrun
        rw [show (p.host.publishStep d plan.tag plan.next).run w (some set) (p.withNotes w s d) =
          (.error failure, s₂) from hrun] at hruns
        cases hruns with
        | fails _ _ _ hr _ => exact absurd hr (by simp [ReleaseHost.publishStep])

/-! ## Running a step of a plan -/

/-- The session before the command of a step: a deployment is asked about. -/
def before (w : World σ) (plan : ReleasePlan) (step : Step) (s : Session σ) : Session σ :=
  if step.kind = .deploy then (s.ask w (deployQuestion plan)).2 else s

/-- The operator declines a deployment. -/
def Declined (w : World σ) (plan : ReleasePlan) (step : Step) (s : Session σ) : Prop :=
  step.kind = .deploy ∧ (s.ask w (deployQuestion plan)).1 = false

/-- The command of a step, and the record of what came of it. -/
def runCommand (w : World σ) (p : Project) (plan : ReleasePlan) (set : BackupSet) (step : Step)
    (progress : Progress) (s : Session σ) : Except StepFailure Progress × Session σ :=
  ((step.run w (some set) s).1.map (p.recordResult plan step.kind progress),
    (step.run w (some set) s).2)

theorem runStep_of_declined (h : Declined w plan step s) : p.runStep w plan set step progress s =
    (.ok (progress.skip .deploy "declined by operator"), before w plan step s) := by
  obtain ⟨kind, description, command, required⟩ := step
  obtain ⟨rfl, hno⟩ := h
  show (if (s.ask w (deployQuestion plan)).1 then _ else _) = _
  rw [hno]
  rfl

theorem runStep_of_not_declined (hp : step.kind ≠ .publish) (h : ¬ Declined w plan step s) :
    p.runStep w plan set step progress s =
      runCommand w p plan set step progress (before w plan step s) := by
  obtain ⟨kind, description, command, required⟩ := step
  cases kind with
  | deploy =>
    have hyes : (s.ask w (deployQuestion plan)).1 = true := by
      rw [← Bool.not_eq_false]
      exact fun hno => h ⟨rfl, hno⟩
    show (if (s.ask w (deployQuestion plan)).1 then _ else _) = _
    rw [if_pos hyes]
    rfl
  | publish => exact absurd rfl hp
  | _ => rfl

theorem runStep_of_publish (hp : step.kind = .publish) :
    p.runStep w plan set step progress s =
      (.ok (p.recordResult plan .publish (progress.warn (p.publish w plan set s).2.1)
        (p.publish w plan set s).1), (p.publish w plan set s).2.2) := by
  obtain ⟨kind, description, command, required⟩ := step
  subst hp
  rfl

theorem recordResult_of_isSuccess {kind : StepKind} {result : StepResult}
    (h : result.isSuccess = true) :
    p.recordResult plan kind progress result = p.recordSuccess plan kind progress := by
  cases result with
  | succeeded output => rfl
  | failed output => exact absurd h (by simp [StepResult.isSuccess])
  | unavailable reason => exact absurd h (by simp [StepResult.isSuccess])

theorem recordResult_of_not_isSuccess (p : Project) (plan : ReleasePlan) (kind : StepKind)
    (progress : Progress) {result : StepResult} (h : ¬ result.isSuccess = true) :
    ∃ reason, p.recordResult plan kind progress result = progress.skip kind reason := by
  cases result with
  | succeeded output => exact absurd rfl h
  | failed output => exact ⟨_, rfl⟩
  | unavailable reason => exact ⟨_, rfl⟩

/-- What a step of a plan comes to, with the progress that it records. -/
inductive StepGoes (w : World σ) (p : Project) (plan : ReleasePlan) (set : BackupSet) (step : Step)
    (progress : Progress) (s : Session σ) : Except StepFailure Progress → Session σ → Prop
  | declined (h : Declined w plan step s) :
    StepGoes w p plan set step progress s (.ok (progress.skip .deploy "declined by operator"))
      (before w plan step s)
  | succeeded (hp : step.kind ≠ .publish) (hd : ¬ Declined w plan step s)
    (h : step.Succeeds w (before w plan step s)) :
    StepGoes w p plan set step progress s (.ok (p.recordSuccess plan step.kind progress))
      ((before w plan step s).launch w step.command).2
  | passedOver (hp : step.kind ≠ .publish) (hd : ¬ Declined w plan step s)
    (h : ¬ step.Succeeds w (before w plan step s)) (hr : step.required = false) (reason : String) :
    StepGoes w p plan set step progress s (.ok (progress.skip step.kind reason))
      ((before w plan step s).launch w step.command).2
  | failed (hp : step.kind ≠ .publish) (hd : ¬ Declined w plan step s)
    (h : ¬ step.Succeeds w (before w plan step s)) (hr : step.required = true)
    (failure : StepFailure) (s' : Session σ)
    (hback : Recovers set failure ((before w plan step s).launch w step.command).2 s') :
    StepGoes w p plan set step progress s (.error failure) s'
  | published (hp : step.kind = .publish) (result : StepResult) (warnings : List String)
    (s' : Session σ) (h : p.Publication w plan s result warnings s') :
    StepGoes w p plan set step progress s
      (.ok (p.recordResult plan step.kind (progress.warn warnings) result)) s'

/-- **What a step of a plan comes to** is decided by the operator, by its command, and by whether
it is required. -/
theorem runStep_goes (w : World σ) (p : Project) (plan : ReleasePlan) (set : BackupSet)
    (step : Step) (progress : Progress) (s : Session σ) :
    StepGoes w p plan set step progress s (p.runStep w plan set step progress s).1
      (p.runStep w plan set step progress s).2 := by
  by_cases hp : step.kind = .publish
  · rw [runStep_of_publish hp, ← hp]
    exact .published hp _ _ _ (publish_publication w p plan set s)
  by_cases hd : Declined w plan step s
  · rw [runStep_of_declined hd]
    exact .declined hd
  · rw [runStep_of_not_declined hp hd]
    unfold runCommand
    have hruns := step.run_runs w set (before w plan step s)
    obtain ⟨run, hrun⟩ : ∃ run, run = step.run w (some set) (before w plan step s) := ⟨_, rfl⟩
    rw [← hrun] at hruns ⊢
    obtain ⟨outcome, s'⟩ := run
    cases hruns with
    | ends result h hr =>
      simp only [Except.map]
      by_cases hsucc : result.isSuccess = true
      · rw [recordResult_of_isSuccess hsucc]
        exact .succeeded hp hd (h.mp hsucc)
      · obtain ⟨reason, hreason⟩ := recordResult_of_not_isSuccess p plan step.kind progress hsucc
        have hno : ¬ step.Succeeds w (before w plan step s) := fun hs => hsucc (h.mpr hs)
        rw [hreason]
        exact .passedOver hp hd hno (hr.resolve_left hno) reason
    | fails failure s' h hr hback => exact .failed hp hd h hr failure s' hback

theorem runStep_ok (hp : step.kind ≠ .publish)
    (h : p.runStep w plan set step progress s = (.ok progress', s')) :
    (Declined w plan step s ∧ s' = before w plan step s) ∨
      (¬ Declined w plan step s ∧ s' = ((before w plan step s).launch w step.command).2 ∧
        (step.Succeeds w (before w plan step s) ∨ step.required = false)) := by
  have hgoes := runStep_goes w p plan set step progress s
  rw [h] at hgoes
  cases hgoes with
  | declined hd => exact Or.inl ⟨hd, rfl⟩
  | succeeded _ hd hs => exact Or.inr ⟨hd, rfl, Or.inl hs⟩
  | passedOver _ hd _ hr => exact Or.inr ⟨hd, rfl, Or.inr hr⟩
  | published hp' => exact absurd hp' hp

theorem runStep_error (h : p.runStep w plan set step progress s = (.error failure, s')) :
    step.kind ≠ .publish ∧ ¬ Declined w plan step s ∧
      Recovers set failure ((before w plan step s).launch w step.command).2 s' := by
  have hgoes := runStep_goes w p plan set step progress s
  rw [h] at hgoes
  cases hgoes with
  | failed hp hd _ _ _ _ hback => exact ⟨hp, hd, hback⟩

/-! ## The next step -/

variable {steps : List Step} {s₁ : Session σ}

theorem runSteps_cons_of_stopped (h : s.stopped = true) :
    p.runSteps w plan set (step :: steps) progress s =
      (.error (interrupt set progress s).1, (interrupt set progress s).2) := by
  unfold runSteps
  rw [if_pos h]

theorem runSteps_cons_of_ok (h : s.stopped = false)
    (hstep : p.runStep w plan set step progress s = (.ok progress', s₁)) :
    p.runSteps w plan set (step :: steps) progress s =
      p.runSteps w plan set steps progress' s₁ := by
  rw [runSteps]
  rw [if_neg (by simp [h]), hstep]

/-- A run that comes to its end goes on after its first step. -/
theorem runSteps_cons_eq_ok
    (h : p.runSteps w plan set (step :: steps) progress s = (.ok progress', s')) :
    s.stopped = false ∧ ∃ progress₁ s₁, p.runStep w plan set step progress s = (.ok progress₁, s₁) ∧
      p.runSteps w plan set steps progress₁ s₁ = (.ok progress', s') := by
  unfold runSteps at h
  split at h
  · exact absurd (Prod.mk.inj h).1 (by simp)
  · rename_i hgo
    split at h
    · rename_i progress₁ s₁ hstep
      exact ⟨Bool.not_eq_true _ ▸ hgo, progress₁, s₁, hstep, h⟩
    · exact absurd (Prod.mk.inj h).1 (by simp)

theorem runSteps_cons_of_error (h : s.stopped = false)
    (hstep : p.runStep w plan set step progress s = (.error failure, s₁)) :
    p.runSteps w plan set (step :: steps) progress s =
      (.error (rollBack set progress (.step failure) failure.restore s₁).1,
        (rollBack set progress (.step failure) failure.restore s₁).2) := by
  rw [runSteps]
  rw [if_neg (by simp [h]), hstep]

end Project

end Slipway
