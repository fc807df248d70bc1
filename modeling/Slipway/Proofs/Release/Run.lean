import Slipway.Proofs.Release.Course

/-!
# How a release runs

About `ReleaseOrchestrator::execute` (`keel_core::release`).

* `Session.Reaches`: what the world makes of a session, question by question and command by command.
  What every reaction keeps holds in the end (`Reaches.disk`), and what was not there before was
  made by a command (`Reaches.makes`).
* `runSteps_error`: a run that fails has run a part of its steps, and ends before the next one or
  with it.
* `execute_failed`: the exits of a release. Once the vault is there, it ends rolled back, or kept as
  it is by a late stop (`Ends`).
-/

namespace Slipway

open Disk

variable {σ : Type} {w : World σ}

namespace Session

variable {s s₁ s' : Session σ} {q : Place}

/-! ## Reactions of the world -/

/-- A session that questions and commands lead to. -/
inductive Reaches (w : World σ) (s : Session σ) : Session σ → Prop
  | refl : Reaches w s s
  | ask {s' : Session σ} (question : String) (h : Reaches w s s') :
    Reaches w s (s'.ask w question).2
  | launch {s' : Session σ} (c : Command) (h : Reaches w s s') : Reaches w s (s'.launch w c).2

theorem Reaches.trans (h : Reaches w s s₁) (h' : Reaches w s₁ s') : Reaches w s s' := by
  induction h' with
  | refl => exact h
  | ask question _ ih => exact ih.ask question
  | launch c _ ih => exact ih.launch c

/-- **What every reaction of the world keeps**, a run keeps. -/
theorem Reaches.disk {P : Disk → Prop} (h : Reaches w s s')
    (hstep : ∀ c d m, P d → P (w.launch c d m).disk) (hs : P s.disk) : P s'.disk := by
  induction h with
  | refl => exact hs
  | ask question _ ih => exact ih
  | launch c _ ih => exact hstep c _ _ ih

theorem Reaches.events (h : Reaches w s s') : ∃ new, s'.events = s.events ++ new := by
  induction h with
  | refl => exact ⟨[], (List.append_nil _).symm⟩
  | ask question _ ih =>
    obtain ⟨new, hn⟩ := ih
    exact ⟨_, (congrArg (· ++ _) hn).trans (List.append_assoc _ _ _)⟩
  | launch c _ ih =>
    obtain ⟨new, hn⟩ := ih
    exact ⟨_, (congrArg (· ++ _) hn).trans (List.append_assoc _ _ _)⟩

/-- Since an earlier session, a command was launched when nothing stood at a place, and left
something there. -/
def Makes (w : World σ) (s s' : Session σ) (q : Place) : Prop :=
  ∃ new c d m, s'.events = s.events ++ new ∧
    .launched c d (w.launch c d m).result (w.launch c d m).stop ∈ new ∧
    d.at? q = none ∧ (w.launch c d m).disk.at? q ≠ none

theorem Makes.append (h : Makes w s s₁ q) {e : List Event} (he : s'.events = s₁.events ++ e) :
    Makes w s s' q := by
  obtain ⟨new, c, d, m, hn, hl, h⟩ := h
  exact ⟨new ++ e, c, d, m, by rw [he, hn, List.append_assoc], List.mem_append_left _ hl, h⟩

theorem Makes.prepend (h : Makes w s₁ s' q) {e : List Event} (he : s₁.events = s.events ++ e) :
    Makes w s s' q := by
  obtain ⟨new, c, d, m, hn, hl, h⟩ := h
  exact ⟨e ++ new, c, d, m, by rw [hn, he, List.append_assoc], List.mem_append_right _ hl, h⟩

/-- What was not there before was made by a command. -/
theorem Reaches.makes (h : Reaches w s s') (hn : s.disk.at? q = none)
    (hq : s'.disk.at? q ≠ none) : Makes w s s' q := by
  induction h with
  | refl => exact absurd hn hq
  | ask question _ ih => exact (ih hq).append rfl
  | @launch s₁ c hr ih =>
    by_cases h₁ : s₁.disk.at? q = none
    · obtain ⟨new, he⟩ := hr.events
      exact ⟨_, c, s₁.disk, s₁.world, (congrArg (· ++ _) he).trans (List.append_assoc _ _ _),
        List.mem_append_right _ (List.mem_singleton_self _), h₁, hq⟩
    · exact (ih h₁).append rfl

end Session

open Session

variable {p : Project} {o : ReleaseOptions} {plan : ReleasePlan} {set : BackupSet} {step : Step}
variable {steps : List Step} {progress progress' : Progress} {s s' : Session σ}
variable {failure : StepFailure} {f : ReleaseFailure} {d₀ : Disk}

namespace Project

/-! ## The steps in their order -/

/-- A run that fails has run a part of its steps. Then it is asked to stop, or the next step
fails. -/
theorem runSteps_error (h : p.runSteps w plan set steps progress s = (.error f, s')) :
    ∃ done step rest progress₁ s₁, steps = done ++ step :: rest ∧
      p.runSteps w plan set done progress s = (.ok progress₁, s₁) ∧
      ((s₁.stopped = true ∧ interrupt set progress₁ s₁ = (f, s')) ∨
        ∃ failure s₂, p.runStep w plan set step progress₁ s₁ = (.error failure, s₂) ∧
          rollBack set progress₁ (.step failure) failure.restore s₂ = (f, s')) := by
  induction steps generalizing progress s with
  | nil => exact absurd (Prod.mk.inj h).1 (by simp)
  | cons step steps ih =>
    unfold runSteps at h
    split at h
    · rename_i hstop
      obtain ⟨hf, hs⟩ := Prod.mk.inj h
      exact ⟨[], step, steps, progress, s, rfl, rfl,
        Or.inl ⟨hstop, Prod.ext (Except.error.inj hf) hs⟩⟩
    · rename_i hgo
      split at h
      · rename_i progress₁ s₁ hstep
        obtain ⟨done, step', rest, progress₂, s₂, rfl, hrun, hend⟩ := ih h
        refine ⟨step :: done, step', rest, progress₂, s₂, rfl, ?_, hend⟩
        unfold runSteps
        rw [if_neg hgo, hstep]
        exact hrun
      · rename_i failure s₂ hstep
        obtain ⟨hf, hs⟩ := Prod.mk.inj h
        exact ⟨[], step, steps, progress, s, rfl, rfl,
          Or.inr ⟨failure, s₂, hstep, Prod.ext (Except.error.inj hf) hs⟩⟩

/-- A run that comes to its end has come to the end of its first steps. -/
theorem runSteps_append {front back : List Step}
    (h : p.runSteps w plan set (front ++ back) progress s = (.ok progress', s')) :
    ∃ progress₁ s₁, p.runSteps w plan set front progress s = (.ok progress₁, s₁) ∧
      p.runSteps w plan set back progress₁ s₁ = (.ok progress', s') := by
  induction front generalizing progress s with
  | nil => exact ⟨progress, s, rfl, h⟩
  | cons step front ih =>
    rw [List.cons_append] at h
    obtain ⟨hgo, progress₁, s₁, hstep, hrest⟩ := runSteps_cons_eq_ok h
    obtain ⟨progress₂, s₂, hfront, hback⟩ := ih hrest
    refine ⟨progress₂, s₂, ?_, hback⟩
    rw [runSteps_cons_of_ok hgo hstep, hfront]

/-- A run goes on after its first steps. -/
theorem runSteps_append_of_ok {front back : List Step} {progress₁ : Progress} {s₁ : Session σ}
    (h : p.runSteps w plan set front progress s = (.ok progress₁, s₁)) :
    p.runSteps w plan set (front ++ back) progress s =
      p.runSteps w plan set back progress₁ s₁ := by
  induction front generalizing progress s with
  | nil =>
    obtain ⟨hprogress, rfl⟩ := Prod.mk.inj h
    rw [← Except.ok.inj hprogress]
    rfl
  | cons step front ih =>
    obtain ⟨hgo, progress₂, s₂, hstep, hrest⟩ := runSteps_cons_eq_ok h
    rw [List.cons_append, runSteps_cons_of_ok hgo hstep]
    exact ih hrest

theorem reaches_before (w : World σ) (plan : ReleasePlan) (step : Step) (s : Session σ) :
    Reaches w s (before w plan step s) := by
  unfold before
  split
  · exact Reaches.refl.ask _
  · exact Reaches.refl

/-- A step that does not fail, unless it is a publication, only asks and launches. -/
theorem runStep_reaches (hp : step.kind ≠ .publish)
    (h : p.runStep w plan set step progress s = (.ok progress', s')) : Reaches w s s' := by
  rcases runStep_ok hp h with ⟨-, rfl⟩ | ⟨-, rfl, -⟩
  · exact reaches_before w plan step s
  · exact (reaches_before w plan step s).launch _

theorem runSteps_reaches (hp : ∀ step ∈ steps, step.kind ≠ .publish)
    (h : p.runSteps w plan set steps progress s = (.ok progress', s')) : Reaches w s s' := by
  induction steps generalizing progress s with
  | nil =>
    rw [← (Prod.mk.inj h).2]
    exact Reaches.refl
  | cons step steps ih =>
    obtain ⟨-, progress₁, s₁, hstep, hrest⟩ := runSteps_cons_eq_ok h
    exact (runStep_reaches (hp step List.mem_cons_self) hstep).trans
      (ih (fun step' hm => hp step' (List.mem_cons_of_mem step hm)) hrest)

/-! ## How a release fails -/

/-- The ends of a release that fails once it has its vault: it is rolled back, or a stop after an
effect that others see leaves all as it is. -/
inductive Ends (set : BackupSet) (s : Session σ) : ReleaseFailure → Session σ → Prop
  | rolledBack (progress : Progress) (e : ReleaseError)
    (h : e = .interrupted → progress.live = []) :
    Ends set s (rollBack set progress e none s).1 (rollBack set progress e none s).2
  | late (progress : Progress) (h : progress.live ≠ []) :
    Ends set s (progress.failure .interrupted none (some set.dir)) s

/-- Rolling back after the files were copied back is rolling back. -/
theorem rollBack_of_recovers {s₂ : Session σ} {e : ReleaseError} (h : Recovers set failure s s₂) :
    rollBack set progress e failure.restore s₂ = rollBack set progress e none s := by
  obtain ⟨hr, rfl⟩ := h
  rw [hr]
  rfl

theorem ends_of_interrupt (h : interrupt set progress s = (f, s')) : Ends set s f s' := by
  unfold interrupt at h
  split at h
  · rename_i hl
    obtain ⟨rfl, rfl⟩ := Prod.mk.inj h
    exact Ends.rolledBack progress .interrupted fun _ => hl
  · rename_i hl
    obtain ⟨rfl, rfl⟩ := Prod.mk.inj h
    exact Ends.late progress hl

variable [Regex.SizeLimit]

theorem runSteps_ends (hplan : p.prepare o d₀ = .ok plan)
    (h : p.runSteps w plan set plan.steps progress s = (.error f, s')) :
    ∃ s₁, Reaches w s s₁ ∧ Ends set s₁ f s' := by
  obtain ⟨done, step, rest, progress₁, s₁, hsteps, hrun, hend⟩ := runSteps_error h
  have hreach : Reaches w s s₁ := runSteps_reaches
    (fun step' hm => (not_publish_of_append hplan hsteps step' hm).2) hrun
  rcases hend with ⟨-, hint⟩ | ⟨failure, s₂, hstep, hroll⟩
  · exact ⟨s₁, hreach, ends_of_interrupt hint⟩
  · obtain ⟨-, -, hrec⟩ := runStep_error hstep
    rw [rollBack_of_recovers hrec] at hroll
    obtain ⟨rfl, rfl⟩ := Prod.mk.inj hroll
    exact ⟨_, (hreach.trans (reaches_before w plan step s₁)).launch _,
      Ends.rolledBack progress₁ _ (by simp)⟩

/-- The vault is there and the files are updated. -/
structure Secures (p : Project) (o : ReleaseOptions) (plan : ReleasePlan) (s : Session σ)
    (set : BackupSet) (d₁ : Disk) (s₀ : Session σ) : Prop where
  captured : Vault.capture p.vaultDir plan.touched s.disk = (.ok set, d₁)
  updated : s₀.disk = (p.updateFiles o plan d₁).2
  events : ∃ new, s₀.events = s.events ++ new

/-- A release that fails before it has its vault. -/
structure FailsEarly (p : Project) (plan : ReleasePlan) (s : Session σ) (f : ReleaseFailure)
    (s' : Session σ) : Prop where
  restore : f.restore = none
  live : f.live = []
  backupDir : f.backupDir = none
  disk : s'.disk = s.disk ∨ ∃ e, Vault.capture p.vaultDir plan.touched s.disk = (.error e, s'.disk)

/-- **How a release fails.** -/
theorem execute_failed (hplan : p.prepare o d₀ = .ok plan)
    (h : p.execute w o plan s = (.failed f, s')) :
    FailsEarly p plan s f s' ∨
      ∃ set d₁ s₀ s₁, Secures p o plan s set d₁ s₀ ∧ Reaches w s₀ s₁ ∧ Ends set s₁ f s' := by
  have hgoes := execute_goes w p o plan s
  rw [h] at hgoes
  cases hgoes with
  | refused e hcheck => exact Or.inl ⟨rfl, rfl, rfl, Or.inl rfl⟩
  | stopped hcheck hstop => exact Or.inl ⟨rfl, rfl, rfl, Or.inl rfl⟩
  | uncaptured hcheck e d hcap => exact Or.inl ⟨rfl, rfl, rfl, Or.inr ⟨e, hcap⟩⟩
  | notUpdated set d₁ hb e d₂ hup _ _ hroll =>
    obtain ⟨rfl, rfl⟩ := Prod.mk.inj hroll
    exact Or.inr ⟨set, d₁, { (s.ask w (releaseQuestion plan)).2 with disk := d₂ }, _,
      ⟨hb.captured, by rw [hup], _, rfl⟩, Reaches.refl, Ends.rolledBack _ e fun _ => rfl⟩
  | broken set d₁ hb artifacts d₂ hup _ _ hrun =>
    obtain ⟨s₁, hreach, hends⟩ := runSteps_ends hplan hrun
    exact Or.inr ⟨set, d₁, atWork w plan s d₂, s₁, ⟨hb.captured, by rw [hup]; rfl, _, rfl⟩, hreach,
      hends⟩

end Project

end Slipway
