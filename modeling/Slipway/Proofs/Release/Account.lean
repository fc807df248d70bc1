import Slipway.Proofs.Release.Files

/-!
# The account of a release

About the `ReleaseReport` of `ReleaseOrchestrator::execute` (`keel_core::release`). A release that
comes to its end accounts for every step of its plan: the step is completed, or it is skipped with a
warning of its own. It accounts for the declared artifacts, too: an optional one that could not be
updated has a warning of its own.

* `failureLine?`: the warning about an artifact, read off its result.
* `Booked`: the progress accounts for the steps so far. A step that goes on keeps that
  (`runStep_booked`), so a run does (`runSteps_booked`).
* `execute_releases`: when a release comes to its end, and what its report says then.
-/

namespace Slipway.Project

open Session Disk

variable {σ : Type} {w : World σ} {p : Project} {o : ReleaseOptions} {plan : ReleasePlan}
variable {set : BackupSet} {step : Step} {steps done : List Step} {progress progress' : Progress}
variable {s s' : Session σ} {d₀ : Disk} {lines : List String}

/-- The warning about a step that was skipped. -/
def skipLine (skipped : StepKind × String) : String := s!"{skipped.1.name} skipped: {skipped.2}"

/-- The warning about an optional artifact whose file was not found, or in whose file nothing
matched. -/
def failureLine? (r : ArtifactResult) : Option String :=
  match r.optional, r.outcome with
  | true, .failed .notFound => some s!"optional artifact not updated: {r.path} (file not found)"
  | true, .failed .notMatched =>
    some s!"optional artifact not updated: {r.path} (pattern not matched)"
  | _, _ => none

/-- The warnings of an update are those of its results, one by one. -/
theorem artifactWarnings_eq (report : ApplyReport) :
    artifactWarnings report = report.results.filterMap failureLine? := by
  unfold artifactWarnings ApplyReport.warnings
  rw [List.filterMap_filter, List.map_filterMap]
  congr 1
  funext ⟨path, optional, outcome⟩
  cases optional with
  | false => rfl
  | true =>
    cases outcome with
    | updated n => rfl
    | unchanged => rfl
    | failed problem =>
      -- the wording of the issue is put together from its parts
      cases problem with
      | _ =>
        simp [ArtifactResult.issue?, ArtifactIssue.message, ArtifactProblem.message, failureLine?,
          toString, String.append_assoc]

/-- The progress accounts for steps: each one is completed or skipped, in their order, and
every skipped one has a warning of its own, after some other lines. -/
structure Booked (lines : List String) (done : List Step) (progress : Progress) : Prop where
  accounted : (progress.completed ++ progress.skipped.map Prod.fst).Perm (done.map Step.kind)
  completed : progress.completed.Sublist (done.map Step.kind)
  skipped : (progress.skipped.map Prod.fst).Sublist (done.map Step.kind)
  optional : ∀ kind ∈ progress.skipped.map Prod.fst, kind = .deploy ∨ kind = .publish
  warned : (lines ++ progress.skipped.map skipLine).Sublist progress.warnings

theorem booked_mutated (plan : ReleasePlan) (artifacts : ApplyReport) :
    Booked (artifacts.results.filterMap failureLine?) [] (mutated plan artifacts) where
  accounted := List.Perm.refl []
  completed := List.Sublist.refl []
  skipped := List.Sublist.refl []
  optional := by simp [mutated]
  warned := by
    rw [show (mutated plan artifacts).skipped = [] from rfl, List.map_nil, List.append_nil,
      ← artifactWarnings_eq]
    exact List.sublist_append_right plan.warnings _

theorem Booked.warn (h : Booked lines done progress) (more : List String) :
    Booked lines done (progress.warn more) :=
  ⟨h.accounted, h.completed, h.skipped, h.optional,
    h.warned.trans (List.sublist_append_left progress.warnings more)⟩

/-- A skipped step is accounted for. -/
theorem Booked.skip (h : Booked lines done progress)
    (hk : step.kind = .deploy ∨ step.kind = .publish) (reason : String) :
    Booked lines (done ++ [step]) (progress.skip step.kind reason) where
  accounted := by
    have hend := h.accounted.append_right [step.kind]
    simpa [Progress.skip] using hend
  completed := by
    rw [List.map_append]
    exact h.completed.trans (List.sublist_append_left _ _)
  skipped := by
    have hend := h.skipped.append (List.Sublist.refl [step.kind])
    simpa [Progress.skip] using hend
  optional := by
    intro kind hm
    rw [show (progress.skip step.kind reason).skipped = progress.skipped ++ [(step.kind, reason)]
      from rfl, List.map_append] at hm
    rcases List.mem_append.mp hm with hm | hm
    · exact h.optional kind hm
    · rw [List.mem_singleton.mp hm]
      exact hk
  warned := by
    have hend := h.warned.append (List.Sublist.refl [skipLine (step.kind, reason)])
    simpa [Progress.skip, skipLine] using hend

theorem completed_recordSuccess (p : Project) (plan : ReleasePlan) (kind : StepKind)
    (progress : Progress) :
    (p.recordSuccess plan kind progress).completed = progress.completed ++ [kind] ∧
      (p.recordSuccess plan kind progress).skipped = progress.skipped ∧
      (p.recordSuccess plan kind progress).warnings = progress.warnings := by
  unfold recordSuccess
  cases kind with
  | _ => exact ⟨rfl, rfl, rfl⟩

/-- A step that has succeeded is accounted for. -/
theorem Booked.success (h : Booked lines done progress) (p : Project) (plan : ReleasePlan)
    (step : Step) : Booked lines (done ++ [step]) (p.recordSuccess plan step.kind progress) := by
  obtain ⟨hcompleted, hskipped, hwarnings⟩ :=
    completed_recordSuccess p plan step.kind progress
  refine ⟨?accounted, ?completed, ?skipped, ?optional, ?warned⟩
  case accounted =>
    have hend := h.accounted.append_right [step.kind]
    rw [hcompleted, hskipped, List.map_append]
    refine List.Perm.trans ?_ hend
    rw [List.append_assoc, List.append_assoc]
    exact List.perm_append_comm.append_left progress.completed
  case completed =>
    have hend := h.completed.append (List.Sublist.refl [step.kind])
    rw [hcompleted, List.map_append]
    exact hend
  case skipped =>
    rw [hskipped, List.map_append]
    exact h.skipped.trans (List.sublist_append_left _ _)
  case optional =>
    rw [hskipped]
    exact h.optional
  case warned =>
    rw [hskipped, hwarnings]
    exact h.warned

theorem Booked.result (h : Booked lines done progress) (hk : step.kind = .publish)
    (p : Project) (plan : ReleasePlan) (result : StepResult) :
    Booked lines (done ++ [step]) (p.recordResult plan step.kind progress result) := by
  by_cases hs : result.isSuccess = true
  · rw [recordResult_of_isSuccess hs]
    exact h.success p plan step
  · obtain ⟨reason, hreason⟩ := recordResult_of_not_isSuccess p plan step.kind progress hs
    rw [hreason]
    exact h.skip (Or.inr hk) reason

/-- **A step that goes on** is accounted for. -/
theorem runStep_booked (h : Booked lines done progress)
    (hr : step.required = true ∨ step.kind = .publish)
    (hrun : p.runStep w plan set step progress s = (.ok progress', s')) :
    Booked lines (done ++ [step]) progress' := by
  have hgoes := runStep_goes w p plan set step progress s
  rw [hrun] at hgoes
  cases hgoes with
  | declined hd =>
    have hskip := h.skip (Or.inl hd.1) "declined by operator"
    rwa [hd.1] at hskip
  | succeeded hp hd hs => exact h.success p plan step
  | passedOver hp hd hs hr' reason =>
    rcases hr with hr | hk
    · exact absurd (hr.symm.trans hr') (by simp)
    · exact absurd hk hp
  | published hk result warnings _ hpub => exact (h.warn warnings).result hk p plan result

/-- **A run** accounts for all its steps. -/
theorem runSteps_booked (h : Booked lines done progress)
    (hr : ∀ step ∈ steps, step.required = true ∨ step.kind = .publish)
    (hrun : p.runSteps w plan set steps progress s = (.ok progress', s')) :
    Booked lines (done ++ steps) progress' := by
  induction steps generalizing done progress s with
  | nil =>
    rw [← Except.ok.inj (Prod.mk.inj hrun).1, List.append_nil]
    exact h
  | cons step steps ih =>
    obtain ⟨-, progress₁, s₁, hstep, hrest⟩ := runSteps_cons_eq_ok hrun
    have hbooked := runStep_booked h (hr step List.mem_cons_self) hstep
    have hall := ih hbooked (fun step' hm => hr step' (List.mem_cons_of_mem step hm)) hrest
    rwa [List.append_assoc, List.singleton_append] at hall

/-- What the report of a release says about its plan: every step was either completed or skipped,
once and in its order. Only a deployment and a publication may be skipped. There is a result for
every declared artifact. Every step that was skipped, and every optional artifact that was not
updated, has a warning of its own. -/
structure Accounts (p : Project) (plan : ReleasePlan) (report : ReleaseReport) : Prop where
  accounted : (report.completed ++ report.skipped.map Prod.fst).Perm (plan.steps.map Step.kind)
  once : (plan.steps.map Step.kind).Nodup
  completed : report.completed.Sublist (plan.steps.map Step.kind)
  skipped : (report.skipped.map Prod.fst).Sublist (plan.steps.map Step.kind)
  optional : ∀ kind ∈ report.skipped.map Prod.fst, kind = .deploy ∨ kind = .publish
  declared : report.artifacts.results.map (fun r => (r.path, r.optional)) =
    p.config.artifacts.map fun a => (a.path, a.optional)
  warned : (report.artifacts.results.filterMap failureLine? ++ report.skipped.map skipLine).Sublist
    report.warnings

section

variable [Regex.SizeLimit]

theorem declared_of_updateFiles {d d' : Disk} {report : ApplyReport}
    (h : p.updateFiles o plan d = (.ok report, d')) :
    report.results.map (fun r => (r.path, r.optional)) =
      p.config.artifacts.map fun a => (a.path, a.optional) := by
  obtain ⟨rows, d₁, hrows, rfl, -, -⟩ := updateFiles_eq_ok h
  rw [← hrows.artifacts, List.map_map, List.map_map]
  rfl

/-- **The outcome of a release.** It comes to its end exactly if the changelog is accepted, the
operator confirms, the files are captured and updated, no request to stop is found, and every
required step succeeds, unless it is a deployment that is declined. A publication is never required.
Its report then accounts for the plan. -/
theorem execute_releases (hplan : p.prepare o d₀ = .ok plan) (w : World σ) (s : Session σ) :
    ((∃ report s', p.execute w o plan s = (.released report, s')) ↔ ComesThrough w p o plan s) ∧
      (∀ step ∈ plan.steps, step.required = true ↔ step.kind ≠ .publish) ∧
      ∀ report s', p.execute w o plan s = (.released report, s') → Accounts p plan report := by
  have hreq : ∀ step ∈ plan.steps, step.required = true ↔ step.kind ≠ .publish :=
    fun step hm => required_iff hplan hm
  refine ⟨execute_released_iff fun step hm hk => ?_, hreq, fun report s' h => ?_⟩
  · rw [← Bool.not_eq_true]
    exact fun hr => (hreq step hm).mp hr hk
  · have hgoes := execute_goes w p o plan s
    rw [h] at hgoes
    cases hgoes with
    | released set d₁ hb artifacts d₂ hup progress s₁ hrun =>
      have hbooked := (runSteps_booked (booked_mutated plan artifacts) (fun step hm => ?_)
        hrun).warn (p.emptyVault set s₁.disk).1
      · rw [List.nil_append] at hbooked
        exact ⟨hbooked.accounted, nodup_kinds hplan, hbooked.completed, hbooked.skipped,
          hbooked.optional, declared_of_updateFiles hup, hbooked.warned⟩
      · by_cases hk : step.kind = .publish
        · exact Or.inr hk
        · exact Or.inl ((hreq step hm).mpr hk)

end

/-- A release that publishes. -/
def publishOptions : ReleaseOptions := { tinyOptions with publish := true }

/-- The plan of the release. -/
def publishPlan : ReleasePlan :=
  { tinyPlan "kept" [] with
    steps := (tiny "kept" []).steps publishOptions tinyDisk ⟨1, 1, 0⟩ "v1.1.0"
    warnings := (tiny "kept" []).planWarnings publishOptions }

/-- A world in which the program of the host cannot be launched. -/
def hostlessWorld : World Unit where
  launch := fun c d m =>
    ⟨if c.program = (tiny "kept" []).host.settings.program then .error "not installed"
      else .ok ⟨0, "", ""⟩, d, false, m⟩
  ask := fun _ m => ⟨true, false, m⟩

/-- Two optional artifacts: one whose file is missing, and one that is not matched in its file. -/
def strayArtifacts : List Artifact :=
  [{ Artifact.ofSearch "data" "v{version}" with optional := true },
   { Artifact.ofSearch "VERSION" "v{version}" with optional := true }]

/-- The plan of a release that publishes, with these artifacts. -/
def strayPlan : ReleasePlan :=
  { tinyPlan "kept" strayArtifacts with
    steps := (tiny "kept" strayArtifacts).steps publishOptions tinyDisk ⟨1, 1, 0⟩ "v1.1.0"
    warnings := (tiny "kept" strayArtifacts).planWarnings publishOptions }

/-- Both artifacts and the publication have their lines. -/
theorem execute_releases_hostless :
    (tiny "kept" strayArtifacts).prepare publishOptions tinyDisk = .ok strayPlan ∧
    ∃ report s', (tiny "kept" strayArtifacts).execute hostlessWorld publishOptions strayPlan
        (Session.start tinyDisk ()) = (.released report, s') ∧
      report.artifacts.results.map ArtifactResult.outcome =
        [.failed .notFound, .failed .notMatched] ∧
      report.skipped.map Prod.fst = [.publish] ∧
      report.warnings =
        ["optional artifact not updated: data (file not found)",
         "optional artifact not updated: VERSION (pattern not matched)",
         "publish skipped: gh not found: not installed"] ∧
      Accounts (tiny "kept" strayArtifacts) strayPlan report := by
  have hplan : (tiny "kept" strayArtifacts).prepare publishOptions tinyDisk = .ok strayPlan :=
    ok_of_toOption (by decide +kernel)
  have hend : (match ((tiny "kept" strayArtifacts).execute hostlessWorld publishOptions strayPlan
      (Session.start tinyDisk ())).1 with
      | .released report => some (report.artifacts.results.map ArtifactResult.outcome,
        report.skipped.map Prod.fst, report.warnings)
      | _ => none) = some ([.failed .notFound, .failed .notMatched], [.publish],
        ["optional artifact not updated: data (file not found)",
         "optional artifact not updated: VERSION (pattern not matched)",
         "publish skipped: gh not found: not installed"]) := by decide +kernel
  obtain ⟨-, -, haccounts⟩ := execute_releases hplan hostlessWorld (Session.start tinyDisk ())
  refine ⟨hplan, ?_⟩
  cases hrun : (tiny "kept" strayArtifacts).execute hostlessWorld publishOptions strayPlan
      (Session.start tinyDisk ()) with
  | mk outcome s' =>
    rw [hrun] at hend
    cases outcome with
    | released report =>
      obtain ⟨houtcomes, hrest⟩ := Prod.mk.inj (Option.some.inj hend)
      obtain ⟨hskipped, hwarnings⟩ := Prod.mk.inj hrest
      exact ⟨report, s', rfl, houtcomes, hskipped, hwarnings, haccounts report s' hrun⟩
    | aborted => exact absurd hend (by simp)
    | failed f => exact absurd hend (by simp)

end Slipway.Project
