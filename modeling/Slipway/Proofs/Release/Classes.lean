import Slipway.Config.Validate
import Slipway.Proofs.Changelog.Promote
import Slipway.Proofs.Release.Trace
import Slipway.Proofs.Vault.Capture

/-!
# Classes of errors and states of a release

About `CoreError::kind` (`keel_core::error`) and `ReleaseOrchestrator::execute`
(`keel_core::release`). The class of an error says how far the release had come that fails with it.

* `capture_error_class`, `updateFiles_error_class`: the errors of each phase. The pattern of an
  artifact is only compiled when the artifact is updated (`Artifact.BadPattern`), and the one of the
  compare link only when the changelog is promoted (`Project.BadLink`).
* `runSteps_mutated`: from the first step on the state is never below `filesMutated`.
* `execute_failed_class`: what the class of an error tells about the release that fails with it.
* `execute_refuses_late`: a pattern that does not compile is an error of validation, and comes after
  the files were copied.
-/

namespace Slipway

open Disk

variable {root : String} {d d' d₁ : Disk} {e : ReleaseError} {old new : Version}

/-- An error of the disk has its own class. -/
theorem ofDisk_error {α : Type} {x : Except DiskError α} (h : ofDisk x = .error e) :
    e.kind = .io := by
  cases x with
  | error cause =>
    rw [← Except.error.inj h]
    rfl
  | ok a => exact absurd h (by simp [ofDisk])

/-! ## The errors of an update -/

section

variable [Regex.SizeLimit]

namespace Artifact

variable {a : Artifact}

/-- The pattern of an artifact does not compile, and the error says why. -/
structure BadPattern (a : Artifact) (version : Version) (e : ReleaseError) : Prop where
  matcher : a.matcher = .regex
  defect : ∃ defect,
    Regex.compile (regexPattern a.search.toList version.text.toList) = .error defect ∧
      e = .invalidPattern (String.ofList (regexPattern a.search.toList version.text.toList))
        defect.message

theorem substitute_error {content : String} (h : a.substitute content old new = .error e) :
    a.BadPattern old e := by
  unfold substitute at h
  cases hm : a.matcher with
  | literal =>
    rw [hm] at h
    exact absurd h (by simp)
  | regex =>
    rw [hm] at h
    cases hc : Regex.compile (regexPattern a.search.toList old.text.toList) with
    | ok program =>
      simp only [hc] at h
      exact absurd h (by simp)
    | error defect =>
      simp only [hc] at h
      exact ⟨hm, defect, hc, (Except.error.inj h).symm⟩

theorem findingIn_error {text : String} (h : a.findingIn old new text = .error e) :
    a.BadPattern old e :=
  substitute_error (map_eq_error_iff.mp h)

theorem BadPattern.kind (h : a.BadPattern old e) : e.kind = .validation := by
  obtain ⟨-, -, -, rfl⟩ := h
  rfl

theorem examine_error (h : a.examine root d old new = .error e) :
    e.kind = .io ∨ a.BadPattern old e := by
  by_cases hp : d.pathExists (a.fullPath root) = true
  · cases ht : ofDisk (d.readText (a.fullPath root)) with
    | error e' =>
      unfold examine at h
      rw [hp, ht] at h
      rw [← Except.error.inj h]
      exact Or.inl (ofDisk_error ht)
    | ok text =>
      rw [examine_of_text (readText_eq_ok_iff.mp (ofDisk_eq_ok_iff.mp ht))] at h
      exact Or.inr (findingIn_error h)
  · rw [examine_of_missing (Bool.not_eq_true _ ▸ hp)] at h
    exact absurd h (by simp)

theorem update_error (h : a.update root d old new = .error e) :
    e.kind = .io ∨ a.BadPattern old e := by
  unfold update at h
  split at h
  · rename_i e' hexamine
    rw [← Except.error.inj h]
    exact examine_error hexamine
  · exact absurd h (by simp)
  · rename_i before after hexamine
    split at h
    · exact absurd h (by simp)
    · exact Or.inl (ofDisk_error (map_eq_error_iff.mp h))

end Artifact

theorem Artifacts.apply_error {artifacts : List Artifact}
    (h : Artifacts.apply root old new artifacts d = (.error e, d')) :
    e.kind = .io ∨ ∃ a ∈ artifacts, a.BadPattern old e := by
  induction artifacts generalizing d d' with
  | nil => exact absurd (Prod.mk.inj h).1 (by simp)
  | cons a artifacts ih =>
    rw [Artifacts.apply_cons] at h
    split at h
    · rename_i e' hupdate
      rw [← Except.error.inj (Prod.mk.inj h).1]
      exact (Artifact.update_error hupdate).imp_right fun hbad => ⟨a, List.mem_cons_self, hbad⟩
    · rename_i outcome d₁ hupdate
      have hrest : (Artifacts.apply root old new artifacts d₁).1 = .error e :=
        map_eq_error_iff.mp (Prod.mk.inj h).1
      refine (ih (Prod.ext hrest rfl)).imp_right ?_
      rintro ⟨b, hb, hbad⟩
      exact ⟨b, List.mem_cons_of_mem a hb, hbad⟩

end

namespace Project

variable {σ : Type} {w : World σ} {p : Project} {o : ReleaseOptions} {plan : ReleasePlan}

theorem loadChangelog_error (h : p.loadChangelog d = .error e) :
    (d.pathExists p.changelogPath = false ∧ e.kind = .validation) ∨ e.kind = .io := by
  unfold loadChangelog Changelog.load at h
  split at h
  · exact Or.inr (ofDisk_error (map_eq_error_iff.mp h))
  · rename_i hmissing
    rw [← Except.error.inj h]
    exact Or.inl ⟨Bool.not_eq_true _ ▸ hmissing, rfl⟩

theorem checkChangelog_error (h : p.checkChangelog d = .error e) :
    e.kind = .validation ∨ e.kind = .io := by
  unfold checkChangelog at h
  cases hl : p.loadChangelog d with
  | error e' =>
    rw [hl] at h
    rw [← Except.error.inj h]
    exact (loadChangelog_error hl).imp_left And.right
  | ok changelog =>
    rw [hl] at h
    simp only [bind, Except.bind, Changelog.checkReady] at h
    split at h
    · exact absurd h (by simp)
    · rw [← Except.error.inj h]
      exact Or.inl rfl

theorem pathExists_of_checkChangelog (h : p.checkChangelog d = .ok ()) :
    d.pathExists p.changelogPath = true := by
  unfold checkChangelog at h
  cases hl : p.loadChangelog d with
  | error e =>
    rw [hl] at h
    exact absurd h (by simp [bind, Except.bind])
  | ok changelog => exact pathExists_of_loadChangelog hl

section

variable [Regex.SizeLimit]

/-- The expression of the compare link is too large for the engine, and the error says so. -/
structure BadLink (p : Project) (e : ReleaseError) : Prop where
  oversized : Regex.SizeLimit.admits
    (Changelog.CompareLink.pattern p.config.version.tagPrefix.toList) = false
  error : e = .invalidPattern
    (String.ofList (Changelog.CompareLink.pattern p.config.version.tagPrefix.toList))
    Regex.Defect.tooLarge.message

theorem BadLink.kind (h : p.BadLink e) : e.kind = .validation := by
  rw [h.error]
  rfl

theorem promote_error_class {changelog : Changelog} {next : Version} {date : Date}
    (hl : p.loadChangelog d = .ok changelog) (h : changelog.promote next date = .error e) :
    e.kind = .mutation ∨ p.BadLink e := by
  obtain ⟨text, -, rfl⟩ := loadChangelog_eq_ok_iff.mp hl
  rcases Changelog.promote_error h with rfl | rfl | ⟨hfits, rfl⟩
  · exact Or.inl rfl
  · exact Or.inl rfl
  · exact Or.inr ⟨Bool.eq_false_iff.mpr hfits, rfl⟩

theorem promoteChangelog_error {next : Version} (hp : d.pathExists p.changelogPath = true)
    (h : p.promoteChangelog o next d = .error e) :
    e.kind = .mutation ∨ e.kind = .io ∨ p.BadLink e := by
  unfold promoteChangelog at h
  cases hl : p.loadChangelog d with
  | error e' =>
    rw [hl] at h
    rw [← Except.error.inj h]
    rcases loadChangelog_error hl with ⟨hmissing, -⟩ | hio
    · rw [hp] at hmissing
      exact absurd hmissing (by simp)
    · exact Or.inr (Or.inl hio)
  | ok changelog =>
    rw [hl] at h
    simp only [bind, Except.bind] at h
    cases ht : changelog.promote next o.date with
    | error e' =>
      rw [ht] at h
      rw [← Except.error.inj h]
      exact (promote_error_class hl ht).imp_right Or.inr
    | ok text =>
      rw [ht] at h
      exact Or.inr (Or.inl (ofDisk_error h))

/-- A pattern that an update needs does not compile: the one of an artifact, or the one of the
compare link. -/
def Uncompiled (p : Project) (plan : ReleasePlan) (e : ReleaseError) : Prop :=
  (∃ a ∈ p.config.artifacts, a.BadPattern plan.current e) ∨ p.BadLink e

theorem Uncompiled.kind (h : p.Uncompiled plan e) : e.kind = .validation := by
  rcases h with ⟨a, -, hbad⟩ | hbad
  · exact hbad.kind
  · exact hbad.kind

/-- **The errors of an update**, of a project whose changelog is there. -/
theorem updateFiles_error_class (hp : d.pathExists p.changelogPath = true)
    (h : p.updateFiles o plan d = (.error e, d')) :
    e.kind = .mutation ∨ e.kind = .io ∨ p.Uncompiled plan e := by
  have happly := p.apply_wrote plan.current plan.next (fun _ => id) d
  unfold updateFiles at h
  split at h
  · rename_i e' d₁ hfail
    rw [← Except.error.inj (Prod.mk.inj h).1]
    exact Or.inr ((Artifacts.apply_error hfail).imp_right Or.inl)
  · rename_i report d₁ hdone
    rw [hdone] at happly
    split at h
    · rw [← Except.error.inj (Prod.mk.inj h).1]
      exact Or.inl rfl
    · split at h
      · rename_i e' hpromote
        rw [← Except.error.inj (Prod.mk.inj h).1]
        exact (promoteChangelog_error (happly.pathExists hp) hpromote).imp_right
          (Or.imp_right Or.inr)
      · exact absurd (Prod.mk.inj h).1 (by simp)

end

end Project

/-! ## The errors of a capture -/

namespace Vault

variable {dir path : String} {paths : List String} {set : BackupSet} {i : Nat}

theorem copyAll_error_class (h : copyAll dir i paths d = (.error e, d')) : e.kind = .io := by
  induction paths generalizing i d d' with
  | nil => exact absurd (Prod.mk.inj h).1 (by simp)
  | cons path paths ih =>
    -- the error of the rest is the error of the whole
    have hrest : ∀ {j d₁} {c : CapturedPath},
        (copyAll dir j paths d₁).1.map (c :: ·) = .error e → e.kind = .io := by
      intro j d₁ c hmap
      exact ih (Prod.ext (map_eq_error_iff.mp hmap) rfl)
    cases hp : d.pathExists path with
    | false =>
      rw [copyAll_of_missing hp] at h
      exact hrest (Prod.mk.inj h).1
    | true =>
      rw [copyAll_of_exists hp] at h
      split at h
      · rw [← Except.error.inj (Prod.mk.inj h).1]
        rfl
      · exact hrest (Prod.mk.inj h).1

/-- **The errors of a capture**: it finds something where the vault is to be, or the disk fails. -/
theorem capture_error_class (h : capture dir paths d = (.error e, d')) :
    (e = .staleBackup dir ∧ d' = d) ∨ e.kind = .io := by
  unfold capture at h
  split at h
  · obtain ⟨he, hd⟩ := Prod.mk.inj h
    exact Or.inl ⟨(Except.error.inj he).symm, hd.symm⟩
  · refine Or.inr ?_
    split at h
    · rw [← Except.error.inj (Prod.mk.inj h).1]
      rfl
    · split at h
      · exact absurd (Prod.mk.inj h).1 (by simp)
      · rename_i made hmade e' filled hfill
        rw [← Except.error.inj (Prod.mk.inj h).1]
        unfold fill at hfill
        split at hfill
        · rename_i hcopy
          rw [← Except.error.inj (Prod.mk.inj hfill).1]
          exact copyAll_error_class hcopy
        · split at hfill
          · rw [← Except.error.inj (Prod.mk.inj hfill).1]
            rfl
          · exact absurd (Prod.mk.inj hfill).1 (by simp)

end Vault

/-! ## The states of a run -/

namespace ReleaseState

/-- No step leads back to a state before the first one. -/
theorem le_advance {state : ReleaseState} (h : .filesMutated ≤ state) (kind : StepKind) :
    .filesMutated ≤ state.advance kind := by
  cases kind with
  | stage => exact h
  | pushCommits => exact h
  | _ => exact of_decide_eq_true rfl

end ReleaseState

namespace Project

open Session

variable {σ : Type} {w : World σ} {p : Project} {o : ReleaseOptions} {plan : ReleasePlan}
variable {set : BackupSet} {step : Step} {steps : List Step} {progress progress' : Progress}
variable {s s' : Session σ} {f : ReleaseFailure} {d₀ : Disk}

theorem state_recordSuccess (p : Project) (plan : ReleasePlan) (kind : StepKind)
    (progress : Progress) :
    (p.recordSuccess plan kind progress).state = progress.state.advance kind := by
  unfold recordSuccess
  cases kind with
  | _ => rfl

theorem recordResult_mutated (h : .filesMutated ≤ progress.state) (p : Project) (plan : ReleasePlan)
    (kind : StepKind) (result : StepResult) :
    .filesMutated ≤ (p.recordResult plan kind progress result).state := by
  by_cases hs : result.isSuccess = true
  · rw [recordResult_of_isSuccess hs, state_recordSuccess]
    exact ReleaseState.le_advance h kind
  · obtain ⟨reason, hreason⟩ := recordResult_of_not_isSuccess p plan kind progress hs
    rw [hreason]
    exact h

theorem runStep_mutated (h : .filesMutated ≤ progress.state)
    (hrun : p.runStep w plan set step progress s = (.ok progress', s')) :
    .filesMutated ≤ progress'.state := by
  have hgoes := runStep_goes w p plan set step progress s
  rw [hrun] at hgoes
  cases hgoes with
  | declined hd => exact h
  | succeeded hp hd hs =>
    rw [state_recordSuccess]
    exact ReleaseState.le_advance h step.kind
  | passedOver hp hd hs hr reason => exact h
  | published hp result warnings _ hpub => exact recordResult_mutated (by exact h) p plan _ result

/-- **From the first step on** the files count as updated. -/
theorem runSteps_mutated (h : .filesMutated ≤ progress.state)
    (hrun : p.runSteps w plan set steps progress s = (.ok progress', s')) :
    .filesMutated ≤ progress'.state := by
  induction steps generalizing progress s with
  | nil =>
    rw [← Except.ok.inj (Prod.mk.inj hrun).1]
    exact h
  | cons step steps ih =>
    obtain ⟨-, progress₁, s₁, hstep, hrest⟩ := runSteps_cons_eq_ok hrun
    exact ih (runStep_mutated h hstep) hrest

/-! ## What a failure tells -/

/-- Nothing was touched: the release did not come to its work. -/
structure Untouched (w : World σ) (p : Project) (plan : ReleasePlan) (s : Session σ)
    (f : ReleaseFailure) (s' : Session σ) : Prop where
  state : f.state < .backedUp
  restore : f.restore = none
  unnamed : f.backupDir = none
  disk : s'.disk = s.disk
  uncaptured : ∀ set d₁, ¬ Begins w p plan s set d₁

/-- The files were updated, and then the command of a required step did not exit with status zero.
It was the last command. -/
structure BrokenOff (plan : ReleasePlan) (s : Session σ) (f : ReleaseFailure) (s' : Session σ) :
    Prop where
  state : .filesMutated ≤ f.state
  command : ∃ step ∈ plan.steps, step.required = true ∧ ∃ past d result stop,
    s'.events = s.events ++ past ++ [.launched step.command d result stop] ∧ ¬ Exited result

theorem rollBack_eq {restored : Option RestoreReport} {e : ReleaseError}
    (h : rollBack set progress e restored s = (f, s')) :
    f.error = e ∧ f.state = progress.state ∧ f.rolledBack = true ∧ s'.events = s.events := by
  unfold rollBack at h
  obtain ⟨rfl, rfl⟩ := Prod.mk.inj h
  exact ⟨rfl, rfl, rfl, rfl⟩

theorem not_exited_of_not_succeeds (h : ¬ step.Succeeds w s) :
    ¬ Exited (s.launch w step.command).1 := by
  rintro ⟨output, hout, hexit⟩
  exact h ⟨output, hout, beq_iff_eq.mpr hexit⟩

theorem interrupt_error (h : interrupt set progress s = (f, s')) : f.error = .interrupted := by
  unfold interrupt at h
  split at h
  · exact (rollBack_eq h).1
  · rw [← (Prod.mk.inj h).1]
    rfl

theorem BrokenOff.prepend {s₁ : Session σ} (h : BrokenOff plan s₁ f s') {e : List Event}
    (he : s₁.events = s.events ++ e) : BrokenOff plan s f s' := by
  obtain ⟨step, hm, hr, past, d, result, stop, hevents, hno⟩ := h.command
  refine ⟨h.state, step, hm, hr, e ++ past, d, result, stop, ?_, hno⟩
  rw [hevents, he, List.append_assoc s.events e past]

section

variable [Regex.SizeLimit]

/-- The files were copied and copied back, because a pattern does not compile. -/
structure RefusedLate (w : World σ) (p : Project) (plan : ReleasePlan) (s : Session σ)
    (f : ReleaseFailure) : Prop where
  state : f.state = .backedUp
  restore : f.rolledBack = true
  captured : ∃ set d₁, Begins w p plan s set d₁
  pattern : p.Uncompiled plan f.error

/-- What the class of an error tells. -/
structure ClassTells (w : World σ) (p : Project) (plan : ReleasePlan) (s : Session σ)
    (f : ReleaseFailure) (s' : Session σ) : Prop where
  validation : f.error.kind = .validation →
    Untouched w p plan s f s' ∨ RefusedLate w p plan s f
  mutation : f.error.kind = .mutation → f.state = .backedUp
  step : f.error.kind = .step → BrokenOff plan s f s'

/-- A run that fails is interrupted, or it is broken off by a command. -/
theorem runSteps_class (hplan : p.prepare o d₀ = .ok plan)
    (hstate : .filesMutated ≤ progress.state)
    (h : p.runSteps w plan set plan.steps progress s = (.error f, s')) :
    f.error = .interrupted ∨ (f.error.kind = .step ∧ BrokenOff plan s f s') := by
  obtain ⟨done, step, rest, progress₁, s₁, hsteps, hrun, hend⟩ := runSteps_error h
  rcases hend with ⟨-, hint⟩ | ⟨failure, s₂, hstep, hroll⟩
  · exact Or.inl (interrupt_error hint)
  · refine Or.inr ?_
    obtain ⟨herror, hreached, -, hevents⟩ := rollBack_eq hroll
    have hreach : Reaches w s s₁ := runSteps_reaches
      (fun step' hm => (not_publish_of_append hplan hsteps step' hm).2) hrun
    obtain ⟨past, hpast⟩ := (hreach.trans (reaches_before w plan step s₁)).events
    have hm : step ∈ plan.steps := by
      rw [hsteps]
      exact List.mem_append_right done List.mem_cons_self
    have hgoes := runStep_goes w p plan set step progress₁ s₁
    rw [hstep] at hgoes
    cases hgoes with
    | failed hp hd hno hr _ _ hback =>
      have hrec : Recovers set failure ((before w plan step s₁).launch w step.command).2 s₂ := hback
      have hlast : s'.events = s.events ++ past ++ [.launched step.command
          (before w plan step s₁).disk ((before w plan step s₁).launch w step.command).1
          (w.launch step.command (before w plan step s₁).disk
            (before w plan step s₁).world).stop] := by
        rw [hevents, hrec.2, ← hpast]
        rfl
      refine ⟨by rw [herror]; rfl, ?_, step, hm, hr, past, _, _, _, hlast,
        not_exited_of_not_succeeds hno⟩
      rw [hreached]
      exact runSteps_mutated hstate hrun

/-- The other classes tell nothing. -/
theorem classTells_of_other (h : f.error.kind = .io ∨ f.error.kind = .interrupted) :
    ClassTells w p plan s f s' := by
  have hno : f.error.kind ≠ .validation ∧ f.error.kind ≠ .mutation ∧ f.error.kind ≠ .step := by
    rcases h with h | h
    · simp [h]
    · simp [h]
  exact ⟨fun hk => absurd hk hno.1, fun hk => absurd hk hno.2.1, fun hk => absurd hk hno.2.2⟩

theorem Untouched.classTells (h : Untouched w p plan s f s') (hk : f.error.kind = .validation) :
    ClassTells w p plan s f s' :=
  ⟨fun _ => Or.inl h, fun hm => absurd (hk.symm.trans hm) (by simp),
    fun hs => absurd (hk.symm.trans hs) (by simp)⟩

/-- **What the class of an error tells.** A release that fails in validation has touched nothing,
unless it has copied the files and then come to a pattern that does not compile. One that fails in
mutation has copied the files and run no step. One that fails in a step has updated the files, and
its last command, which belongs to a required step, was not launched or did not exit with status
zero. -/
theorem execute_failed_class (hplan : p.prepare o d₀ = .ok plan)
    (hrun : p.execute w o plan s = (.failed f, s')) : ClassTells w p plan s f s' := by
  have hgoes := execute_goes w p o plan s
  rw [hrun] at hgoes
  cases hgoes with
  | refused e hcheck =>
    rcases checkChangelog_error hcheck with hk | hk
    · refine Untouched.classTells ⟨of_decide_eq_true rfl, rfl, rfl, rfl, fun set d₁ hb => ?_⟩ hk
      exact absurd (hcheck.symm.trans hb.checked) (by simp)
    · exact classTells_of_other (Or.inl hk)
  | stopped hcheck hstop => exact classTells_of_other (Or.inr rfl)
  | uncaptured hcheck e d hcap =>
    rcases Vault.capture_error_class hcap with ⟨rfl, rfl⟩ | hk
    · refine Untouched.classTells ⟨of_decide_eq_true rfl, rfl, rfl, rfl, fun set d₁ hb => ?_⟩ rfl
      exact absurd (Prod.mk.inj (hcap.symm.trans hb.captured)).1 (by simp)
    · exact classTells_of_other (Or.inl hk)
  | notUpdated set d₁ hb e d₂ hup _ _ hroll =>
    obtain ⟨rfl, hreached, hback, -⟩ := rollBack_eq hroll
    have hstate : f.state = .backedUp := hreached
    have hchangelog : d₁.pathExists p.changelogPath = true :=
      Vault.pathExists_capture hb.captured (pathExists_of_checkChangelog hb.checked)
    rcases updateFiles_error_class hchangelog hup with hk | hk | hbad
    · exact ⟨fun hv => absurd (hk.symm.trans hv) (by simp), fun _ => hstate,
        fun hs => absurd (hk.symm.trans hs) (by simp)⟩
    · exact classTells_of_other (Or.inl hk)
    · have hk : f.error.kind = .validation := hbad.kind
      exact ⟨fun _ => Or.inr ⟨hstate, hback, ⟨set, d₁, hb⟩, hbad⟩,
        fun hm => absurd (hk.symm.trans hm) (by simp),
        fun hs => absurd (hk.symm.trans hs) (by simp)⟩
  | broken set d₁ hb artifacts d₂ hup _ _ hsteps =>
    have hstart : .filesMutated ≤ (mutated plan artifacts).state := of_decide_eq_true rfl
    rcases runSteps_class hplan hstart hsteps with hint | ⟨hk, hbroken⟩
    · exact classTells_of_other (Or.inr (by rw [hint]; rfl))
    · refine ⟨fun hv => absurd (hk.symm.trans hv) (by simp),
        fun hm => absurd (hk.symm.trans hm) (by simp), fun _ => ?_⟩
      exact hbroken.prepend rfl

end

/-! ### The small project -/

/-- An artifact whose pattern opens a group and does not close it. -/
def brokenPattern : Artifact :=
  { Artifact.ofSearch "VERSION" "({version}" with
    replace := some "{version}"
    matcher := .regex }

/-- How a release of the project ends. -/
def patternFailure : ReleaseFailure where
  error := .invalidPattern "(1\\.0\\.0" "unclosed group"
  state := .backedUp
  restore := some ⟨["app/VERSION", "app/CHANGELOG.md"], [], []⟩
  live := []
  localEffects := []
  backupDir := none

/-- A release of the project. -/
def patternRun : ReleaseOutcome × Session Unit :=
  (tiny "kept" [brokenPattern]).execute quietWorld tinyOptions (tinyPlan "kept" [brokenPattern])
    (Session.start tinyDisk ())

theorem prepare_brokenPattern : (tiny "kept" [brokenPattern]).prepare tinyOptions tinyDisk =
    .ok (tinyPlan "kept" [brokenPattern]) :=
  ok_of_toOption (by decide +kernel)

theorem patternRun_eq : patternRun = (.failed patternFailure, patternRun.2) :=
  pair_of_fst (by decide +kernel)

theorem execute_failed_class_pattern :
    (tiny "kept" [brokenPattern]).prepare tinyOptions tinyDisk =
      .ok (tinyPlan "kept" [brokenPattern]) ∧
    patternRun = (.failed patternFailure, patternRun.2) ∧
    ClassTells quietWorld (tiny "kept" [brokenPattern]) (tinyPlan "kept" [brokenPattern])
      (Session.start tinyDisk ()) patternFailure patternRun.2 :=
  ⟨prepare_brokenPattern, patternRun_eq, execute_failed_class prepare_brokenPattern patternRun_eq⟩

/-- A configuration is accepted with a pattern that does not compile, and the release is refused
after the files were copied. -/
theorem execute_refuses_late :
    (tiny "kept" [brokenPattern]).config.validate = .ok () ∧
    (tiny "kept" [brokenPattern]).prepare tinyOptions tinyDisk =
      .ok (tinyPlan "kept" [brokenPattern]) ∧
    patternRun = (.failed patternFailure, patternRun.2) ∧
    patternFailure.error.kind = .validation ∧ patternFailure.state = .backedUp ∧
    patternFailure.restore ≠ none :=
  ⟨ok_of_toOption (by decide +kernel), prepare_brokenPattern, patternRun_eq, rfl, rfl, by decide⟩

end Project

end Slipway
