import Slipway.Proofs.Release.Record

/-!
# What a release reports of its effects

About the `ReleaseFailure` of `ReleaseOrchestrator::execute` (`keel_core::release`). A release that
fails tells how far it has come: the state it has reached, the effects that others see and those on
this machine. All of this can be read off its events.

* `runSteps_turns`: the turns of a run, what they achieve, and how the run fails.
* `reached_rises`: the states of a release stand in their order, each at most once.
* `execute_reports`: the turns of a release, and what its report or its failure says about them.
-/

namespace Slipway.Project

open Session Disk

variable {σ : Type} {w : World σ} {p : Project} {o : ReleaseOptions} {plan : ReleasePlan}
variable {set : BackupSet} {step : Step} {steps : List Step} {progress progress' : Progress}
variable {s s' : Session σ} {d₀ : Disk} {turns : List Turn} {f : ReleaseFailure}
variable {phases : List ReleaseState}

/-! ## A run and its turns -/

/-- A failure tells of a progress. -/
def Tells (f : ReleaseFailure) (progress : Progress) : Prop :=
  ∃ e restore left, f = progress.failure e restore left

theorem tells_failure (progress : Progress) (e : ReleaseError) (restore : Option RestoreReport)
    (left : Option String) : Tells (progress.failure e restore left) progress :=
  ⟨e, restore, left, rfl⟩

theorem tells_rollBack (set : BackupSet) (progress : Progress) (e : ReleaseError)
    (restored : Option RestoreReport) (s : Session σ) :
    Tells (rollBack set progress e restored s).1 progress :=
  ⟨e, _, _, rfl⟩

theorem tells_interrupt (set : BackupSet) (progress : Progress) (s : Session σ) :
    Tells (interrupt set progress s).1 progress := by
  unfold interrupt
  split
  · exact tells_rollBack set progress .interrupted none s
  · exact ⟨_, _, _, rfl⟩

/-- The turns of a run: it begins some of the steps, in their order, and they achieve what the
progress shows, at the end and at every moment before. -/
structure RunsBy (w : World σ) (p : Project) (plan : ReleasePlan) (set : BackupSet)
    (steps : List Step) (progress : Progress) (s : Session σ) (turns : List Turn) : Prop where
  begun : turns.map Turn.step <+: steps
  recorded : ∀ t ∈ turns, StepRecord p plan t.step t.events
  records : s.Records (turns.flatMap Turn.events) (p.runSteps w plan set steps progress s).2
  moments : ∀ k progress', (p.runSteps w plan set (steps.take k) progress s).1 = .ok progress' →
    Achieves p plan (turns.take k) progress progress'
  all : ∀ progress', (p.runSteps w plan set steps progress s).1 = .ok progress' →
    turns.map Turn.step = steps
  failed : ∀ f, (p.runSteps w plan set steps progress s).1 = .error f →
    ∃ progress', Tells f progress' ∧ Achieves p plan turns progress progress'

theorem runsBy_nil : RunsBy w p plan set [] progress s [] where
  begun := List.nil_prefix
  recorded := by simp
  records := records_nil s s.disk
  moments := by
    intro k progress' h
    rw [List.take_nil] at h
    rw [List.take_nil, ← Except.ok.inj h]
    exact Achieves.refl p plan progress
  all := by simp
  failed := fun f h => absurd h (by simp [runSteps])

/-- A run that is stopped begins no step. -/
theorem runsBy_of_stopped (h : s.stopped = true) :
    RunsBy w p plan set (step :: steps) progress s [] where
  begun := List.nil_prefix
  recorded := by simp
  records := by
    rw [runSteps_cons_of_stopped h]
    exact interrupt_records set progress s
  moments := by
    intro k progress' hok
    cases k with
    | zero =>
      rw [← Except.ok.inj hok]
      exact Achieves.refl p plan progress
    | succ k =>
      rw [List.take_succ_cons, runSteps_cons_of_stopped h] at hok
      exact absurd hok (by simp)
  all := by
    intro progress' hok
    rw [runSteps_cons_of_stopped h] at hok
    exact absurd hok (by simp)
  failed := by
    intro f hf
    rw [runSteps_cons_of_stopped h] at hf
    rw [← Except.error.inj hf]
    exact ⟨progress, tells_interrupt set progress s, Achieves.refl p plan progress⟩

/-- A run whose first step fails begins no other one. -/
theorem runsBy_of_error {s₁ : Session σ} {failure : StepFailure} {es : List Event}
    (h : s.stopped = false)
    (hstep : p.runStep w plan set step progress s = (.error failure, s₁))
    (hrec : StepRecord p plan step es) (hes : s.Records es s₁)
    (hexit : Turn.exited p plan ⟨step, es⟩ = false) :
    RunsBy w p plan set (step :: steps) progress s [⟨step, es⟩] where
  begun := ⟨steps, rfl⟩
  recorded := by
    intro t ht
    rw [List.mem_singleton.mp ht]
    exact hrec
  records := by
    rw [runSteps_cons_of_error h hstep]
    have hend := hes.trans (rollBack_records set progress (.step failure) failure.restore s₁)
    simpa using hend
  moments := by
    intro k progress' hok
    cases k with
    | zero =>
      rw [← Except.ok.inj hok]
      exact Achieves.refl p plan progress
    | succ k =>
      rw [List.take_succ_cons, runSteps_cons_of_error h hstep] at hok
      exact absurd hok (by simp)
  all := by
    intro progress' hok
    rw [runSteps_cons_of_error h hstep] at hok
    exact absurd hok (by simp)
  failed := by
    intro f hf
    rw [runSteps_cons_of_error h hstep] at hf
    rw [← Except.error.inj hf]
    exact ⟨progress, tells_rollBack set progress _ _ s₁, achieves_of_not_exited hexit rfl rfl rfl⟩

/-- A run whose first step goes on begins it, and then what the rest begins. -/
theorem RunsBy.cons {s₁ : Session σ} {progress₁ : Progress} {es : List Event}
    (hrest : RunsBy w p plan set steps progress₁ s₁ turns) (h : s.stopped = false)
    (hstep : p.runStep w plan set step progress s = (.ok progress₁, s₁))
    (hrec : StepRecord p plan step es) (hes : s.Records es s₁)
    (hach : Achieves p plan [⟨step, es⟩] progress progress₁) :
    RunsBy w p plan set (step :: steps) progress s (⟨step, es⟩ :: turns) where
  begun := (List.prefix_cons_inj step).mpr hrest.begun
  recorded := by
    intro t ht
    rcases List.mem_cons.mp ht with rfl | ht
    · exact hrec
    · exact hrest.recorded t ht
  records := by
    rw [runSteps_cons_of_ok h hstep]
    exact hes.trans hrest.records
  moments := by
    intro k progress' hok
    cases k with
    | zero =>
      rw [← Except.ok.inj hok]
      exact Achieves.refl p plan progress
    | succ k =>
      rw [List.take_succ_cons, runSteps_cons_of_ok h hstep] at hok
      exact hach.trans (hrest.moments k progress' hok)
  all := by
    intro progress' hok
    rw [runSteps_cons_of_ok h hstep] at hok
    rw [List.map_cons, hrest.all progress' hok]
  failed := by
    intro f hf
    rw [runSteps_cons_of_ok h hstep] at hf
    obtain ⟨progress', htells, hach'⟩ := hrest.failed f hf
    exact ⟨progress', htells, hach.trans hach'⟩

/-- **Every run** has its turns. -/
theorem runSteps_turns (w : World σ) (p : Project) (plan : ReleasePlan) (set : BackupSet)
    (steps : List Step) (progress : Progress) (s : Session σ) :
    ∃ turns, RunsBy w p plan set steps progress s turns := by
  induction steps generalizing progress s with
  | nil => exact ⟨[], runsBy_nil⟩
  | cons step steps ih =>
    by_cases hstop : s.stopped = true
    · exact ⟨[], runsBy_of_stopped hstop⟩
    have hgo : s.stopped = false := Bool.not_eq_true _ ▸ hstop
    obtain ⟨es, hrec, hes, hok, herr⟩ := runStep_records w p plan set step progress s
    cases hstep : p.runStep w plan set step progress s with
    | mk outcome s₁ =>
      rw [hstep] at hes hok herr
      cases outcome with
      | ok progress₁ =>
        obtain ⟨turns, hrest⟩ := ih progress₁ s₁
        exact ⟨_, hrest.cons hgo hstep hrec hes (hok progress₁ rfl)⟩
      | error failure =>
        exact ⟨_, runsBy_of_error hgo hstep hrec hes (herr failure rfl)⟩

/-! ## What a failure tells -/

theorem effects_ne_nil_iff {kinds : List StepKind} : effects p plan kinds turns ≠ [] ↔
    ∃ t ∈ turns, t.exited p plan = true ∧ t.step.kind ∈ kinds := by
  unfold effects
  rw [ne_eq, List.map_eq_nil_iff, List.filter_eq_nil_iff]
  simp

/-- A failure tells exactly what the turns have brought about. Its live effects are deployments,
pushes and publications, its local ones commits and tags. -/
structure FailsAfter (p : Project) (plan : ReleasePlan) (phases : List ReleaseState)
    (turns : List Turn) (f : ReleaseFailure) : Prop where
  live : f.live = effects p plan [.deploy, .pushCommits, .pushTags, .publish] turns
  localEffects : f.localEffects = effects p plan [.commit, .tag] turns
  irreversible : f.isIrreversible = true ↔ ∃ t ∈ turns, t.exited p plan = true ∧
    t.step.kind ∈ [StepKind.deploy, .pushCommits, .pushTags, .publish]
  state : (phases ++ reached p plan turns).getLast? = some f.state

theorem failsAfter_of_tells (h : Tells f progress)
    (hlive : progress.live = effects p plan [.deploy, .pushCommits, .pushTags, .publish] turns)
    (hlocal : progress.localEffects = effects p plan [.commit, .tag] turns)
    (hstate : (phases ++ reached p plan turns).getLast? = some progress.state) :
    FailsAfter p plan phases turns f := by
  obtain ⟨e, restore, left, rfl⟩ := h
  refine ⟨hlive, hlocal, ?_, hstate⟩
  rw [← effects_ne_nil_iff, ← hlive]
  unfold ReleaseFailure.isIrreversible Progress.failure
  simp

theorem getLast?_of_achieves {artifacts : ApplyReport}
    (h : Achieves p plan turns (mutated plan artifacts) progress) :
    ([ReleaseState.versionComputed, .changelogValidated, .backedUp, .filesMutated] ++
      reached p plan turns).getLast? = some progress.state := by
  rw [h.state, List.getLast?_append]
  cases (reached p plan turns).getLast? with
  | none => rfl
  | some state => rfl

/-- The question before the release is the only event before its steps. -/
theorem isQuestion_of_mem_asked {e : Event} {question : String} {yes stop : Bool}
    (h : e ∈ [Event.asked question yes stop]) : IsQuestion e := by
  rw [List.mem_singleton.mp h]
  trivial

/-! ## The states in their order -/

theorem reached_sublist (p : Project) (plan : ReleasePlan) (turns : List Turn) :
    (reached p plan turns).Sublist
      ((turns.map Turn.step).map Step.kind |>.filterMap ReleaseState.after?) := by
  unfold reached
  rw [List.map_map, List.filterMap_map]
  exact List.filter_sublist.filterMap _

section

variable [Regex.SizeLimit]

/-- The states that a release passes before its first step. -/
inductive Phases (w : World σ) (p : Project) (o : ReleaseOptions) (plan : ReleasePlan)
    (s : Session σ) : List ReleaseState → Prop
  | versionComputed (e : ReleaseError) (h : p.checkChangelog s.disk = .error e) :
    Phases w p o plan s [.versionComputed]
  | changelogValidated (h : p.checkChangelog s.disk = .ok ())
    (hno : ¬ ∃ set d, Begins w p plan s set d) :
    Phases w p o plan s [.versionComputed, .changelogValidated]
  | backedUp (set : BackupSet) (d₁ : Disk) (h : Begins w p plan s set d₁) (e : ReleaseError)
    (hup : (p.updateFiles o plan d₁).1 = .error e) :
    Phases w p o plan s [.versionComputed, .changelogValidated, .backedUp]
  | filesMutated (set : BackupSet) (d₁ : Disk) (h : Begins w p plan s set d₁)
    (artifacts : ApplyReport) (hup : (p.updateFiles o plan d₁).1 = .ok artifacts) :
    Phases w p o plan s [.versionComputed, .changelogValidated, .backedUp, .filesMutated]

theorem Phases.sublist (h : Phases w p o plan s phases) : phases.Sublist
    [.init, .versionComputed, .changelogValidated, .backedUp, .filesMutated] := by
  cases h with
  | _ => decide

/-- **The states of a release** rise. -/
theorem reached_rises (hplan : p.prepare o d₀ = .ok plan) (h : Phases w p o plan s phases)
    (hbegun : turns.map Turn.step <+: plan.steps) :
    (phases ++ reached p plan turns ++ [ReleaseState.done]).Pairwise (· < ·) := by
  have hkinds : ((turns.map Turn.step).map Step.kind).Sublist StepKind.all :=
    (hbegun.sublist.map Step.kind).trans (kinds_steps hplan)
  have hreached : (reached p plan turns).Sublist
      [.tested, .built, .deployed, .committed, .tagged, .pushed, .published] :=
    (reached_sublist p plan turns).trans (hkinds.filterMap ReleaseState.after?)
  have hall : (phases ++ reached p plan turns ++ [ReleaseState.done]).Sublist ReleaseState.all :=
    (h.sublist.append hreached).append (List.Sublist.refl [ReleaseState.done])
  have hrises : ReleaseState.all.Pairwise (· < ·) := by decide
  exact hrises.sublist hall

/-- A release that updates its files passes all the states before its first step. -/
theorem Phases.eq_of_begins {d₁ d₂ : Disk} {artifacts : ApplyReport}
    (h : Phases w p o plan s phases) (hb : Begins w p plan s set d₁)
    (hup : p.updateFiles o plan d₁ = (.ok artifacts, d₂)) :
    phases = [.versionComputed, .changelogValidated, .backedUp, .filesMutated] := by
  cases h with
  | versionComputed e h => exact absurd (h.symm.trans hb.checked) (by simp)
  | changelogValidated h hno => exact absurd ⟨set, d₁, hb⟩ hno
  | backedUp set' d' hb' e hup' =>
    obtain ⟨-, rfl⟩ := hb.unique hb'
    rw [hup] at hup'
    exact absurd hup' (by simp)
  | filesMutated set' d' hb' artifacts' hup' => rfl

/-! ## The chronicle of a release -/

/-- The states and the turns of a release, as its events tell them. -/
structure Chronicle (w : World σ) (p : Project) (o : ReleaseOptions) (plan : ReleasePlan)
    (s : Session σ) (phases : List ReleaseState) (turns : List Turn) (s' : Session σ) : Prop where
  passed : Phases w p o plan s phases
  /-- The release begins some of its steps, in their order. -/
  begun : turns.map Turn.step <+: plan.steps
  /-- It begins none unless the files were updated. -/
  idle : ReleaseState.filesMutated ∉ phases → turns = []
  recorded : ∀ t ∈ turns, StepRecord p plan t.step t.events
  /-- The events are questions, followed by those of the turns. -/
  events : ∃ questions, (∀ e ∈ questions, IsQuestion e) ∧
    s'.events = s.events ++ questions ++ turns.flatMap Turn.events
  /-- The states rise. -/
  rises : (phases ++ reached p plan turns ++ [ReleaseState.done]).Pairwise (· < ·)
  /-- Between two steps the release is in the last one of the states so far. -/
  moments : ∀ set d₁ artifacts d₂ k progress, Begins w p plan s set d₁ →
    p.updateFiles o plan d₁ = (.ok artifacts, d₂) →
    (p.runSteps w plan set (plan.steps.take k) (mutated plan artifacts) (atWork w plan s d₂)).1 =
      .ok progress →
    (phases ++ reached p plan (turns.take k)).getLast? = some progress.state

/-- The chronicle of a release that begins no step. -/
theorem chronicle_of_idle (hplan : p.prepare o d₀ = .ok plan) (h : Phases w p o plan s phases)
    (hidle : ReleaseState.filesMutated ∉ phases) {questions : List Event}
    (hq : ∀ e ∈ questions, IsQuestion e) (he : s'.events = s.events ++ questions) :
    Chronicle w p o plan s phases [] s' where
  passed := h
  begun := List.nil_prefix
  idle := fun _ => rfl
  recorded := by simp
  events := ⟨questions, hq, by rw [he, List.flatMap_nil, List.append_nil]⟩
  rises := reached_rises hplan h List.nil_prefix
  moments := by
    intro set d₁ artifacts d₂ k progress hb hup _
    rw [h.eq_of_begins hb hup] at hidle
    exact absurd hidle (by simp)

/-- The chronicle of a release that runs its steps. -/
theorem chronicle_of_runs {d₁ d₂ : Disk} {artifacts : ApplyReport}
    (hplan : p.prepare o d₀ = .ok plan) (hb : Begins w p plan s set d₁)
    (hup : p.updateFiles o plan d₁ = (.ok artifacts, d₂))
    (h : RunsBy w p plan set plan.steps (mutated plan artifacts) (atWork w plan s d₂) turns)
    (he : s'.events =
      (p.runSteps w plan set plan.steps (mutated plan artifacts) (atWork w plan s d₂)).2.events) :
    Chronicle w p o plan s [.versionComputed, .changelogValidated, .backedUp, .filesMutated] turns
      s' := by
  have hphases : Phases w p o plan s
      [.versionComputed, .changelogValidated, .backedUp, .filesMutated] :=
    .filesMutated set d₁ hb artifacts (by rw [hup])
  refine ⟨hphases, h.begun, by simp, h.recorded, ?events, reached_rises hplan hphases h.begun,
    ?moments⟩
  case events =>
    refine ⟨[.asked (releaseQuestion plan) (s.ask w (releaseQuestion plan)).1
      (w.ask (releaseQuestion plan) s.world).stop], fun e he => isQuestion_of_mem_asked he, ?_⟩
    rw [he, h.records.events]
    rfl
  case moments =>
    intro set' d₁' artifacts' d₂' k progress hb' hup' hok
    obtain ⟨rfl, rfl⟩ := hb.unique hb'
    obtain ⟨hart, rfl⟩ := Prod.mk.inj (hup.symm.trans hup')
    obtain rfl := Except.ok.inj hart
    exact getLast?_of_achieves (h.moments k progress hok)

/-- A failure is reported exactly if it tells what the turns have brought about. -/
theorem reports_failed {f : ReleaseFailure} (h : Chronicle w p o plan s phases turns s')
    (hf : FailsAfter p plan phases turns f) :
    ∃ phases turns, Chronicle w p o plan s phases turns s' ∧
      (∀ report, ReleaseOutcome.failed f = .released report →
        turns.map Turn.step = plan.steps ∧
          report.live = effects p plan [.deploy, .pushCommits, .pushTags, .publish] turns) ∧
      ∀ f', ReleaseOutcome.failed f = .failed f' → FailsAfter p plan phases turns f' := by
  refine ⟨phases, turns, h, by simp, fun f' hf' => ?_⟩
  rw [← ReleaseOutcome.failed.inj hf']
  exact hf

/-- **A release reports its effects exactly.** Its events tell which steps it has begun, and which
of their commands have exited with status zero. The live effects are those of the deployment, of the
pushes and of the publication, one by one; a failure adds those of the commit and of the tag, knows
whether anything is live, and stands at the last state that was reached. The states of a release
rise. -/
theorem execute_reports (hplan : p.prepare o d₀ = .ok plan) (w : World σ) (s : Session σ) :
    ∃ phases turns, Chronicle w p o plan s phases turns (p.execute w o plan s).2 ∧
      (∀ report, (p.execute w o plan s).1 = .released report →
        turns.map Turn.step = plan.steps ∧
          report.live = effects p plan [.deploy, .pushCommits, .pushTags, .publish] turns) ∧
      ∀ f, (p.execute w o plan s).1 = .failed f → FailsAfter p plan phases turns f := by
  have hgoes := execute_goes w p o plan s
  have hask := records_ask w (releaseQuestion plan) s
  have hquestion : ∀ e ∈ [Event.asked (releaseQuestion plan) (s.ask w (releaseQuestion plan)).1
      (w.ask (releaseQuestion plan) s.world).stop], IsQuestion e :=
    fun e he => isQuestion_of_mem_asked he
  generalize p.execute w o plan s = run at hgoes ⊢
  obtain ⟨outcome, s'⟩ := run
  cases hgoes with
  | refused e h =>
    have hphases : Phases w p o plan s' [.versionComputed] := .versionComputed e h
    have hnone : ∀ e ∈ ([] : List Event), IsQuestion e := fun e he => absurd he List.not_mem_nil
    exact reports_failed
      (chronicle_of_idle hplan hphases (by simp) hnone (List.append_nil _).symm)
      (failsAfter_of_tells (tells_failure _ _ _ _) rfl rfl rfl)
  | declined h hno =>
    have hphases : Phases w p o plan s [.versionComputed, .changelogValidated] :=
      .changelogValidated h fun ⟨_, _, hb⟩ => absurd (hno.symm.trans hb.confirmed) (by simp)
    exact ⟨_, [], chronicle_of_idle hplan hphases (by simp) hquestion hask.events, by simp, by simp⟩
  | stopped h hstop =>
    have hphases : Phases w p o plan s [.versionComputed, .changelogValidated] :=
      .changelogValidated h fun ⟨_, _, hb⟩ => absurd (hstop.symm.trans hb.going) (by simp)
    exact reports_failed (chronicle_of_idle hplan hphases (by simp) hquestion hask.events)
      (failsAfter_of_tells (tells_failure _ _ _ _) rfl rfl rfl)
  | uncaptured h e d hcap =>
    have hphases : Phases w p o plan s [.versionComputed, .changelogValidated] :=
      .changelogValidated h fun ⟨_, _, hb⟩ =>
        absurd (Prod.mk.inj (hcap.symm.trans hb.captured)).1 (by simp)
    exact reports_failed (chronicle_of_idle hplan hphases (by simp) hquestion hask.events)
      (failsAfter_of_tells (tells_failure _ _ _ _) rfl rfl rfl)
  | notUpdated set d₁ h e d₂ hup f _ hroll =>
    have hphases : Phases w p o plan s [.versionComputed, .changelogValidated, .backedUp] :=
      .backedUp set d₁ h e (by rw [hup])
    have hrec := rollBack_records set ((validated plan).reach .backedUp) e none
      { (s.ask w (releaseQuestion plan)).2 with disk := d₂ }
    have htells := tells_rollBack set ((validated plan).reach .backedUp) e none
      { (s.ask w (releaseQuestion plan)).2 with disk := d₂ }
    rw [hroll] at hrec htells
    have hevents : s'.events = s.events ++
        [Event.asked (releaseQuestion plan) (s.ask w (releaseQuestion plan)).1
          (w.ask (releaseQuestion plan) s.world).stop] := by
      rw [hrec.events, List.append_nil]
      exact hask.events
    exact reports_failed (chronicle_of_idle hplan hphases (by simp) hquestion hevents)
      (failsAfter_of_tells htells rfl rfl rfl)
  | broken set d₁ h artifacts d₂ hup f _ hrun =>
    obtain ⟨turns, hruns⟩ :=
      runSteps_turns w p plan set plan.steps (mutated plan artifacts) (atWork w plan s d₂)
    obtain ⟨progress, htells, hach⟩ := hruns.failed f (by rw [hrun])
    exact reports_failed (chronicle_of_runs hplan h hup hruns (by rw [hrun]))
      (failsAfter_of_tells htells hach.live hach.localEffects (getLast?_of_achieves hach))
  | released set d₁ h artifacts d₂ hup progress s₁ hrun =>
    obtain ⟨turns, hruns⟩ :=
      runSteps_turns w p plan set plan.steps (mutated plan artifacts) (atWork w plan s d₂)
    refine ⟨_, turns, chronicle_of_runs hplan h hup hruns (by rw [hrun]), fun report hr => ?_,
      by simp⟩
    have hall := hruns.all progress (by rw [hrun])
    have hach := hruns.moments plan.steps.length progress (by rw [List.take_length, hrun])
    rw [← hall, List.length_map, List.take_length] at hach
    refine ⟨hall, ?_⟩
    rw [← ReleaseOutcome.released.inj hr]
    exact hach.live

end

/-- A release that pushes. -/
def pushOptions : ReleaseOptions := { tinyOptions with push := true }

/-- The plan of the release. -/
def pushPlan : ReleasePlan :=
  { tinyPlan "kept" [] with
    steps := (tiny "kept" []).steps pushOptions tinyDisk ⟨1, 1, 0⟩ "v1.1.0"
    warnings := (tiny "kept" []).planWarnings pushOptions }

/-- A world in which tags cannot be pushed. -/
def taglessWorld : World Unit where
  launch := fun c d m => ⟨.ok ⟨if c.args = ["push", "--tags"] then 1 else 0, "", ""⟩, d, false, m⟩
  ask := fun _ m => ⟨true, false, m⟩

/-- The commit is live when the push of the tag fails. -/
theorem execute_reports_tagless :
    (tiny "kept" []).prepare pushOptions tinyDisk = .ok pushPlan ∧
    ∃ phases turns f s', (tiny "kept" []).execute taglessWorld pushOptions pushPlan
        (Session.start tinyDisk ()) = (.failed f, s') ∧
      f.live = ["release commit pushed"] ∧ f.state = .tagged ∧
      Chronicle taglessWorld (tiny "kept" []) pushOptions pushPlan (Session.start tinyDisk ())
        phases turns s' ∧
      FailsAfter (tiny "kept" []) pushPlan phases turns f := by
  have hplan : (tiny "kept" []).prepare pushOptions tinyDisk = .ok pushPlan :=
    ok_of_toOption (by decide +kernel)
  have hend : (match ((tiny "kept" []).execute taglessWorld pushOptions pushPlan
      (Session.start tinyDisk ())).1 with
      | .failed f => some (f.live, f.state)
      | _ => none) = some (["release commit pushed"], .tagged) := by decide +kernel
  obtain ⟨phases, turns, hchronicle, -, hfails⟩ :=
    execute_reports hplan taglessWorld (Session.start tinyDisk ())
  refine ⟨hplan, phases, turns, ?_⟩
  cases hrun : (tiny "kept" []).execute taglessWorld pushOptions pushPlan
      (Session.start tinyDisk ()) with
  | mk outcome s' =>
    rw [hrun] at hend hchronicle hfails
    cases outcome with
    | failed f =>
      obtain ⟨hlive, hstate⟩ := Prod.mk.inj (Option.some.inj hend)
      exact ⟨f, s', rfl, hlive, hstate, hchronicle, hfails f rfl⟩
    | aborted => exact absurd hend (by simp)
    | released report => exact absurd hend (by simp)

end Slipway.Project
