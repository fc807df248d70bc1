import Slipway.Config.Validate
import Slipway.Proofs.Release.Course

/-!
# Programs that a plan runs

About `plan_steps` (`keel_core::release`) and `validate` (`keel_config::loader`). The programs of a
plan come from three tables of its configuration: the commands that test, build and deploy, version
control, and the release host. A validated configuration names a program for each of the commands,
but the names of the other two are not looked at. Where version control has a blank one, a plan is
made, its deployment goes out, and the step after it cannot be launched.

* `origin_of_mem_steps`: which table the program of a step comes from (`Origin`).
* `plan_programs`: when all the steps of a plan have a program, and what becomes of a release where
  a required one has none (`Programs`).
* `deployed_before_refused`: a validated configuration whose release deploys and then fails.
-/

namespace Slipway

open Disk

namespace Config

variable {c : Config}

theorem problemIf_eq_nil_iff {condition : Bool} {field reason : String} :
    problemIf condition field reason = [] ↔ condition = false := by
  unfold problemIf
  cases condition <;> simp

/-- No command of a validated configuration has a blank program. -/
theorem commands_of_validate (h : c.validate = .ok ()) :
    hasBlankProgram c.commands.test = false ∧ hasBlankProgram c.commands.build = false ∧
      hasBlankProgram c.commands.deploy = false := by
  rw [validate_eq_ok_iff] at h
  unfold problems at h
  simp only [List.append_eq_nil_iff, problemIf_eq_nil_iff] at h
  obtain ⟨⟨⟨⟨⟨⟨-, htest⟩, hbuild⟩, hdeploy⟩, -⟩, -⟩, -⟩ := h
  exact ⟨htest, hbuild, hdeploy⟩

end Config

/-- The program of a step is not blank. -/
def Step.HasProgram (step : Step) : Prop := Config.isBlankText step.command.program = false

/-- The kinds of the steps whose commands are configured word by word. -/
def StepKind.IsTool (kind : StepKind) : Prop := kind = .test ∨ kind = .build ∨ kind = .deploy

/-- A world in which no program has a blank name. -/
def World.RefusesBlank {σ : Type} (w : World σ) : Prop :=
  ∀ c d m, Config.isBlankText c.program = true → ∃ reason, (w.launch c d m).result = .error reason

namespace Project

variable {σ : Type} {w : World σ} {p : Project} {o : ReleaseOptions} {plan : ReleasePlan}
variable {set : BackupSet} {step : Step} {steps : List Step} {s : Session σ} {d : Disk} {t : Tool}

/-! ## Where programs come from -/

theorem words_of_mem_tools (hv : p.config.validate = .ok ()) (h : t ∈ p.tools o) :
    Config.hasBlankProgram t.words = false := by
  obtain ⟨htest, hbuild, hdeploy⟩ := Config.commands_of_validate hv
  unfold tools at h
  simp only [List.mem_append, List.mem_singleton, List.mem_ite_nil_right] at h
  rcases h with (⟨-, rfl⟩ | rfl) | ⟨-, rfl⟩
  · exact htest
  · exact hbuild
  · exact hdeploy

theorem Tool.hasProgram (h : t.step? = some step) (hw : Config.hasBlankProgram t.words = false) :
    step.HasProgram := by
  unfold Tool.step? at h
  obtain ⟨c, hc, rfl⟩ := Option.map_eq_some_iff.mp h
  cases hwords : t.words with
  | nil =>
    rw [hwords] at hc
    exact absurd hc (by simp [Command.ofWords?])
  | cons program args =>
    rw [hwords] at hc hw
    rw [Step.HasProgram, ← Option.some.inj hc]
    simpa [Config.hasBlankProgram] using hw

/-- The table that the program of a step comes from. -/
inductive Origin (p : Project) (o : ReleaseOptions) (step : Step) : Prop
  | tool (t : Tool) (ht : t ∈ p.tools o) (h : t.step? = some step)
  | versionControl (hk : ¬ step.kind.IsTool) (h : step.command.program = p.config.git.program)
  | host (ho : o.publish = true) (hk : step.kind = .publish)
    (h : step.command.program = p.config.releaseHost.program)

theorem origin_of_gitStep {kind : StepKind} (hk : ¬ kind.IsTool) (description : String)
    (args : List String) : Origin p o (p.gitStep kind description args) :=
  .versionControl hk rfl

/-- Where the steps go well, each one does at its turn what is required of it. -/
theorem GoesWell.satisfied (h : GoesWell w p plan set steps s) (hm : step ∈ steps) :
    ∃ s', Satisfied w plan step s' := by
  induction steps generalizing s with
  | nil => exact absurd hm List.not_mem_nil
  | cons first steps ih =>
    obtain ⟨-, hfirst, hrest⟩ := h
    rcases List.mem_cons.mp hm with rfl | hm
    · exact ⟨s, hfirst⟩
    · exact ih hrest hm

/-- A step without a program does not succeed. -/
theorem not_succeeds_of_blank (hw : w.RefusesBlank) (h : ¬ step.HasProgram) :
    ¬ step.Succeeds w s := by
  rintro ⟨output, hout, -⟩
  obtain ⟨reason, hreason⟩ := hw step.command s.disk s.world
    (Bool.not_eq_false _ ▸ h)
  rw [show (s.launch w step.command).1 = .error reason from hreason] at hout
  exact absurd hout (by simp)

section

variable [Regex.SizeLimit]

/-- **The program of a step comes from one of three tables.** -/
theorem origin_of_mem_steps (h : p.prepare o d = .ok plan) (hm : step ∈ plan.steps) :
    Origin p o step := by
  rw [(prepare_eq_ok h).1] at hm
  unfold Project.steps at hm
  simp only [List.mem_append, List.mem_ite_nil_right] at hm
  rcases hm with ((hm | hm) | ⟨-, hm⟩) | ⟨ho, hm⟩
  · obtain ⟨t, ht, hs⟩ := List.mem_filterMap.mp hm
    exact .tool t ht hs
  · simp only [recordSteps, List.mem_cons, List.not_mem_nil, or_false] at hm
    rcases hm with rfl | rfl | rfl <;> exact origin_of_gitStep (by simp [StepKind.IsTool]) _ _
  · simp only [pushSteps, List.mem_cons, List.not_mem_nil, or_false] at hm
    rcases hm with rfl | rfl <;> exact origin_of_gitStep (by simp [StepKind.IsTool]) _ _
  · rw [List.mem_singleton.mp hm]
    exact .host ho rfl rfl

theorem stage_mem_steps (h : p.prepare o d = .ok plan) :
    p.gitStep .stage "Staging files" ("add" :: p.stagePaths d) ∈ plan.steps := by
  rw [(prepare_eq_ok h).1]
  simp [Project.steps, recordSteps]

theorem publish_mem_steps (h : p.prepare o d = .ok plan) (ho : o.publish = true) :
    p.host.publishStep d plan.tag plan.next ∈ plan.steps := by
  rw [(prepare_eq_ok h).1]
  simp [Project.steps, ho]

/-! ## Steps that cannot be launched -/

/-- What a validated configuration plans. -/
structure Programs (p : Project) (o : ReleaseOptions) (plan : ReleasePlan) : Prop where
  /-- The commands that test, build and deploy have a program. -/
  tools : ∀ step ∈ plan.steps, step.kind.IsTool → step.HasProgram
  /-- All the steps have one exactly if version control has, and the host of a publication. -/
  all_iff : (∀ step ∈ plan.steps, step.HasProgram) ↔
    Config.isBlankText p.config.git.program = false ∧
      (o.publish = true → Config.isBlankText p.config.releaseHost.program = false)
  /-- A required step without a program keeps every run from being released. -/
  doomed : ∀ step ∈ plan.steps, step.required = true → ¬ step.HasProgram →
    ∀ {σ : Type} (w : World σ) (s : Session σ), w.RefusesBlank →
      ¬ ∃ report s', p.execute w o plan s = (.released report, s')

/-- **A validated configuration names programs** for the commands that test, build and deploy. The
other steps have one exactly if version control and the release host do, which is not checked. -/
theorem plan_programs (hv : p.config.validate = .ok ()) (h : p.prepare o d = .ok plan) :
    Programs p o plan := by
  have htools : ∀ step ∈ plan.steps, step.kind.IsTool → step.HasProgram := by
    intro step hm hk
    cases origin_of_mem_steps h hm with
    | tool t ht hs => exact Tool.hasProgram hs (words_of_mem_tools hv ht)
    | versionControl hno => exact absurd hk hno
    | host _ hpub => exact absurd hk (by rw [hpub]; simp [StepKind.IsTool])
  refine ⟨htools, ⟨fun hall => ⟨hall _ (stage_mem_steps h), fun ho => ?_⟩, ?_⟩, ?_⟩
  · exact hall _ (publish_mem_steps h ho)
  · rintro ⟨hgit, hhost⟩ step hm
    cases origin_of_mem_steps h hm with
    | tool t ht hs => exact Tool.hasProgram hs (words_of_mem_tools hv ht)
    | versionControl _ hprogram =>
      rw [Step.HasProgram, hprogram]
      exact hgit
    | host ho _ hprogram =>
      rw [Step.HasProgram, hprogram]
      exact hhost ho
  · intro step hm hreq hblank σ w s hw hreleased
    have hpub : ∀ step ∈ plan.steps, step.kind = .publish → step.required = false := by
      intro step hm hk
      rw [← Bool.not_eq_true, required_iff h hm]
      exact fun hne => hne hk
    obtain ⟨set, d₁, report, d₂, -, -, hwell⟩ := (execute_released_iff hpub).mp hreleased
    obtain ⟨s', hsat⟩ := hwell.satisfied hm
    rcases hsat hreq with ⟨hdeploy, -⟩ | hsucc
    · exact hblank (htools step hm (Or.inr (Or.inr hdeploy)))
    · exact not_succeeds_of_blank hw hblank hsucc

end

/-! ### A deployment before a step without a program -/

/-- A project that builds and deploys, with the given program for version control. -/
def deploying (program : String) : Project :=
  ⟨"app", { (tiny "kept" []).config with
    commands := ⟨[], ["make"], ["upload"]⟩
    git := { program := program } }⟩

/-- A release with a deployment. -/
def deployingOptions : ReleaseOptions := { tinyOptions with deploy := true }

/-- Its plan. -/
def deployingPlan (program : String) : ReleasePlan :=
  { tinyPlan "kept" [] with
    steps := (deploying program).steps deployingOptions tinyDisk ⟨1, 1, 0⟩ "v1.1.0" }

/-- A world in which every command with a program succeeds. -/
def namingWorld : World Unit where
  launch := fun c d m => ⟨if Config.isBlankText c.program then .error "not found" else
    .ok ⟨0, "", ""⟩, d, false, m⟩
  ask := fun _ m => ⟨true, false, m⟩

theorem plan_programs_deploying :
    (deploying "git").config.validate = .ok () ∧
    (deploying "git").prepare deployingOptions tinyDisk = .ok (deployingPlan "git") ∧
    Programs (deploying "git") deployingOptions (deployingPlan "git") := by
  have hv : (deploying "git").config.validate = .ok () := ok_of_toOption (by decide +kernel)
  have hplan : (deploying "git").prepare deployingOptions tinyDisk = .ok (deployingPlan "git") :=
    ok_of_toOption (by decide +kernel)
  exact ⟨hv, hplan, plan_programs hv hplan⟩

/-- The failure of the step that stages the files, with the changelog copied back. -/
def notStaged : StepFailure where
  kind := .stage
  description := "Staging files"
  command := ⟨" ", ["add", "CHANGELOG.md"]⟩
  detail := "could not launch  : not found"
  output := none
  restore := some ⟨["app/CHANGELOG.md"], [], []⟩

/-- A validated configuration plans required steps whose program is blank. The release deploys, and
then it fails at the first of them. -/
theorem deployed_before_refused :
    (deploying " ").config.validate = .ok () ∧
    (deploying " ").prepare deployingOptions tinyDisk = .ok (deployingPlan " ") ∧
    (∃ step ∈ (deployingPlan " ").steps, step.required = true ∧ ¬ step.HasProgram) ∧
    ((deploying " ").execute namingWorld deployingOptions (deployingPlan " ")
      (Session.start tinyDisk ())).1 = .failed ⟨.step notStaged, .deployed, notStaged.restore,
        ["package 1.1.0 deployed"], [], none⟩ := by
  have hplan : (deploying " ").prepare deployingOptions tinyDisk = .ok (deployingPlan " ") :=
    ok_of_toOption (by decide +kernel)
  refine ⟨ok_of_toOption (by decide +kernel), hplan, ?_, by decide +kernel⟩
  exact ⟨_, stage_mem_steps hplan, rfl, by unfold Step.HasProgram; decide +kernel⟩

end Project

end Slipway
