import Slipway.Cli.Run
import Slipway.Proofs.Release.Classes

/-!
# Who finds a changelog ready

About `ChangelogLedger::validate_pending` (`keel_core::changelog`) and
`ReleasePlan::changelog_ready` (`keel_core::release`). The changelog itself (`Changelog.isReady`),
the plan of a release, the release that carries it out and the command that checks the changelog all
say whether there is enough to release.

* `checkChangelog_iff`, `execute_passes_iff`: a release passes the check of its changelog exactly if
  the changelog is ready.
* `Machine.exit_check_iff`: so does the command that checks it.
* `changelogReady_iff`: the plan also calls a changelog ready that has no pending section, if no
  character is required.
* `readiness_agrees`: hence all of them agree, except in that one case.
* `plan_announces_refused`: there the plan announces a release that is then refused.
-/

namespace Slipway

/-- A missing pending section is never ready. -/
theorem Changelog.isReady_of_missing {c : Changelog} (h : c.pending? = none) (min : Nat) :
    c.isReady min = false := by
  unfold isReady pendingLength?
  rw [h]
  rfl

/-- A pending section is ready if it is long enough. -/
theorem Changelog.isReady_iff {c : Changelog} {found : Nat} (h : c.pendingLength? = some found)
    (min : Nat) : c.isReady min = true ↔ min ≤ found := by
  unfold isReady
  rw [h]
  exact decide_eq_true_iff

theorem Changelog.pendingLength?_eq_none_iff {c : Changelog} :
    c.pendingLength? = none ↔ c.pending? = none := Option.map_eq_none_iff

theorem Changelog.checkReady_iff {c : Changelog} {min : Nat} :
    c.checkReady min = .ok () ↔ c.isReady min = true := by
  unfold checkReady
  split
  · simp [*]
  · simp [*]

namespace Project

variable {σ : Type} {w : World σ} {p : Project} {o : ReleaseOptions} {plan : ReleasePlan}
variable {set : BackupSet} {steps : List Step} {progress : Progress} {s s' : Session σ}
variable {f : ReleaseFailure} {d : Disk} {c : Changelog}

/-! ## The release -/

theorem checkChangelog_iff (hc : p.loadChangelog d = .ok c) :
    p.checkChangelog d = .ok () ↔ c.isReady p.config.changelog.minPendingChars = true := by
  unfold checkChangelog
  rw [hc]
  exact Changelog.checkReady_iff

theorem state_interrupt (h : interrupt set progress s = (f, s')) : f.state = progress.state := by
  unfold interrupt at h
  split at h
  · exact (rollBack_eq h).2.1
  · rw [← (Prod.mk.inj h).1]
    rfl

/-- A run that fails has not gone back behind the state in which it began. -/
theorem runSteps_failed_mutated (h : .filesMutated ≤ progress.state)
    (hrun : p.runSteps w plan set steps progress s = (.error f, s')) :
    .filesMutated ≤ f.state := by
  obtain ⟨done, step, rest, progress₁, s₁, -, hdone, hend⟩ := runSteps_error hrun
  have hmutated : .filesMutated ≤ progress₁.state := runSteps_mutated h hdone
  rcases hend with ⟨-, hint⟩ | ⟨failure, s₂, -, hroll⟩
  · rw [state_interrupt hint]
    exact hmutated
  · rw [(rollBack_eq hroll).2.1]
    exact hmutated

section

variable [Regex.SizeLimit]

/-- A release passes the check of its changelog: it is declined, comes to its end, or fails
later. -/
def PassesCheck (w : World σ) (p : Project) (o : ReleaseOptions) (plan : ReleasePlan)
    (s : Session σ) : Prop :=
  ∀ f, (p.execute w o plan s).1 = .failed f → .changelogValidated ≤ f.state

/-- **A release passes the check** of its changelog exactly if the changelog is ready. -/
theorem execute_passes_iff (hc : p.loadChangelog s.disk = .ok c) :
    PassesCheck w p o plan s ↔ c.isReady p.config.changelog.minPendingChars = true := by
  rw [← checkChangelog_iff hc]
  unfold PassesCheck
  have hgoes := execute_goes w p o plan s
  generalize p.execute w o plan s = run at hgoes ⊢
  obtain ⟨outcome, s'⟩ := run
  cases hgoes with
  | refused e h =>
    refine iff_of_false (fun hpast => ?_) (by simp [h])
    exact absurd (hpast _ rfl) (of_decide_eq_false rfl)
  | declined h => exact iff_of_true (fun f hf => by simp at hf) h
  | stopped h =>
    refine iff_of_true (fun f hf => ?_) h
    rw [← ReleaseOutcome.failed.inj hf]
    exact of_decide_eq_true rfl
  | uncaptured h =>
    refine iff_of_true (fun f hf => ?_) h
    rw [← ReleaseOutcome.failed.inj hf]
    exact of_decide_eq_true rfl
  | notUpdated set d₁ hb e d₂ hup f _ hroll =>
    refine iff_of_true (fun f' hf => ?_) hb.checked
    rw [← ReleaseOutcome.failed.inj hf, (rollBack_eq hroll).2.1]
    exact of_decide_eq_true rfl
  | broken set d₁ hb artifacts d₂ hup f _ hrun =>
    refine iff_of_true (fun f' hf => ?_) hb.checked
    have hmutated : .filesMutated ≤ f.state := runSteps_failed_mutated (of_decide_eq_true rfl) hrun
    rw [← ReleaseOutcome.failed.inj hf]
    exact Nat.le_trans (m := ReleaseState.filesMutated.rank) (by decide) hmutated
  | released set d₁ hb => exact iff_of_true (fun f hf => by simp at hf) hb.checked

/-! ## The plan -/

/-- **What a plan announces.** A missing pending section counts as an empty one. -/
theorem changelogReady_iff (h : p.prepare o d = .ok plan) (hc : p.loadChangelog d = .ok c) :
    plan.changelogReady = true ↔ c.isReady p.config.changelog.minPendingChars = true ∨
      (c.pending? = none ∧ p.config.changelog.minPendingChars = 0) := by
  obtain ⟨c', hc', hchars, hmin⟩ := prepare_pending h
  obtain rfl : c' = c := Except.ok.inj (hc'.symm.trans hc)
  unfold ReleasePlan.changelogReady
  rw [hchars, hmin, decide_eq_true_iff]
  cases hlength : c'.pendingLength? with
  | none =>
    have hmissing : c'.pending? = none := Changelog.pendingLength?_eq_none_iff.mp hlength
    simp [Changelog.isReady_of_missing hmissing, hmissing]
  | some found =>
    have hthere : c'.pending? ≠ none := fun hn => by
      rw [Changelog.pendingLength?_eq_none_iff.mpr hn] at hlength
      exact absurd hlength (by simp)
    simp [Changelog.isReady_iff hlength, hthere]

end

end Project

/-! ## The command -/

namespace Cli.Machine

open Project Disk

variable {σ : Type} {w : World σ} {m : Machine} {i : Invocation} {dir : String}
variable {args : List String} {p : Project} {o : ReleaseOptions} {plan : ReleasePlan}
variable {s : Session σ} {c : Changelog}

theorem checkChangelog_ok_iff : (∃ text, checkChangelog p c = .ok text) ↔
    c.isReady p.config.changelog.minPendingChars = true := by
  unfold checkChangelog
  cases hlength : c.pendingLength? with
  | none =>
    have hmissing : c.pending? = none := Changelog.pendingLength?_eq_none_iff.mp hlength
    simp [Changelog.isReady_of_missing hmissing]
  | some found =>
    rw [Changelog.isReady_iff hlength]
    by_cases hshort : found < p.config.changelog.minPendingChars
    · simp [hshort]
    · simp [hshort, Nat.le_of_not_lt hshort]

theorem exit_finish (m : Machine) (result : Except Fault String) :
    (m.finish result).exit = 0 ↔ ∃ text, result = .ok text := by
  cases result with
  | error fault => simp [finish, Result.failed]
  | ok text => simp [finish, Result.done]

/-- A command line that checks the changelog of a project. -/
def Checks (m : Machine) (args : List String) (p : Project) : Prop :=
  ∃ i dir, Arguments.parse args = .ok i ∧ i.level = .changelogCheck ∧
    m.startDir i = .ok dir ∧ m.loadProject dir = .ok p

section

variable [Regex.SizeLimit]

/-- **The command succeeds** exactly if the changelog is ready. -/
theorem exit_check_iff (h : m.Checks args p) (hc : p.loadChangelog m.disk = .ok c) :
    (m.run args).exit = 0 ↔ c.isReady p.config.changelog.minPendingChars = true := by
  obtain ⟨i, dir, hargs, hlevel, hdir, hp⟩ := h
  have hcommand : m.withChangelog dir checkChangelog = checkChangelog p c := by
    unfold withChangelog
    simp only [hp, hc, within, bind, Except.bind]
  have hrun : m.run args = m.finish (checkChangelog p c) := by
    unfold run
    simp only [hargs, hdir]
    unfold runIn
    simp only [hlevel, hcommand]
  rw [hrun, exit_finish, checkChangelog_ok_iff]

/-- **All agree on whether a changelog is ready**: the changelog, the release, the command and the
plan. Only the plan differs, exactly if there is no pending section and no character is
required. -/
theorem readiness_agrees (hplan : p.prepare o s.disk = .ok plan) (hcheck : m.Checks args p)
    (hdisk : m.disk = s.disk) : ∃ c, p.loadChangelog s.disk = .ok c ∧
      (PassesCheck w p o plan s ↔ c.isReady p.config.changelog.minPendingChars = true) ∧
      ((m.run args).exit = 0 ↔ c.isReady p.config.changelog.minPendingChars = true) ∧
      ((plan.changelogReady = c.isReady p.config.changelog.minPendingChars) ↔
        ¬ (c.pending? = none ∧ p.config.changelog.minPendingChars = 0)) := by
  obtain ⟨c, hc, -, -⟩ := prepare_pending hplan
  refine ⟨c, hc, execute_passes_iff hc, exit_check_iff hcheck (hdisk ▸ hc), ?_⟩
  rw [Bool.eq_iff_iff, changelogReady_iff hplan hc]
  by_cases hmissing : c.pending? = none
  · simp [Changelog.isReady_of_missing hmissing, hmissing]
  · simp [hmissing]

end

/-! ### A small project -/

/-- A project with a version file and the default changelog. -/
def modest (min : Nat) : Project :=
  ⟨"app", { version := { source := "VERSION" }, changelog := { minPendingChars := min } }⟩

/-- A machine in its directory. The first text is the number in its configuration. -/
def atRoot (min changelog : String) : Machine where
  disk := ⟨[(["app"], .directory), (["app", "VERSION"], .file (.text "1.0.0")),
    (["app", "CHANGELOG.md"], .file (.text changelog)),
    (["app", "keel.toml"], .file (.text
      ("[version]\nsource = \"VERSION\"\n[changelog]\nmin_pending_chars = " ++ min ++ "\n")))]⟩
  dir := "app"
  input := ""
  repository := none
  today := ⟨2024, 1, 2⟩

/-- The plan of its release. -/
def modestPlan (min found : Nat) (changelog : String) : ReleasePlan where
  current := ⟨1, 0, 0⟩
  next := ⟨1, 1, 0⟩
  tag := "v1.1.0"
  pendingChars := found
  minPendingChars := min
  steps := (modest min).steps tinyOptions (atRoot (toString min) changelog).disk ⟨1, 1, 0⟩ "v1.1.0"
  touched := (modest min).touched
  warnings := (modest min).planWarnings tinyOptions

/-- A changelog whose pending section has four characters. -/
def pendingText : String := "## [Unreleased]\nNew.\n"

/-- A changelog without a pending section. -/
def titleText : String := "# Changelog\n"

theorem readiness_agrees_modest :
    (modest 3).prepare tinyOptions (atRoot "3" pendingText).disk =
      .ok (modestPlan 3 4 pendingText) ∧
    (atRoot "3" pendingText).Checks ["changelog", "check"] (modest 3) ∧
    ∃ c, (modest 3).loadChangelog (atRoot "3" pendingText).disk = .ok c ∧
      (PassesCheck quietWorld (modest 3) tinyOptions (modestPlan 3 4 pendingText)
        (Session.start (atRoot "3" pendingText).disk ()) ↔ c.isReady 3 = true) ∧
      (((atRoot "3" pendingText).run ["changelog", "check"]).exit = 0 ↔ c.isReady 3 = true) ∧
      (((modestPlan 3 4 pendingText).changelogReady = c.isReady 3) ↔
        ¬ (c.pending? = none ∧ 3 = 0)) := by
  have hplan : (modest 3).prepare tinyOptions (atRoot "3" pendingText).disk =
      .ok (modestPlan 3 4 pendingText) := ok_of_toOption (by decide +kernel)
  have hcheck : (atRoot "3" pendingText).Checks ["changelog", "check"] (modest 3) :=
    ⟨⟨.changelogCheck, [], []⟩, "app", ok_of_toOption (by decide +kernel), rfl, rfl,
      ok_of_toOption (by decide +kernel)⟩
  exact ⟨hplan, hcheck, readiness_agrees (s := Session.start (atRoot "3" pendingText).disk ())
    hplan hcheck rfl⟩

/-- Without a pending section, and with no character required, a plan announces a release that is
refused; the command refuses the changelog, too. -/
theorem plan_announces_refused :
    (modest 0).prepare tinyOptions (atRoot "0" titleText).disk = .ok (modestPlan 0 0 titleText) ∧
    (modestPlan 0 0 titleText).changelogReady = true ∧
    ((modest 0).execute quietWorld tinyOptions (modestPlan 0 0 titleText)
      (Session.start (atRoot "0" titleText).disk ())).1 =
        .failed ⟨.pendingTooShort 0 0, .versionComputed, none, [], [], none⟩ ∧
    ((atRoot "0" titleText).run ["changelog", "check"]).exit = 1 ∧
    (Changelog.mk titleText "v").isReady 0 = false :=
  ⟨ok_of_toOption (by decide +kernel), rfl, by decide +kernel, by decide +kernel,
    by decide +kernel⟩

end Cli.Machine

end Slipway
