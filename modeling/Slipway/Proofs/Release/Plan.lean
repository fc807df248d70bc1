import Slipway.Proofs.Artifact.Update
import Slipway.Release.Execute

/-!
# What a plan holds

About `ReleaseOrchestrator::prepare` and `plan_steps` (`keel_core::release`).

* `exists_touched_artifact`, `exists_touched_changelog`: the files that an update writes are among
  the touched ones, up to the spelling of their paths.
* `updateFiles_wrote`: updating the files writes only there, and only where a file stands already.
* `steps_eq`, `kinds_steps`: all steps of a plan but a publication at its end are required, and they
  stand in the order of the pipeline.
-/

namespace Slipway

open Disk

variable {p : Project} {o : ReleaseOptions} {plan : ReleasePlan} {d d' : Disk}

/-! ## The touched files -/

namespace Artifacts

theorem mem_addPath_of_mem {paths : List String} {path t : String} (h : t ∈ paths) :
    t ∈ addPath paths path := by
  unfold addPath
  split
  · exact h
  · exact List.mem_append_left _ h

/-- A path that was added is there, maybe spelled in another way. -/
theorem exists_same_addPath (paths : List String) (path : String) :
    ∃ t ∈ addPath paths path, Path.same path t = true := by
  unfold addPath
  split
  · rename_i h
    exact List.any_eq_true.mp h
  · exact ⟨path, by simp, Path.same_refl path⟩

theorem exists_same_foldl {paths added : List String} {path : String}
    (h : ∃ t, (t ∈ paths ∨ t ∈ added) ∧ Path.same path t = true) :
    ∃ t ∈ added.foldl addPath paths, Path.same path t = true := by
  induction added generalizing paths with
  | nil =>
    obtain ⟨t, ht | ht, hs⟩ := h
    · exact ⟨t, ht, hs⟩
    · exact absurd ht List.not_mem_nil
  | cons first added ih =>
    refine ih ?_
    obtain ⟨t, ht | ht, hs⟩ := h
    · exact ⟨t, Or.inl (mem_addPath_of_mem ht), hs⟩
    · rcases List.mem_cons.mp ht with rfl | ht
      · obtain ⟨t', ht', hs'⟩ := exists_same_addPath paths t
        exact ⟨t', Or.inl ht', Path.same_trans hs hs'⟩
      · exact ⟨t, Or.inr ht, hs⟩

theorem mem_of_mem_addPath {paths : List String} {path t : String} (h : t ∈ addPath paths path) :
    t ∈ paths ∨ t = path := by
  unfold addPath at h
  split at h
  · exact Or.inl h
  · rcases List.mem_append.mp h with h | h
    · exact Or.inl h
    · exact Or.inr (List.mem_singleton.mp h)

theorem mem_of_mem_foldl {paths added : List String} {t : String}
    (h : t ∈ added.foldl addPath paths) : t ∈ paths ∨ t ∈ added := by
  induction added generalizing paths with
  | nil => exact Or.inl h
  | cons first added ih =>
    rcases ih h with ht | ht
    · rcases mem_of_mem_addPath ht with ht | rfl
      · exact Or.inl ht
      · exact Or.inr List.mem_cons_self
    · exact Or.inr (List.mem_cons_of_mem first ht)

end Artifacts

namespace Project

/-- A place of a touched file. -/
def Touches (p : Project) (q : Place) : Prop := ∃ t ∈ p.touched, Path.place t = q

/-- The path of an artifact is touched, maybe spelled in another way. -/
theorem exists_touched_artifact {a : Artifact} (h : a ∈ p.config.artifacts) :
    ∃ t ∈ p.touched, Path.same (a.fullPath p.root) t = true := by
  have hm : a.fullPath p.root ∈ p.config.artifacts.map (Artifact.fullPath p.root) :=
    List.mem_map_of_mem h
  obtain ⟨t, ht, hs⟩ := Artifacts.exists_same_foldl ⟨_, Or.inr hm, Path.same_refl _⟩
  exact ⟨t, Artifacts.mem_addPath_of_mem ht, hs⟩

/-- So is the path of the changelog. -/
theorem exists_touched_changelog (p : Project) :
    ∃ t ∈ p.touched, Path.same p.changelogPath t = true :=
  Artifacts.exists_same_addPath _ _

/-- Every touched path is that of an artifact or of the changelog. -/
theorem touched_cases {t : String} (h : t ∈ p.touched) :
    (∃ a ∈ p.config.artifacts, t = a.fullPath p.root) ∨ t = p.changelogPath := by
  rcases Artifacts.mem_of_mem_addPath h with ht | ht
  · rcases Artifacts.mem_of_mem_foldl ht with ht | ht
    · exact absurd ht List.not_mem_nil
    · obtain ⟨a, ha, rfl⟩ := List.mem_map.mp ht
      exact Or.inl ⟨a, ha, rfl⟩
  · exact Or.inr ht

theorem touches_artifact {a : Artifact} (h : a ∈ p.config.artifacts) :
    p.Touches (Path.place (a.fullPath p.root)) := by
  obtain ⟨t, ht, hs⟩ := exists_touched_artifact h
  exact ⟨t, ht, (Path.place_eq_of_same hs).symm⟩

theorem touches_changelog (p : Project) : p.Touches (Path.place p.changelogPath) := by
  obtain ⟨t, ht, hs⟩ := p.exists_touched_changelog
  exact ⟨t, ht, (Path.place_eq_of_same hs).symm⟩

theorem touched_ne_nil (p : Project) : p.touched ≠ [] := by
  obtain ⟨t, ht, -⟩ := p.touches_changelog
  exact List.ne_nil_of_mem ht

/-! ## Updating the files -/

/-- The touched places at which something stands. -/
def Mutable (p : Project) (d : Disk) (q : Place) : Prop := p.Touches q ∧ d.at? q ≠ none

theorem wrote_trans_mutable {d₁ : Disk} (h : Wrote (p.Mutable d) d d₁)
    (h' : Wrote (p.Mutable d₁) d₁ d') : Wrote (p.Mutable d) d d' := by
  refine h.trans (h'.mono fun q hq => ⟨hq.1, fun hn => hq.2 ?_⟩)
  rw [h.at?_eq fun hm => hm.2 hn, hn]

theorem mutable_write {path : String} {c : Content} (ht : p.Touches (Path.place path))
    (hp : d.pathExists path = true) (hw : d.write path c = .ok d') : Wrote (p.Mutable d) d d' := by
  refine (wrote_of_write hw).1.mono fun q hq => ?_
  rw [hq]
  exact ⟨ht, (pathExists_iff.mp hp).2⟩

end Project

section

variable [Regex.SizeLimit]

theorem Artifact.pathExists_of_found {a : Artifact} {root : String} {old new : Version}
    {before : String} {after : Substitution}
    (h : a.examine root d old new = .ok (.found before after)) :
    d.pathExists (a.fullPath root) = true := by
  unfold Artifact.examine at h
  split at h
  · exact absurd h (by simp)
  · simp_all

/-- An artifact that was not written back left the disk alone; one that was has been found. -/
theorem Artifact.update_cases {a : Artifact} {root : String} {old new : Version}
    {outcome : ArtifactOutcome} (h : a.update root d old new = .ok (outcome, d')) :
    ((∀ n, outcome ≠ .updated n) ∧ d' = d) ∨
      ∃ before after, a.examine root d old new = .ok (.found before after) ∧
        outcome = .updated after.count ∧ d.write (a.fullPath root) (.text after.text) = .ok d' := by
  unfold Artifact.update at h
  split at h
  · exact absurd h (by simp)
  · obtain ⟨rfl, rfl⟩ := Prod.mk.inj (Except.ok.inj h)
    exact Or.inl ⟨by simp, rfl⟩
  · rename_i before after hfound
    split at h
    · obtain ⟨rfl, rfl⟩ := Prod.mk.inj (Except.ok.inj h)
      exact Or.inl ⟨by simp, rfl⟩
    · obtain ⟨d₁, hw, he⟩ := map_eq_ok_iff.mp h
      obtain ⟨rfl, rfl⟩ := Prod.mk.inj he
      exact Or.inr ⟨before, after, hfound, rfl, ofDisk_eq_ok_iff.mp hw⟩

end

namespace Project

theorem pathExists_of_loadChangelog {changelog : Changelog}
    (h : p.loadChangelog d = .ok changelog) : d.pathExists p.changelogPath = true := by
  unfold loadChangelog Changelog.load at h
  split at h
  · assumption
  · exact absurd h (by simp)

/-- Loading the changelog reads the text at its path. -/
theorem loadChangelog_eq_ok_iff {changelog : Changelog} : p.loadChangelog d = .ok changelog ↔
    ∃ text, d.lookup p.changelogPath = .ok (.file (.text text)) ∧
      changelog = ⟨text, p.config.version.tagPrefix⟩ := by
  constructor
  · intro h
    have he := pathExists_of_loadChangelog h
    unfold loadChangelog Changelog.load at h
    rw [if_pos he] at h
    cases ht : ofDisk (d.readText p.changelogPath) with
    | error e =>
      rw [ht] at h
      exact absurd h (by simp [Except.map])
    | ok text =>
      rw [ht] at h
      exact ⟨text, readText_eq_ok_iff.mp (ofDisk_eq_ok_iff.mp ht), (Except.ok.inj h).symm⟩
  · rintro ⟨text, hl, rfl⟩
    obtain ⟨hleads, hat⟩ := lookup_eq_ok_iff.mp hl
    have he : d.pathExists p.changelogPath = true := pathExists_iff.mpr ⟨hleads, by rw [hat]; simp⟩
    unfold loadChangelog Changelog.load
    rw [if_pos he, ofDisk_eq_ok_iff.mpr (readText_eq_ok_iff.mpr hl)]
    rfl

section

variable [Regex.SizeLimit]

theorem update_wrote {a : Artifact} {old new : Version} {outcome : ArtifactOutcome}
    (ha : a ∈ p.config.artifacts) (h : a.update p.root d old new = .ok (outcome, d')) :
    Wrote (p.Mutable d) d d' := by
  rcases Artifact.update_cases h with ⟨-, rfl⟩ | ⟨before, after, hfound, -, hw⟩
  · exact Wrote.refl _ d'
  · exact mutable_write (touches_artifact ha) (Artifact.pathExists_of_found hfound) hw

theorem apply_wrote (old new : Version) {artifacts : List Artifact}
    (ha : ∀ a ∈ artifacts, a ∈ p.config.artifacts) (d : Disk) :
    Wrote (p.Mutable d) d (Artifacts.apply p.root old new artifacts d).2 := by
  induction artifacts generalizing d with
  | nil => exact Wrote.refl _ d
  | cons a artifacts ih =>
    rw [Artifacts.apply_cons]
    split
    · exact Wrote.refl _ d
    · rename_i outcome d₁ hu
      exact wrote_trans_mutable (update_wrote (ha a List.mem_cons_self) hu)
        (ih (fun b hb => ha b (List.mem_cons_of_mem a hb)) d₁)

theorem promoteChangelog_eq_ok_iff {next : Version} : p.promoteChangelog o next d = .ok d' ↔
    ∃ changelog text, p.loadChangelog d = .ok changelog ∧
      changelog.promote next o.date = .ok text ∧
      d.write p.changelogPath (.text text) = .ok d' := by
  unfold promoteChangelog
  cases hl : p.loadChangelog d with
  | error e => simp [bind, Except.bind]
  | ok changelog =>
    cases ht : changelog.promote next o.date with
    | error e => simp [bind, Except.bind, ht]
    | ok text => simp [bind, Except.bind, ht, ofDisk_eq_ok_iff]

theorem promoteChangelog_wrote {next : Version} (h : p.promoteChangelog o next d = .ok d') :
    Wrote (p.Mutable d) d d' := by
  obtain ⟨changelog, text, hl, -, hw⟩ := promoteChangelog_eq_ok_iff.mp h
  exact mutable_write p.touches_changelog (pathExists_of_loadChangelog hl) hw

/-- **Updating the files** writes only touched files that exist, even if it is broken off. -/
theorem updateFiles_wrote (p : Project) (o : ReleaseOptions) (plan : ReleasePlan) (d : Disk) :
    Wrote (p.Mutable d) d (p.updateFiles o plan d).2 := by
  have happly := p.apply_wrote plan.current plan.next (fun _ => id) d
  unfold updateFiles
  split
  · rename_i h
    rwa [h] at happly
  · rename_i report d₁ h
    rw [h] at happly
    split
    · exact happly
    · split
      · exact happly
      · rename_i d' hpromote
        exact wrote_trans_mutable happly (promoteChangelog_wrote hpromote)

end

/-! ## The steps -/

/-- The steps before a publication. -/
def frontSteps (p : Project) (o : ReleaseOptions) (d : Disk) (next : Version) (tag : String) :
    List Step :=
  (p.tools o).filterMap Tool.step? ++ p.recordSteps d next tag ++
    (if o.push then p.pushSteps else [])

theorem mem_tools_kind {t : Tool} (h : t ∈ p.tools o) : t.kind ≠ .publish := by
  unfold tools at h
  simp only [List.mem_append, List.mem_singleton] at h
  rcases h with (h | rfl) | h
  · split at h
    · rw [List.mem_singleton.mp h]
      simp
    · exact absurd h List.not_mem_nil
  · simp
  · split at h
    · rw [List.mem_singleton.mp h]
      simp
    · exact absurd h List.not_mem_nil

theorem frontSteps_required {next : Version} {tag : String} {step : Step}
    (h : step ∈ p.frontSteps o d next tag) : step.required = true ∧ step.kind ≠ .publish := by
  unfold frontSteps at h
  rw [List.mem_append, List.mem_append] at h
  rcases h with (h | h) | h
  · obtain ⟨t, ht, hs⟩ := List.mem_filterMap.mp h
    unfold Tool.step? at hs
    obtain ⟨c, -, rfl⟩ := Option.map_eq_some_iff.mp hs
    exact ⟨rfl, mem_tools_kind ht⟩
  · simp only [recordSteps, gitStep, List.mem_cons, List.not_mem_nil, or_false] at h
    rcases h with rfl | rfl | rfl <;> simp
  · split at h
    · simp only [pushSteps, gitStep, List.mem_cons, List.not_mem_nil, or_false] at h
      rcases h with rfl | rfl <;> simp
    · exact absurd h List.not_mem_nil

theorem kind_step? {t : Tool} {step : Step} (h : t.step? = some step) : step.kind = t.kind := by
  unfold Tool.step? at h
  obtain ⟨c, -, rfl⟩ := Option.map_eq_some_iff.mp h
  rfl

theorem kinds_filterMap_step? (tools : List Tool) :
    ((tools.filterMap Tool.step?).map Step.kind).Sublist (tools.map Tool.kind) := by
  induction tools with
  | nil => simp
  | cons t tools ih =>
    cases ht : t.step? with
    | none =>
      rw [List.filterMap_cons_none ht]
      exact ih.cons t.kind
    | some step =>
      rw [List.filterMap_cons_some ht, List.map_cons, List.map_cons, kind_step? ht]
      exact ih.cons_cons t.kind

theorem kinds_tools (p : Project) (o : ReleaseOptions) :
    ((p.tools o).map Tool.kind).Sublist [.test, .build, .deploy] := by
  unfold tools
  by_cases ht : o.runTests = true
  · by_cases hd : o.deploy = true
    · simp [ht, hd]
    · simp [ht, hd]
  · by_cases hd : o.deploy = true
    · simp [ht, hd]
    · simp [ht, hd]

section

variable [Regex.SizeLimit]

/-- A plan is made with the changelog at hand. -/
theorem exists_of_prepare (h : p.prepare o d = .ok plan) : ∃ c, p.loadChangelog d = .ok c ∧
    plan.pendingChars = c.pendingLength?.getD 0 ∧
    plan.minPendingChars = p.config.changelog.minPendingChars ∧
    plan.steps = p.steps o d plan.next plan.tag ∧ plan.touched = p.touched := by
  unfold prepare at h
  simp only [bind, Except.bind] at h
  split at h
  · exact absurd h (by simp)
  · split at h
    · exact absurd h (by simp)
    · split at h
      · exact absurd h (by simp)
      · rename_i c hc
        rw [← Except.ok.inj h]
        exact ⟨c, hc, rfl, rfl, rfl, rfl⟩

theorem prepare_eq_ok (h : p.prepare o d = .ok plan) :
    plan.steps = p.steps o d plan.next plan.tag ∧ plan.touched = p.touched := by
  obtain ⟨c, -, -, -, hsteps, htouched⟩ := exists_of_prepare h
  exact ⟨hsteps, htouched⟩

theorem prepare_pending (h : p.prepare o d = .ok plan) : ∃ c, p.loadChangelog d = .ok c ∧
    plan.pendingChars = c.pendingLength?.getD 0 ∧
    plan.minPendingChars = p.config.changelog.minPendingChars := by
  obtain ⟨c, hc, hpending, hmin, -⟩ := exists_of_prepare h
  exact ⟨c, hc, hpending, hmin⟩

/-- **Only a last step may be a publication**; all the others are required. -/
theorem steps_eq (h : p.prepare o d = .ok plan) :
    ∃ front back, plan.steps = front ++ back ∧
      (∀ step ∈ front, step.required = true ∧ step.kind ≠ .publish) ∧
      (back = [] ∨ ∃ step, back = [step] ∧ step.kind = .publish ∧ step.required = false) := by
  rw [(prepare_eq_ok h).1]
  refine ⟨p.frontSteps o d plan.next plan.tag, _, rfl, fun _ => frontSteps_required, ?_⟩
  split
  · exact Or.inr ⟨_, rfl, rfl, rfl⟩
  · exact Or.inl rfl

/-- A step that has another one after it is no publication. -/
theorem not_publish_of_append {done rest : List Step} {step : Step}
    (h : p.prepare o d = .ok plan) (hs : plan.steps = done ++ step :: rest) :
    ∀ step' ∈ done, step'.required = true ∧ step'.kind ≠ .publish := by
  obtain ⟨front, back, hsteps, hfront, hback⟩ := steps_eq h
  have hlen : back.length ≤ 1 := by
    rcases hback with rfl | ⟨last, rfl, -⟩
    · exact Nat.zero_le 1
    · exact Nat.le_refl 1
  have hdone : done <+: plan.steps := ⟨_, hs.symm⟩
  have hpre : done <+: front := by
    refine List.prefix_of_prefix_length_le hdone ⟨_, hsteps.symm⟩ ?_
    have := congrArg List.length (hs.symm.trans hsteps)
    rw [List.length_append, List.length_append, List.length_cons] at this
    omega
  exact fun step' hm => hfront step' (hpre.subset hm)

/-- A step is required, or it is a publication and the last one. -/
theorem step_shape {done rest : List Step} {step : Step} (h : p.prepare o d = .ok plan)
    (hs : plan.steps = done ++ step :: rest) :
    (step.kind ≠ .publish ∧ step.required = true) ∨
      (step.kind = .publish ∧ step.required = false ∧ rest = []) := by
  cases rest with
  | cons next rest =>
    have hs' : plan.steps = (done ++ [step]) ++ next :: rest := by
      rw [hs, List.append_assoc, List.singleton_append]
    have hm := not_publish_of_append h hs' step (by simp)
    exact Or.inl ⟨hm.2, hm.1⟩
  | nil =>
    obtain ⟨front, back, hsteps, hfront, rfl | ⟨last, rfl, hk, hr⟩⟩ := steps_eq h
    · have hm := hfront step (by rw [← List.append_nil front, ← hsteps, hs]; simp)
      exact Or.inl ⟨hm.2, hm.1⟩
    · have he : step = last := by
        have := congrArg List.getLast? (hs.symm.trans hsteps)
        simpa using this
      rw [he]
      exact Or.inr ⟨hk, hr, rfl⟩

/-- **The steps of a plan** stand in the order of the pipeline. -/
theorem kinds_steps (h : p.prepare o d = .ok plan) :
    (plan.steps.map Step.kind).Sublist StepKind.all := by
  have htools := (kinds_filterMap_step? (p.tools o)).trans (p.kinds_tools o)
  have hpush : ((if o.push then p.pushSteps else []).map Step.kind).Sublist
      [.pushCommits, .pushTags] := by
    split <;> simp [pushSteps, gitStep]
  have hpublish : ((if o.publish then [p.host.publishStep d plan.tag plan.next] else []).map
      Step.kind).Sublist [.publish] := by
    split <;> simp [ReleaseHost.publishStep]
  rw [(prepare_eq_ok h).1]
  unfold steps
  simp only [List.map_append]
  exact ((htools.append (List.Sublist.refl [.stage, .commit, .tag])).append hpush).append hpublish

theorem nodup_kinds (h : p.prepare o d = .ok plan) : (plan.steps.map Step.kind).Nodup :=
  (kinds_steps h).nodup (by decide)

/-- A step is required unless it is a publication. -/
theorem required_iff (h : p.prepare o d = .ok plan) {step : Step} (hm : step ∈ plan.steps) :
    step.required = true ↔ step.kind ≠ .publish := by
  obtain ⟨done, rest, hs⟩ := List.append_of_mem hm
  rcases step_shape h hs with ⟨hk, hr⟩ | ⟨hk, hr, -⟩
  · exact iff_of_true hr hk
  · exact iff_of_false (by simp [hr]) fun hn => hn hk

end

/-! ## A small project -/

/-- A project with a changelog, whose build is its only command. -/
def tiny (backup : String) (artifacts : List Artifact) : Project :=
  ⟨"app", {
    version := { source := "VERSION" }
    artifacts := artifacts
    changelog := { minPendingChars := 1 }
    commands := ⟨[], ["make"], []⟩
    backup := ⟨backup⟩ }⟩

/-- Its changelog. -/
def tinyText : Content := .text "## [Unreleased]\nNew.\n"

/-- Its disk. -/
def tinyDisk : Disk :=
  ⟨[(["app"], .directory), (["app", "VERSION"], .file (.text "1.0.0")),
    (["app", "CHANGELOG.md"], .file tinyText)]⟩

/-- A release that stays on this machine. -/
def tinyOptions : ReleaseOptions :=
  { date := ⟨2024, 1, 2⟩, runTests := false, deploy := false, push := false, publish := false }

/-- The plan of the release. -/
def tinyPlan (backup : String) (artifacts : List Artifact) : ReleasePlan where
  current := ⟨1, 0, 0⟩
  next := ⟨1, 1, 0⟩
  tag := "v1.1.0"
  pendingChars := 4
  minPendingChars := 1
  steps := (tiny backup artifacts).steps tinyOptions tinyDisk ⟨1, 1, 0⟩ "v1.1.0"
  touched := (tiny backup artifacts).touched
  warnings := (tiny backup artifacts).planWarnings tinyOptions

theorem prepare_tiny : (tiny "kept" []).prepare tinyOptions tinyDisk = .ok (tinyPlan "kept" []) :=
  ok_of_toOption (by decide +kernel)

end Project

end Slipway
