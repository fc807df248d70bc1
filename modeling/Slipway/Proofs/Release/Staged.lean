import Mathlib.Data.List.Nodup
import Slipway.Proofs.Disk.Below
import Slipway.Proofs.Release.Course
import Slipway.Proofs.Release.Preview
import Slipway.Proofs.Release.Trace
import Slipway.Proofs.Vault.RoundTrip

/-!
# What a release rewrites, copies and stages

About `plan_steps` (`keel_core::release`) and `ArtifactMutator::apply_version` (`keel_core::files`).
A plan lists the touched files, which are copied into the vault, and the arguments of the step that
stages them. The update of the files goes by the declared paths instead. A path that several
artifacts declare is touched once, in the spelling of the first, and it is copied and staged only if
it exists in that spelling.

* `updateFiles_writes`: an update changes the disk only where it writes (`Writes`).
* `touched_pairwise`, `mem_stagePaths_iff`: what is touched, and what is staged.
* `saved_iff`, `staged_iff`: which paths are copied, and which are staged.
* `rewritten_accounted`: how a plan accounts for the files that its release rewrites.
* `rewritten_unaccounted`: a file that is rewritten, but neither copied nor staged, because an
  artifact before it is declared with a slash at its end.
-/

namespace Slipway

open Disk

variable {σ : Type} {w : World σ} {p : Project} {o : ReleaseOptions} {plan : ReleasePlan}
variable {d d₁ d' : Disk} {set : BackupSet} {s : Session σ} {path arg t : String}

namespace Artifacts

variable {root : String} {old new : Version} {front : List Artifact} {a : Artifact}
variable {report : ApplyReport} {outcome : ArtifactOutcome} {paths : List String}

section

variable [Regex.SizeLimit]

/-- One more artifact. -/
theorem apply_concat (h : apply root old new front d = (.ok report, d₁))
    (hu : a.update root d₁ old new = .ok (outcome, d')) :
    ∃ report', apply root old new (front ++ [a]) d = (.ok report', d') := by
  induction front generalizing d report with
  | nil =>
    obtain ⟨-, rfl⟩ := Prod.mk.inj h
    refine ⟨⟨[⟨a.path, a.optional, outcome⟩]⟩, ?_⟩
    rw [List.nil_append, apply_cons, hu]
    rfl
  | cons first front ih =>
    rw [apply_cons] at h
    split at h
    · exact absurd (Prod.mk.inj h).1 (by simp)
    · rename_i firstOutcome d₂ hfirst
      obtain ⟨hr, hd⟩ := Prod.mk.inj h
      obtain ⟨rest, hrest, -⟩ := map_eq_ok_iff.mp hr
      obtain ⟨report', happly⟩ := ih (Prod.ext hrest hd)
      refine ⟨⟨⟨first.path, first.optional, firstOutcome⟩ :: report'.results⟩, ?_⟩
      rw [List.cons_append, apply_cons, hfirst]
      simp only [happly]
      rfl

end

theorem pairwise_addPath (h : paths.Pairwise fun x y => Path.same x y = false) (path : String) :
    (addPath paths path).Pairwise fun x y => Path.same x y = false := by
  unfold addPath
  split
  · exact h
  · rename_i hnew
    refine List.pairwise_append.mpr ⟨h, List.pairwise_singleton _ _, fun x hx y hy => ?_⟩
    rw [List.mem_singleton.mp hy, ← Bool.not_eq_true]
    exact fun hs => hnew (List.any_eq_true.mpr ⟨x, hx, Path.same_symm hs⟩)

theorem pairwise_foldl (h : paths.Pairwise fun x y => Path.same x y = false) (added : List String) :
    (added.foldl addPath paths).Pairwise fun x y => Path.same x y = false := by
  induction added generalizing paths with
  | nil => exact h
  | cons path added ih => exact ih (pairwise_addPath h path)

end Artifacts

namespace Project

/-! ## What an update writes -/

/-- What exists after files that exist were written has existed before. -/
theorem pathExists_of_wrote (h : Wrote (p.Mutable d) d d') (he : d'.pathExists path = true) :
    d.pathExists path = true := by
  rw [pathExists_iff] at he ⊢
  refine ⟨h.leads_iff.mp he.1, fun hn => he.2 ?_⟩
  rw [h.at?_eq fun hm => hm.2 hn, hn]

section

variable [Regex.SizeLimit]

/-- The paths that an update writes: the one of an artifact that is written back after those before
it, and the one of the changelog when it is promoted. -/
inductive Writes (p : Project) (o : ReleaseOptions) (plan : ReleasePlan) (d : Disk) :
    String → Prop
  | artifact {front back : List Artifact} {a : Artifact} {report : ApplyReport} {d₁ d' : Disk}
    {n : Nat} (hsplit : p.config.artifacts = front ++ a :: back)
    (hfront : Artifacts.apply p.root plan.current plan.next front d = (.ok report, d₁))
    (hupdate : a.update p.root d₁ plan.current plan.next = .ok (.updated n, d')) :
    Writes p o plan d (a.fullPath p.root)
  | changelog {report : ApplyReport} {d₁ d' : Disk}
    (happly : Artifacts.apply p.root plan.current plan.next p.config.artifacts d =
      (.ok report, d₁))
    (hissues : report.issues = []) (hpromote : p.promoteChangelog o plan.next d₁ = .ok d') :
    Writes p o plan d p.changelogPath

/-- A place of a written path. -/
def WritesAt (p : Project) (o : ReleaseOptions) (plan : ReleasePlan) (d : Disk) (q : Place) :
    Prop :=
  ∃ path, p.Writes o plan d path ∧ Path.place path = q

theorem apply_writes (front : List Artifact) {rest : List Artifact} {report : ApplyReport}
    (hsplit : p.config.artifacts = front ++ rest)
    (hfront : Artifacts.apply p.root plan.current plan.next front d = (.ok report, d₁)) :
    Wrote (p.WritesAt o plan d) d₁
      (Artifacts.apply p.root plan.current plan.next rest d₁).2 := by
  induction rest generalizing front report d₁ with
  | nil => exact Wrote.refl _ d₁
  | cons a rest ih =>
    rw [Artifacts.apply_cons]
    split
    · exact Wrote.refl _ d₁
    · rename_i outcome d₂ hu
      obtain ⟨report', hnext⟩ := Artifacts.apply_concat hfront hu
      have hrest := ih (front ++ [a]) (by rw [hsplit, List.append_assoc]; rfl) hnext
      rcases Artifact.update_cases hu with ⟨-, rfl⟩ | ⟨before, after, -, rfl, hw⟩
      · exact hrest
      · refine Wrote.trans ((wrote_of_write hw).1.mono fun q hq => ?_) hrest
        exact ⟨_, .artifact hsplit hfront hu, hq.symm⟩

/-- **An update changes the disk only where it writes**, even if it is broken off. -/
theorem updateFiles_writes (p : Project) (o : ReleaseOptions) (plan : ReleasePlan) (d : Disk) :
    Wrote (p.WritesAt o plan d) d (p.updateFiles o plan d).2 := by
  have happly : Wrote (p.WritesAt o plan d) d
      (Artifacts.apply p.root plan.current plan.next p.config.artifacts d).2 :=
    apply_writes [] rfl rfl
  unfold updateFiles
  split
  · rename_i h
    rwa [h] at happly
  · rename_i report d₁ h
    rw [h] at happly
    split
    · exact happly
    · rename_i hissues
      split
      · exact happly
      · rename_i d' hpromote
        obtain ⟨_, _, -, -, hw⟩ := promoteChangelog_eq_ok_iff.mp hpromote
        refine happly.trans ((wrote_of_write hw).1.mono fun q hq => ?_)
        exact ⟨_, .changelog h (not_not.mp hissues) hpromote, hq.symm⟩

/-- A written path existed when the update began. -/
theorem Writes.pathExists (h : p.Writes o plan d path) : d.pathExists path = true := by
  cases h with
  | artifact hsplit hfront hupdate =>
    have hwrote := p.apply_wrote plan.current plan.next
      (fun b hb => by rw [hsplit]; exact List.mem_append_left _ hb) d
    rw [hfront] at hwrote
    rcases Artifact.update_cases hupdate with ⟨hno, -⟩ | ⟨before, after, hfound, -⟩
    · exact absurd rfl (hno _)
    · exact pathExists_of_wrote hwrote (Artifact.pathExists_of_found hfound)
  | changelog happly hissues hpromote =>
    have hwrote := p.apply_wrote plan.current plan.next (fun _ => id) d
    rw [happly] at hwrote
    obtain ⟨_, _, hload, -⟩ := promoteChangelog_eq_ok_iff.mp hpromote
    exact pathExists_of_wrote hwrote (pathExists_of_loadChangelog hload)

/-- The paths that a release may write. -/
def Declares (p : Project) (path : String) : Prop :=
  (∃ a ∈ p.config.artifacts, path = a.fullPath p.root) ∨ path = p.changelogPath

theorem Writes.declares (h : p.Writes o plan d path) : p.Declares path := by
  cases h with
  | artifact hsplit => exact Or.inl ⟨_, by rw [hsplit]; simp, rfl⟩
  | changelog => exact Or.inr rfl

end

/-- What is declared is touched, in this spelling or in another. -/
theorem Declares.touched (h : p.Declares path) :
    ∃ t ∈ p.touched, Path.same path t = true := by
  rcases h with ⟨a, ha, rfl⟩ | rfl
  · exact exists_touched_artifact ha
  · exact p.exists_touched_changelog

/-! ## What is touched -/

/-- **No path is touched twice**, in whatever spelling. -/
theorem touched_pairwise (p : Project) :
    p.touched.Pairwise fun x y => Path.same x y = false :=
  Artifacts.pairwise_addPath (Artifacts.pairwise_foldl List.Pairwise.nil _) _

/-- The paths of a project are relative, and lead to places outside of the vault. -/
structure Tidy (p : Project) : Prop where
  artifact : ∀ a ∈ p.config.artifacts, Path.isAbsolute a.path = false ∧
    ¬ Path.place p.vaultDir <+: Path.place (a.fullPath p.root)
  changelog : Path.isAbsolute p.config.changelog.path = false ∧
    ¬ Path.place p.vaultDir <+: Path.place p.changelogPath

theorem Tidy.exists_join (h : p.Tidy) (hd : p.Declares path) :
    ∃ rel, Path.isAbsolute rel = false ∧ path = Path.join p.root rel := by
  rcases hd with ⟨a, ha, rfl⟩ | rfl
  · exact ⟨a.path, (h.artifact a ha).1, rfl⟩
  · exact ⟨p.config.changelog.path, h.changelog.1, rfl⟩

theorem Tidy.around (h : p.Tidy) : Vault.Around p.vaultDir p.touched := by
  intro t ht
  rcases touched_cases ht with ⟨a, ha, rfl⟩ | rfl
  · exact (h.artifact a ha).2
  · exact h.changelog.2

theorem Tidy.exists_below? (h : p.Tidy) (ht : t ∈ p.touched) :
    ∃ arg, Path.below? p.root t = some arg := by
  obtain ⟨rel, hrel, rfl⟩ := h.exists_join (touched_cases ht)
  exact Path.exists_below?_join hrel p.root

theorem Tidy.isAbsolute_below? (h : p.Tidy) (ht : t ∈ p.touched)
    (hbelow : Path.below? p.root t = some arg) : Path.isAbsolute arg = false := by
  obtain ⟨rel, hrel, rfl⟩ := h.exists_join (touched_cases ht)
  refine Path.isAbsolute_of_below? (fun hroot => ?_) hbelow
  unfold Path.join
  rw [if_pos (Or.inr hroot)]
  exact hrel

/-! ## What is copied and staged -/

/-- A path exists on a disk in the spelling in which it is touched. -/
def Stands (plan : ReleasePlan) (d : Disk) (path : String) : Prop :=
  ∃ t ∈ plan.touched, Path.same path t = true ∧ d.pathExists t = true

/-- A path has a slot, in some spelling; the slot holds what stood at its place before. -/
def Saved (d : Disk) (set : BackupSet) (d₁ : Disk) (path : String) : Prop :=
  ∃ t slot c, ⟨t, some slot⟩ ∈ set.paths ∧ Path.same path t = true ∧
    d.at? (Path.place path) = some (.file c) ∧ d₁.lookup slot = .ok (.file c)

/-- A path is among arguments, by its path below the root. -/
def Staged (p : Project) (args : List String) (path : String) : Prop :=
  ∃ arg ∈ args, Path.same (Path.join p.root arg) path = true

theorem saved_iff (hout : Vault.Around p.vaultDir plan.touched)
    (hcap : Vault.capture p.vaultDir plan.touched d = (.ok set, d₁)) :
    Saved d set d₁ path ↔ Stands plan d₁ path := by
  have hc := Vault.capture_around hout hcap
  constructor
  · rintro ⟨t, slot, c, he, hs, -, -⟩
    exact ⟨t, Vault.mem_paths_of_entry hc he, hs, (Vault.slot_iff hout hcap he).mp (by simp)⟩
  · rintro ⟨t, ht, hs, hp⟩
    obtain ⟨⟨t, slot⟩, he, rfl⟩ := List.mem_map.mp (hc.copied.paths_eq.symm ▸ ht)
    obtain ⟨slot, rfl⟩ := Option.ne_none_iff_exists'.mp ((Vault.slot_iff hout hcap he).mpr hp)
    obtain ⟨c, hslot, hpath⟩ := hc.copied.secured.saved _ he slot rfl
    have hfile := hc.spared.at?_file (hout _ ht) (lookup_eq_ok_iff.mp hpath).2
    exact ⟨t, slot, c, he, hs, by rw [Path.place_eq_of_same hs]; exact hfile, hslot⟩

theorem mem_stagePaths_iff : arg ∈ p.stagePaths d ↔
    ∃ t ∈ p.touched, d.pathExists t = true ∧ Path.below? p.root t = some arg := by
  unfold stagePaths
  simp only [List.mem_filterMap, List.mem_filter, and_assoc]

theorem staged_iff (htidy : p.Tidy) (htouched : plan.touched = p.touched) :
    p.Staged (p.stagePaths d) path ↔ Stands plan d path := by
  unfold Staged Stands
  rw [htouched]
  constructor
  · rintro ⟨arg, harg, hs⟩
    obtain ⟨t, ht, hp, hbelow⟩ := mem_stagePaths_iff.mp harg
    have hjoin := Path.same_join_of_below? hbelow
    exact ⟨t, ht, Path.same_trans (Path.same_symm hs) hjoin, hp⟩
  · rintro ⟨t, ht, hs, hp⟩
    obtain ⟨arg, hbelow⟩ := htidy.exists_below? ht
    refine ⟨arg, mem_stagePaths_iff.mpr ⟨t, ht, hp, hbelow⟩, ?_⟩
    exact Path.same_trans (Path.same_join_of_below? hbelow) (Path.same_symm hs)

/-- No path is staged twice, in whatever spelling. -/
theorem stagePaths_pairwise (htidy : p.Tidy) (d : Disk) :
    (p.stagePaths d).Pairwise fun x y => Path.same x y = false := by
  unfold stagePaths
  rw [List.pairwise_filterMap]
  refine List.Pairwise.imp_of_mem ?_ (p.touched_pairwise.filter _)
  intro t t' ht ht' hapart arg harg arg' harg'
  rw [← Bool.not_eq_true] at hapart ⊢
  intro hs
  have hrel := htidy.isAbsolute_below? (List.mem_filter.mp ht).1 harg
  have hrel' := htidy.isAbsolute_below? (List.mem_filter.mp ht').1 harg'
  have hjoin := Path.same_join hrel hrel' hs p.root
  refine hapart (Path.same_trans (Path.same_symm (Path.same_join_of_below? harg)) ?_)
  exact Path.same_trans hjoin (Path.same_join_of_below? harg')

/-- The step that stages the files. -/
def stageStep (p : Project) (args : List String) : Step :=
  p.gitStep .stage "Staging files" ("add" :: args)

section

variable [Regex.SizeLimit]

theorem mem_steps_stage_iff (h : p.prepare o d = .ok plan) {step : Step} :
    step ∈ plan.steps ∧ step.kind = .stage ↔ step = p.stageStep (p.stagePaths d) := by
  have hmem : p.stageStep (p.stagePaths d) ∈ plan.steps := by
    rw [(prepare_eq_ok h).1]
    simp [steps, recordSteps, stageStep]
  constructor
  · rintro ⟨hm, hk⟩
    exact List.inj_on_of_nodup_map (nodup_kinds h) hm hmem hk
  · rintro rfl
    exact ⟨hmem, rfl⟩

end

/-! ## The account -/

/-- The paths of a project end in names and do not lead through the vault, and the directories above
the vault are there. -/
structure Regular (p : Project) (d : Disk) : Prop where
  artifact : ∀ a ∈ p.config.artifacts, Path.EndsInName a.path ∧
    Path.Outside p.vaultDir (a.fullPath p.root)
  changelog : Path.EndsInName p.config.changelog.path ∧ Path.Outside p.vaultDir p.changelogPath
  above : ∀ up ∈ Path.above p.vaultDir, d.at? (Path.place up) ≠ none

theorem Regular.outside (h : p.Regular d) (hd : p.Declares path) :
    Path.Outside p.vaultDir path := by
  rcases hd with ⟨a, ha, rfl⟩ | rfl
  · exact (h.artifact a ha).2
  · exact h.changelog.2

theorem Regular.endsInName (h : p.Regular d) (htidy : p.Tidy) (ht : t ∈ p.touched) :
    Path.EndsInName t := by
  rcases touched_cases ht with ⟨a, ha, rfl⟩ | rfl
  · exact (h.artifact a ha).1.join (htidy.artifact a ha).1 p.root
  · exact h.changelog.1.join htidy.changelog.1 p.root

/-- In a regular project, what is declared and exists also exists in the spelling in which it is
touched. -/
theorem Regular.stands (h : p.Regular d) (htidy : p.Tidy) (htouched : plan.touched = p.touched)
    (hd : p.Declares path) (he : d.pathExists path = true) : Stands plan d path := by
  obtain ⟨t, ht, hs⟩ := hd.touched
  exact ⟨t, htouched ▸ ht, hs, pathExists_of_same he hs (h.endsInName htidy ht)⟩

theorem Stands.mono (h : Stands plan d path)
    (hcap : Vault.capture p.vaultDir plan.touched d = (.ok set, d₁)) : Stands plan d₁ path := by
  obtain ⟨t, ht, hs, he⟩ := h
  exact ⟨t, ht, hs, Vault.pathExists_capture hcap he⟩

section

variable [Regex.SizeLimit]

/-- How a plan that was made on the disk `d` accounts for the files that are rewritten after the
capture, on the disk `d₁`; `args` are what is staged. -/
structure Accounted (p : Project) (o : ReleaseOptions) (plan : ReleasePlan) (d : Disk)
    (set : BackupSet) (d₁ : Disk) (args : List String) : Prop where
  /-- One step stages files. -/
  step : ∀ step, step ∈ plan.steps ∧ step.kind = .stage ↔ step = p.stageStep args
  /-- It stages touched files that exist, by their paths below the root, -/
  existing : ∀ arg ∈ args, Path.isAbsolute arg = false ∧
    ∃ t ∈ plan.touched, Path.same (Path.join p.root arg) t = true ∧ d.pathExists t = true
  /-- and none of them twice, in whatever spelling. -/
  once : args.Pairwise fun x y => Path.same x y = false
  /-- The update changes the disk only where it writes. -/
  changed : ∀ q, (p.updateFiles o plan d₁).2.at? q ≠ d₁.at? q →
    ∃ path, p.Writes o plan d₁ path ∧ Path.place path = q
  /-- A written path is touched, in some spelling. -/
  touched : ∀ path, p.Writes o plan d₁ path → ∃ t ∈ plan.touched, Path.same path t = true
  /-- It has a slot exactly if it exists in that spelling once the vault is there, -/
  saved : ∀ path, p.Writes o plan d₁ path → (Saved d set d₁ path ↔ Stands plan d₁ path)
  /-- and it is staged exactly if it has existed in that spelling before; -/
  staged : ∀ path, p.Writes o plan d₁ path → (p.Staged args path ↔ Stands plan d path)
  /-- so is the changelog. -/
  changelog : p.Staged args p.changelogPath ↔ Stands plan d p.changelogPath
  /-- In a regular project every written path has a slot and is staged, and the changelog is. -/
  regular : p.Regular d → (∀ path, p.Writes o plan d₁ path → Saved d set d₁ path ∧
    p.Staged args path) ∧ p.Staged args p.changelogPath

theorem Regular.stands_of_writes (h : p.Regular d) (htidy : p.Tidy)
    (htouched : plan.touched = p.touched)
    (hcap : Vault.capture p.vaultDir plan.touched d = (.ok set, d₁))
    (hw : p.Writes o plan d₁ path) : Stands plan d path := by
  -- what the capture made cannot have let the path exist
  have halike := alike_of_captured hcap h.above (h.outside hw.declares)
  have he : d.pathExists path = true := by
    rcases halike.cases with ⟨-, hno⟩ | hl
    · rw [hw.pathExists] at hno
      exact absurd hno (by decide)
    · unfold pathExists
      rw [hl]
      exact hw.pathExists
  exact h.stands htidy htouched hw.declares he

/-- **The account of a release.** A release that runs on the disk of its plan, whose paths are
relative and lead to places outside of the vault, stages files that are touched and exist, each one
once. A file that it rewrites is touched; it is copied into the vault and staged as far as it exists
in the spelling in which it is touched, and so it is for sure if the paths are regular. -/
theorem rewritten_accounted (hplan : p.prepare o s.disk = .ok plan)
    (hbegins : Begins w p plan s set d₁) (htidy : p.Tidy) :
    ∃ args, Accounted p o plan s.disk set d₁ args := by
  have htouched : plan.touched = p.touched := (prepare_eq_ok hplan).2
  have hcap := hbegins.captured
  have hout : Vault.Around p.vaultDir plan.touched := htouched ▸ htidy.around
  have hsaved : ∀ path, Saved s.disk set d₁ path ↔ Stands plan d₁ path := fun _ =>
    saved_iff hout hcap
  have hstaged : ∀ path, p.Staged (p.stagePaths s.disk) path ↔ Stands plan s.disk path := fun _ =>
    staged_iff htidy htouched
  refine ⟨p.stagePaths s.disk, fun _ => mem_steps_stage_iff hplan, ?existing,
    stagePaths_pairwise htidy s.disk, ?changed, ?touched, fun path _ => hsaved path,
    fun path _ => hstaged path, hstaged p.changelogPath, fun hreg => ⟨?written, ?changelog⟩⟩
  case existing =>
    intro arg harg
    obtain ⟨t, ht, he, hbelow⟩ := mem_stagePaths_iff.mp harg
    exact ⟨htidy.isAbsolute_below? ht hbelow, t, htouched ▸ ht, Path.same_join_of_below? hbelow, he⟩
  case changed =>
    intro q hq
    by_contra hno
    exact hq ((p.updateFiles_writes o plan d₁).at?_eq hno)
  case touched =>
    intro path hw
    rw [htouched]
    exact hw.declares.touched
  case written =>
    intro path hw
    have hstands := hreg.stands_of_writes htidy htouched hcap hw
    exact ⟨(hsaved path).mpr (hstands.mono hcap), (hstaged path).mpr hstands⟩
  case changelog =>
    obtain ⟨c, hload, -, -⟩ := prepare_pending hplan
    refine (hstaged _).mpr (hreg.stands htidy htouched (Or.inr rfl) ?_)
    exact pathExists_of_loadChangelog hload

end

/-! ### A version file in two spellings -/

/-- A project whose version file is declared by a path at which nothing is found, and then by its
own. -/
def twice (path : String) : Project :=
  tiny "kept" [{ Artifact.ofSearch path "v{version}" with optional := true }, versionFile false]

/-- The plan of its release. -/
def twicePlan (path : String) : ReleasePlan := tinyPlan "kept" (twice path).config.artifacts

/-- The disk after the capture. -/
def twiceSaved (path : String) : Disk :=
  (Vault.capture (twice path).vaultDir (twicePlan path).touched tinyDisk).2

theorem begins_twice
    (h : (Vault.capture (twice path).vaultDir (twicePlan path).touched tinyDisk).1 = .ok set)
    (hcheck : (twice path).checkChangelog tinyDisk = .ok ()) :
    Begins quietWorld (twice path) (twicePlan path) (Session.start tinyDisk ()) set
      (twiceSaved path) :=
  ⟨hcheck, rfl, rfl, pair_of_fst h⟩

/-- The second artifact is written, because nothing was found for the first. -/
theorem writes_twice (report : ApplyReport)
    (hfront : (Artifacts.apply "app" ⟨1, 0, 0⟩ ⟨1, 1, 0⟩
      ((twice path).config.artifacts.take 1) (twiceSaved path)).1 = .ok report)
    (hupdate : ((versionFile false).update "app" (Artifacts.apply "app" ⟨1, 0, 0⟩ ⟨1, 1, 0⟩
      ((twice path).config.artifacts.take 1) (twiceSaved path)).2 ⟨1, 0, 0⟩
        ⟨1, 1, 0⟩).toOption.map Prod.fst = some (.updated 1)) :
    (twice path).Writes tinyOptions (twicePlan path) (twiceSaved path) "app/VERSION" := by
  have hpath : (versionFile false).fullPath "app" = "app/VERSION" := by decide
  have hsplit : (twice path).config.artifacts =
      (twice path).config.artifacts.take 1 ++ versionFile false :: [] := rfl
  obtain ⟨⟨outcome, d'⟩, hx, hout⟩ := Option.map_eq_some_iff.mp hupdate
  obtain rfl : outcome = .updated 1 := hout
  rw [← hpath]
  exact .artifact hsplit (pair_of_fst hfront) (ok_of_toOption hx)

theorem rewritten_accounted_twice :
    let p := twice "./VERSION"
    let plan := twicePlan "./VERSION"
    p.prepare tinyOptions tinyDisk = .ok plan ∧ p.Tidy ∧ p.Regular tinyDisk ∧
    ∃ set d₁ args, Begins quietWorld p plan (Session.start tinyDisk ()) set d₁ ∧
      p.Writes tinyOptions plan d₁ "app/VERSION" ∧
      Accounted p tinyOptions plan tinyDisk set d₁ args := by
  intro p plan
  have hplan : p.prepare tinyOptions tinyDisk = .ok plan := ok_of_toOption (by decide +kernel)
  have htidy : p.Tidy := ⟨by decide +kernel, by decide +kernel⟩
  have hregular : p.Regular tinyDisk :=
    ⟨by decide +kernel, by decide +kernel, by decide +kernel⟩
  have hset : (Vault.capture p.vaultDir plan.touched tinyDisk).1.toOption =
    some ⟨"app/kept", [⟨"app/./VERSION", some "app/kept/00-VERSION"⟩,
      ⟨"app/CHANGELOG.md", some "app/kept/01-CHANGELOG.md"⟩]⟩ := by decide +kernel
  have hbegins := begins_twice (ok_of_toOption hset) (ok_of_toOption (by decide +kernel))
  have hwrites : p.Writes tinyOptions plan (twiceSaved "./VERSION") "app/VERSION" :=
    writes_twice ⟨[⟨"./VERSION", true, .failed .notMatched⟩]⟩
      (ok_of_toOption (by decide +kernel)) (by decide +kernel)
  obtain ⟨args, haccount⟩ :=
    rewritten_accounted (s := Session.start tinyDisk ()) hplan hbegins htidy
  exact ⟨hplan, htidy, hregular, _, _, args, hbegins, hwrites, haccount⟩

/-- **A file that is rewritten, but neither copied nor staged**: it is touched in a spelling that
ends in a slash, in which it does not exist. -/
theorem rewritten_unaccounted :
    let p := twice "VERSION/"
    let plan := twicePlan "VERSION/"
    p.prepare tinyOptions tinyDisk = .ok plan ∧ p.Tidy ∧
    ∃ set d₁, Begins quietWorld p plan (Session.start tinyDisk ()) set d₁ ∧
      p.Writes tinyOptions plan d₁ "app/VERSION" ∧ ¬ Saved tinyDisk set d₁ "app/VERSION" ∧
      (∀ step ∈ plan.steps, step.kind = .stage →
        step.command = ⟨"git", ["add", "CHANGELOG.md"]⟩) := by
  intro p plan
  have hset : (Vault.capture p.vaultDir plan.touched tinyDisk).1.toOption =
    some ⟨"app/kept", [⟨"app/VERSION/", none⟩,
      ⟨"app/CHANGELOG.md", some "app/kept/01-CHANGELOG.md"⟩]⟩ := by decide +kernel
  have hbegins := begins_twice (ok_of_toOption hset) (ok_of_toOption (by decide +kernel))
  have hwrites : p.Writes tinyOptions plan (twiceSaved "VERSION/") "app/VERSION" :=
    writes_twice ⟨[⟨"VERSION/", true, .failed .notFound⟩]⟩
      (ok_of_toOption (by decide +kernel)) (by decide +kernel)
  refine ⟨ok_of_toOption (by decide +kernel), ⟨by decide +kernel, by decide +kernel⟩, _, _,
    hbegins, hwrites, ?_, by decide +kernel⟩
  -- only the changelog has a slot
  rintro ⟨t, slot, c, he, hs, -, -⟩
  rcases List.mem_cons.mp he with he | he
  · exact absurd (congrArg CapturedPath.slot he) (by simp)
  · have ht : t = "app/CHANGELOG.md" := congrArg CapturedPath.path (List.mem_singleton.mp he)
    rw [ht] at hs
    exact absurd hs (by decide)

end Project

end Slipway
