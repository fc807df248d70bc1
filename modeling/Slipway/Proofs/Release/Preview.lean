import Slipway.Proofs.Basic
import Slipway.Proofs.Release.Plan
import Slipway.Proofs.Vault.Capture

/-!
# What a preview foretells

About `ArtifactMutator::preview` (`keel_core::files`). A preview examines every artifact, and the
changelog, on the disk as it is. An update works on what the artifacts before have left. So a
preview is right about an artifact unless one before it has changed the same file, and about the
changelog unless an artifact has changed that (`preview_foretells`). It depends only on what the
paths of the release lead to (`preview_congr`), which a vault that is made meanwhile leaves alone
(`seesAlike_of_captured`).
-/

namespace Slipway

/-! ## Paths -/

namespace Disk

variable {d d' : Disk} {path path' : String}

/-- Two paths lead to the same place. -/
def SameFile (d : Disk) (path path' : String) : Prop :=
  ∃ q, d.resolve path = .ok q ∧ d.resolve path' = .ok q

theorem sameFile_iff : d.SameFile path path' ↔
    d.Leads path ∧ d.Leads path' ∧ Path.place path = Path.place path' := by
  unfold SameFile
  constructor
  · rintro ⟨q, h, h'⟩
    obtain ⟨hl, hq⟩ := resolve_eq_ok_iff.mp h
    obtain ⟨hl', hq'⟩ := resolve_eq_ok_iff.mp h'
    exact ⟨hl, hl', hq.symm.trans hq'⟩
  · rintro ⟨hl, hl', hq⟩
    exact ⟨_, hl.resolve, hq ▸ hl'.resolve⟩

/-- A path leads to the same on two disks. -/
def Alike (d d' : Disk) (path : String) : Prop :=
  ∀ e, d.lookup path = .ok e ↔ d'.lookup path = .ok e

theorem Alike.cases (h : Alike d d' path) :
    (d.pathExists path = false ∧ d'.pathExists path = false) ∨ d.lookup path = d'.lookup path := by
  unfold pathExists
  cases hl : d.lookup path with
  | ok e => exact Or.inr ((h e).mp hl).symm
  | error e =>
    cases hl' : d'.lookup path with
    | ok e' =>
      rw [(h e').mpr hl'] at hl
      exact absurd hl (by simp)
    | error e' => exact Or.inl ⟨rfl, rfl⟩

end Disk

open Disk

variable {p : Project} {o : ReleaseOptions} {plan : ReleasePlan} {d d₁ d' : Disk}
variable {shown : ReleasePreview} {report : ApplyReport} {a : Artifact} {root : String}
variable {old new : Version}

/-! ## What is shown -/

section

variable [Regex.SizeLimit]

theorem Artifact.examine_congr (h : Alike d d₁ (a.fullPath root)) :
    a.examine root d old new = a.examine root d₁ old new := by
  rcases h.cases with ⟨he, he'⟩ | hl
  · rw [examine_of_missing he, examine_of_missing he']
  · unfold examine pathExists readText Disk.read
    rw [hl]

theorem Artifact.exists_of_preview {view : ArtifactPreview}
    (h : a.preview root d old new = .ok view) :
    ∃ f, a.examine root d old new = .ok f ∧
      (∀ problem, view.changes = .error problem ↔ f = .problem problem) ∧
      ∀ diff, view.changes = .ok diff →
        ∃ before after, f = .found before after ∧ diff = Diff.lineDiff before after.text := by
  unfold preview at h
  cases hf : a.examine root d old new with
  | error e =>
    rw [hf] at h
    exact absurd h (by simp [Except.map])
  | ok f =>
    rw [hf] at h
    rw [← Except.ok.inj h]
    refine ⟨f, rfl, ?_⟩
    cases f with
    | problem p => simp
    | found before after =>
      refine ⟨by simp, fun diff hd => ⟨before, after, rfl, ?_⟩⟩
      exact (Except.ok.inj hd).symm

end

namespace Project

/-- The paths of a release lead to the same on two disks. -/
structure SeesAlike (p : Project) (d d₁ : Disk) : Prop where
  artifacts : ∀ a ∈ p.config.artifacts, Alike d d₁ (a.fullPath p.root)
  changelog : Alike d d₁ p.changelogPath

/-- A capture leaves what a path leads to alone, if the path lies outside of the vault and all the
directories above that are there. -/
theorem alike_of_captured {dir path : String} {paths : List String} {set : BackupSet}
    (h : Vault.capture dir paths d = (.ok set, d₁))
    (hup : ∀ up ∈ Path.above dir, d.at? (Path.place up) ≠ none)
    (hout : Path.Outside dir path) : Alike d d₁ path := by
  have heq : ∀ q, ¬ Path.place dir <+: q → d₁.at? q = d.at? q := by
    intro q hq
    rcases Vault.spared_of_capture h q hq with he | ⟨hm, hn, -⟩
    · exact he
    · obtain ⟨up, hmem, rfl⟩ := List.mem_map.mp hm
      exact absurd hn (hup up hmem)
  intro e
  rw [lookup_eq_ok_iff, lookup_eq_ok_iff, heq _ hout.place]
  refine and_congr_left fun _ => ⟨fun hl => ?_, fun hl => ?_⟩
  · exact hl.mono fun q hq hd => by rwa [heq q (hout.way hq)]
  · exact hl.mono fun q hq hd => by rwa [← heq q (hout.way hq)]

/-- **The capture of a release** leaves what its paths lead to alone, if they lie outside of the
vault, and all the directories above that are there. -/
theorem seesAlike_of_captured {set : BackupSet}
    (h : Vault.capture p.vaultDir plan.touched d = (.ok set, d₁))
    (hup : ∀ up ∈ Path.above p.vaultDir, d.at? (Path.place up) ≠ none)
    (hartifacts : ∀ a ∈ p.config.artifacts, Path.Outside p.vaultDir (a.fullPath p.root))
    (hchangelog : Path.Outside p.vaultDir p.changelogPath) : SeesAlike p d d₁ :=
  ⟨fun a ha => alike_of_captured h hup (hartifacts a ha), alike_of_captured h hup hchangelog⟩

section

variable [Regex.SizeLimit]

/-- **A preview depends only** on what the paths of the release lead to. -/
theorem preview_congr (h : SeesAlike p d d₁) : p.preview o plan d = p.preview o plan d₁ := by
  have hartifacts : Artifacts.preview p.root d plan.current plan.next p.config.artifacts =
      Artifacts.preview p.root d₁ plan.current plan.next p.config.artifacts := by
    unfold Artifacts.preview
    refine mapM_congr fun a ha => ?_
    unfold Artifact.preview
    rw [Artifact.examine_congr (h.artifacts a ha)]
  have hchangelog : p.loadChangelog d = p.loadChangelog d₁ := by
    unfold loadChangelog Changelog.load
    rcases h.changelog.cases with ⟨he, he'⟩ | hl
    · rw [he, he']
      rfl
    · unfold pathExists readText Disk.read
      rw [hl]
  unfold preview
  rw [hartifacts, hchangelog]

theorem preview_eq_ok (h : p.preview o plan d = .ok shown) :
    Artifacts.preview p.root d plan.current plan.next p.config.artifacts = .ok shown.artifacts ∧
      ∃ text promoted, d.lookup p.changelogPath = .ok (.file (.text text)) ∧
        (Changelog.mk text p.config.version.tagPrefix).promote plan.next o.date = .ok promoted ∧
        shown.changelog = Diff.lineDiff text promoted := by
  unfold preview at h
  simp only [bind, Except.bind] at h
  split at h
  · exact absurd h (by simp)
  · rename_i views hviews
    split at h
    · exact absurd h (by simp)
    · rename_i changelog hload
      obtain ⟨text, hl, rfl⟩ := loadChangelog_eq_ok_iff.mp hload
      unfold Changelog.previewPromotion at h
      cases ht : (Changelog.mk text p.config.version.tagPrefix).promote plan.next o.date with
      | error e =>
        rw [ht] at h
        exact absurd h (by simp [Except.map])
      | ok promoted =>
        rw [ht] at h
        rw [← Except.ok.inj h]
        exact ⟨hviews, text, promoted, hl, ht, rfl⟩

/-! ## What an update does -/

theorem exists_promoteChangelog {text promoted : String} {next : Version}
    (hl : d.lookup p.changelogPath = .ok (.file (.text text)))
    (ht : (Changelog.mk text p.config.version.tagPrefix).promote next o.date = .ok promoted) :
    ∃ d', p.promoteChangelog o next d = .ok d' ∧
      d'.lookup p.changelogPath = .ok (.file (.text promoted)) := by
  obtain ⟨d', hw, -, hl'⟩ := exists_write hl promoted
  have hload := loadChangelog_eq_ok_iff.mpr ⟨text, hl, rfl⟩
  exact ⟨d', promoteChangelog_eq_ok_iff.mpr ⟨_, promoted, hload, ht, hw⟩, hl'⟩

/-- After the artifacts, an update writes the changelog at most. -/
theorem updateFiles_only
    (h : Artifacts.apply p.root plan.current plan.next p.config.artifacts d = (.ok report, d')) :
    Wrote (· = Path.place p.changelogPath) d' (p.updateFiles o plan d).2 := by
  unfold updateFiles
  rw [h]
  simp only
  split
  · exact Wrote.refl _ d'
  · split
    · exact Wrote.refl _ d'
    · rename_i hpromote
      obtain ⟨_, _, -, -, hw⟩ := promoteChangelog_eq_ok_iff.mp hpromote
      exact (wrote_of_write hw).1

theorem updateFiles_eq (hreport : report.issues = []) {d'' : Disk}
    (h : Artifacts.apply p.root plan.current plan.next p.config.artifacts d = (.ok report, d'))
    (hpromote : p.promoteChangelog o plan.next d' = .ok d'') :
    p.updateFiles o plan d = (.ok report, d'') := by
  unfold updateFiles
  rw [h]
  simp only [hreport, ne_eq, not_true_eq_false, if_false, hpromote]

/-! ## The preview is right -/

/-- One of the first artifacts was written back, and its file is the one of a path. -/
def Changed (p : Project) (d : Disk) (report : ApplyReport) (i : Nat) (path : String) : Prop :=
  ∃ j b result, j < i ∧ p.config.artifacts[j]? = some b ∧ report.results[j]? = some result ∧
    result.isUpdated = true ∧ d.SameFile (b.fullPath p.root) path

/-- What a preview says about an update that starts on a disk. -/
structure Foretold (p : Project) (o : ReleaseOptions) (plan : ReleasePlan) (shown : ReleasePreview)
    (d : Disk) (report : ApplyReport) : Prop where
  /-- Every artifact is shown. -/
  shown_length : shown.artifacts.length = p.config.artifacts.length
  /-- Every artifact is reported. -/
  results_length : report.results.length = p.config.artifacts.length
  /-- A file is missing exactly if the preview says so. -/
  missing : ∀ (i : Nat) view result, shown.artifacts[i]? = some view →
    report.results[i]? = some result →
    (view.changes = .error .notFound ↔ result.outcome = .failed .notFound)
  /-- An artifact fails exactly with the problem that the preview shows, unless one before it has
  changed the same file. -/
  problems : ∀ (i : Nat) a view result, p.config.artifacts[i]? = some a →
    shown.artifacts[i]? = some view → report.results[i]? = some result →
    ¬ p.Changed d report i (a.fullPath p.root) →
    ∀ problem, view.changes = .error problem ↔ result.outcome = .failed problem
  /-- A file of one artifact, which is not the changelog, changes as the preview shows. -/
  files : ∀ (i : Nat) a view diff, p.config.artifacts[i]? = some a →
    shown.artifacts[i]? = some view → view.changes = .ok diff →
    (∀ (j : Nat) b, p.config.artifacts[j]? = some b →
      d.SameFile (b.fullPath p.root) (a.fullPath p.root) → j = i) →
    ¬ d.SameFile p.changelogPath (a.fullPath p.root) →
    ∃ before after, d.readText (a.fullPath p.root) = .ok before ∧
      (p.updateFiles o plan d).2.readText (a.fullPath p.root) = .ok after ∧
      diff = Diff.lineDiff before after
  /-- So does the changelog, if no required artifact fails and no artifact has changed it. -/
  changelog : report.issues = [] →
    ¬ p.Changed d report p.config.artifacts.length p.changelogPath →
    (p.updateFiles o plan d).1 = .ok report ∧
      ∃ before after, d.readText p.changelogPath = .ok before ∧
        (p.updateFiles o plan d).2.readText p.changelogPath = .ok after ∧
        shown.changelog = Diff.lineDiff before after

/-- The rows of an update, artifact by artifact. -/
structure Reported (p : Project) (plan : ReleasePlan) (d : Disk) (rows : List UpdateRow)
    (d' : Disk) : Prop where
  updates : Updates p.root plan.current plan.next d rows d'
  artifacts : rows.map UpdateRow.artifact = p.config.artifacts
  applied : Artifacts.apply p.root plan.current plan.next p.config.artifacts d =
    (.ok ⟨rows.map UpdateRow.result⟩, d')

namespace Reported

variable {rows : List UpdateRow} {row : UpdateRow} {i : Nat} {path : String}

theorem artifact_eq (h : Reported p plan d rows d') (i : Nat) :
    p.config.artifacts[i]? = rows[i]?.map UpdateRow.artifact := by
  rw [← h.artifacts, List.getElem?_map]

/-- A written file of one of the first rows is a changed one. -/
theorem changed (h : Reported p plan d rows d') {first : List UpdateRow}
    (hfirst : ∀ r ∈ first, ∃ j, j < i ∧ rows[j]? = some r)
    (hw : Updates.Written p.root first (Path.place path)) (hl : d.Leads path) :
    p.Changed d ⟨rows.map UpdateRow.result⟩ i path := by
  obtain ⟨r, hr, hu, hplace⟩ := hw
  obtain ⟨j, hj, hrow⟩ := hfirst r hr
  refine ⟨j, r.artifact, r.result, hj, ?_, ?_, hu, ?_⟩
  · rw [h.artifact_eq, hrow]
    rfl
  · simp [hrow]
  · exact sameFile_iff.mpr ⟨h.updates.leads (List.mem_of_getElem? hrow) hu, hl, hplace⟩

/-- An artifact is examined on a disk on which only artifacts before it were written. -/
theorem examined (h : Reported p plan d rows d') (hrow : rows[i]? = some row) :
    ∃ d₁ d₂ front, Updates p.root plan.current plan.next d front d₁ ∧
      (∀ r ∈ front, ∃ j, j < i ∧ rows[j]? = some r) ∧
      row.Holds p.root plan.current plan.next d₁ d₂ := by
  obtain ⟨front, back, hrows, hbefore, -⟩ := exists_split hrow
  obtain ⟨d₁, d₂, hfront, hholds, -⟩ := (hrows ▸ h.updates).split
  exact ⟨d₁, d₂, front, hfront, hbefore, hholds⟩

/-- Where no artifact before has changed the file, an update finds what a preview has found. -/
theorem finding_eq {f : Finding} (h : Reported p plan d rows d') (hrow : rows[i]? = some row)
    (hf : row.artifact.examine p.root d plan.current plan.next = .ok f)
    (hc : ¬ p.Changed d ⟨rows.map UpdateRow.result⟩ i (row.artifact.fullPath p.root)) :
    row.finding = f := by
  obtain ⟨d₁, d₂, front, hfront, hbefore, hholds⟩ := h.examined hrow
  refine Except.ok.inj (hholds.examined.symm.trans ?_)
  by_cases hl : d.Leads (row.artifact.fullPath p.root)
  · exact Artifact.examine_eq hfront.rewrote (fun hw => hc (h.changed hbefore hw hl)) hf
  · -- a path that leads nowhere cannot be told to be the file of another one; it stays missing
    have he : d.pathExists (row.artifact.fullPath p.root) = false :=
      Bool.eq_false_iff.mpr fun he => hl (pathExists_iff.mp he).1
    rw [Artifact.examine_of_missing (hfront.rewrote.pathExists_eq.trans he), ← hf,
      Artifact.examine_of_missing he]

/-- A file that a preview has found and no other artifact declares gets the text that was
foreseen. -/
theorem text_eq {before : String} {after : Substitution} (h : Reported p plan d rows d')
    (hrow : rows[i]? = some row)
    (hf : row.artifact.examine p.root d plan.current plan.next = .ok (.found before after))
    (honly : ∀ (j : Nat) b, p.config.artifacts[j]? = some b →
      d.SameFile (b.fullPath p.root) (row.artifact.fullPath p.root) → j = i) :
    d'.lookup (row.artifact.fullPath p.root) = .ok (.file (.text after.text)) := by
  have hl := (lookup_eq_ok_iff.mp (Artifact.lookup_of_found hf)).1
  have hunchanged : ¬ p.Changed d ⟨rows.map UpdateRow.result⟩ i (row.artifact.fullPath p.root) := by
    rintro ⟨j, b, result, hj, hb, -, -, hsame⟩
    have := honly j b hb hsame
    omega
  have hfinding := h.finding_eq hrow hf hunchanged
  -- the artifacts after it write other files
  obtain ⟨front, back, hrows, -, hafter⟩ := exists_split hrow
  obtain ⟨d₁, d₂, -, hholds, hback⟩ := (hrows ▸ h.updates).split
  refine (hback.rewrote.wrote.lookup_eq_ok_iff ?_).mpr (hholds.text before after hfinding).2
  rintro ⟨r, hr, hu, hplace⟩
  obtain ⟨j, hj, hrow'⟩ := hafter r hr
  have hlr := h.updates.leads (List.mem_of_getElem? hrow') hu
  have := honly j r.artifact (by rw [h.artifact_eq, hrow']; rfl)
    (sameFile_iff.mpr ⟨hlr, hl, hplace⟩)
  omega

theorem exists_row {result : ArtifactResult} (h : Reported p plan d rows d')
    (hres : (rows.map UpdateRow.result)[i]? = some result) :
    ∃ row, rows[i]? = some row ∧ row.result = result ∧
      p.config.artifacts[i]? = some row.artifact := by
  rw [List.getElem?_map, Option.map_eq_some_iff] at hres
  obtain ⟨row, hi, hres⟩ := hres
  exact ⟨row, hi, hres, by rw [h.artifact_eq, hi]; rfl⟩

theorem length_eq (h : Reported p plan d rows d') : rows.length = p.config.artifacts.length := by
  rw [← h.artifacts, List.length_map]

/-- A changelog that no artifact has changed is promoted as it was. -/
theorem changelog_eq (h : Reported p plan d rows d') {text : String}
    (hl : d.lookup p.changelogPath = .ok (.file (.text text)))
    (hc : ¬ p.Changed d ⟨rows.map UpdateRow.result⟩ p.config.artifacts.length p.changelogPath) :
    d'.lookup p.changelogPath = .ok (.file (.text text)) := by
  refine (h.updates.rewrote.wrote.lookup_eq_ok_iff fun hw => hc ?_).mpr hl
  refine h.changed (fun r hm => ?_) hw (lookup_eq_ok_iff.mp hl).1
  obtain ⟨j, hj⟩ := List.getElem?_of_mem hm
  exact ⟨j, h.length_eq ▸ (List.getElem?_eq_some_iff.mp hj).1, hj⟩

end Reported

theorem exists_reported (h : p.preview o plan d = .ok shown) :
    ∃ rows d', Reported p plan d rows d' := by
  obtain ⟨hlen, hview⟩ := mapM_eq_ok (preview_eq_ok h).1
  have hex : ∀ a ∈ p.config.artifacts,
      ∃ f, a.examine p.root d plan.current plan.next = .ok f := by
    intro a ha
    obtain ⟨i, hi⟩ := List.getElem?_of_mem ha
    have hlt : i < shown.artifacts.length := hlen ▸ (List.getElem?_eq_some_iff.mp hi).1
    obtain ⟨f, hf, -⟩ :=
      Artifact.exists_of_preview (hview i a _ hi (List.getElem?_eq_getElem hlt))
    exact ⟨f, hf⟩
  obtain ⟨rows, d', hrows, hmap, happly⟩ :=
    Artifacts.exists_updates (Rewrote.refl (fun _ => False) d) hex
  exact ⟨rows, d', hrows, hmap, happly⟩

theorem Reported.foretold {rows : List UpdateRow} (h : p.preview o plan d = .ok shown)
    (hr : Reported p plan d rows d') :
    Foretold p o plan shown d ⟨rows.map UpdateRow.result⟩ := by
  obtain ⟨hviews, text, promoted, hcl, hpromoted, hchanges⟩ := preview_eq_ok h
  obtain ⟨hlen, hview⟩ := mapM_eq_ok hviews
  refine ⟨hlen, by rw [List.length_map, hr.length_eq], ?missing, ?problems, ?files, ?changelog⟩
  case missing =>
    intro i view result hi hres
    obtain ⟨row, hri, rfl, ha⟩ := hr.exists_row hres
    obtain ⟨f, hf, hproblem, -⟩ := Artifact.exists_of_preview (hview i _ view ha hi)
    obtain ⟨d₁, d₂, front, hfront, -, hholds⟩ := hr.examined hri
    obtain ⟨f', hf', hmissing⟩ := Artifact.exists_examine hfront.rewrote hf
    rw [hproblem, ← hmissing, ← Except.ok.inj (hholds.examined.symm.trans hf')]
    exact (hholds.failed_iff _).symm
  case problems =>
    intro i a view result ha hi hres hchanged problem
    obtain ⟨row, hri, rfl, ha'⟩ := hr.exists_row hres
    obtain rfl := Option.some.inj (ha.symm.trans ha')
    obtain ⟨f, hf, hproblem, -⟩ := Artifact.exists_of_preview (hview i _ view ha hi)
    obtain ⟨d₁, d₂, front, -, -, hholds⟩ := hr.examined hri
    rw [hproblem, ← hr.finding_eq hri hf hchanged]
    exact (hholds.failed_iff _).symm
  case files =>
    intro i a view diff ha hi hdiff hone hother
    obtain ⟨f, hf, -, hfound⟩ := Artifact.exists_of_preview (hview i a view ha hi)
    obtain ⟨before, after, rfl, rfl⟩ := hfound diff hdiff
    rw [hr.artifact_eq, Option.map_eq_some_iff] at ha
    obtain ⟨row, hri, rfl⟩ := ha
    have hbefore := Artifact.lookup_of_found hf
    have hplace : ¬ Path.place (row.artifact.fullPath p.root) = Path.place p.changelogPath :=
      fun he => hother (sameFile_iff.mpr
        ⟨(lookup_eq_ok_iff.mp hcl).1, (lookup_eq_ok_iff.mp hbefore).1, he.symm⟩)
    have honly := updateFiles_only (o := o) hr.applied
    have hafter := (honly.lookup_eq_ok_iff hplace).mpr (hr.text_eq hri hf hone)
    exact ⟨before, after.text, readText_eq_ok_iff.mpr hbefore, readText_eq_ok_iff.mpr hafter, rfl⟩
  case changelog =>
    intro hissues hchanged
    obtain ⟨d'', hpromote, hafter⟩ :=
      exists_promoteChangelog (hr.changelog_eq hcl hchanged) hpromoted
    rw [updateFiles_eq hissues hr.applied hpromote]
    exact ⟨rfl, text, promoted, readText_eq_ok_iff.mpr hcl, readText_eq_ok_iff.mpr hafter, hchanges⟩

/-- **A preview tells the truth** about an update that starts where the paths of the release lead
to the same, as they do on the same disk (`SeesAlike.refl`) and after a capture
(`seesAlike_of_captured`): the update of the artifacts comes to its end, and it does what was shown,
as far as no artifact has changed a file that was examined for something else. -/
theorem preview_foretells (h : p.preview o plan d = .ok shown) (hsame : SeesAlike p d d₁) :
    ∃ report d',
      Artifacts.apply p.root plan.current plan.next p.config.artifacts d₁ = (.ok report, d') ∧
        Foretold p o plan shown d₁ report := by
  rw [preview_congr hsame] at h
  obtain ⟨rows, d', hr⟩ := exists_reported h
  exact ⟨_, d', hr.applied, hr.foretold h⟩

end

/-- The version file as an artifact. -/
def versionFile (optional : Bool) : Artifact :=
  { Artifact.ofSearch "VERSION" "{version}" with optional := optional }

theorem preview_foretells_tiny :
    let p := tiny "kept" [versionFile false]
    let plan := tinyPlan "kept" [versionFile false]
    ∃ shown set d₁ report d', p.preview tinyOptions plan tinyDisk = .ok shown ∧
      Vault.capture p.vaultDir plan.touched tinyDisk = (.ok set, d₁) ∧ SeesAlike p tinyDisk d₁ ∧
      Artifacts.apply p.root plan.current plan.next p.config.artifacts d₁ = (.ok report, d') ∧
      Foretold p tinyOptions plan shown d₁ report := by
  intro p plan
  have hshown : (p.preview tinyOptions plan tinyDisk).toOption.isSome = true := by decide +kernel
  have hset : (Vault.capture p.vaultDir plan.touched tinyDisk).1.toOption.isSome = true := by
    decide +kernel
  obtain ⟨shown, hshown⟩ := Option.isSome_iff_exists.mp hshown
  obtain ⟨set, hset⟩ := Option.isSome_iff_exists.mp hset
  have hcap := pair_of_fst (ok_of_toOption hset)
  have hsame : SeesAlike p tinyDisk (Vault.capture p.vaultDir plan.touched tinyDisk).2 :=
    seesAlike_of_captured hcap (by decide +kernel) (by decide +kernel) (by decide +kernel)
  obtain ⟨report, d', happly, hforetold⟩ := preview_foretells (ok_of_toOption hshown) hsame
  exact ⟨shown, set, _, report, d', ok_of_toOption hshown, hcap, hsame, happly, hforetold⟩

/-- A second artifact of the version file is shown with its changes, and is not matched by the
update. -/
theorem preview_misses_failure :
    let p := tiny "kept" [versionFile false, versionFile true]
    let plan := tinyPlan "kept" [versionFile false, versionFile true]
    p.prepare tinyOptions tinyDisk = .ok plan ∧
      ((p.preview tinyOptions plan tinyDisk).toOption.map fun shown =>
        shown.artifacts.map fun view => view.changes.toOption.isSome) = some [true, true] ∧
      ((Artifacts.apply p.root plan.current plan.next p.config.artifacts tinyDisk).1.toOption.map
        fun report => report.results.map ArtifactResult.outcome) =
          some [.updated 1, .failed .notMatched] :=
  ⟨ok_of_toOption (by decide +kernel), by decide +kernel, by decide +kernel⟩

end Project

end Slipway
