import Slipway.Proofs.Changelog.Promote
import Slipway.Proofs.Cli.Notes
import Slipway.Proofs.Release.Confined
import Slipway.Proofs.Release.Record

/-!
# The notes of a release

About `ReleaseOrchestrator::publish` (`keel_core::release`) and `ReleaseHost::compose_notes`
(`keel_core::host`). The pending entry is checked before anything is touched. It is promoted to the
entry of a version and, after all other steps, read again and composed to the notes that are
published. It is the same text all the way, if neither the programs nor the vault touch the
changelog.

* `PendingEntry`: the entry that a release begins with, and what the check of the changelog
  compares.
* `ComesToPublish`: a release comes to the step that publishes it, and to its end with it
  (`ComesToPublish.execute_eq`).
* `publish_of_published`: what a publication leaves that has launched its command.
* `execute_publishes`: the notes are composed of the pending entry, are shown again on the command
  line, and are gone in the end (`PublishesEntry`).
-/

namespace Slipway

open Disk Session

variable {σ : Type} {w : World σ} {path : String}

/-- The programs of a world leave alone what a path leads to. -/
def World.LeavesAlone (w : World σ) (path : String) : Prop :=
  ∀ c d m, Alike d (w.launch c d m).disk path

theorem Session.Reaches.alike {s s' : Session σ} (hw : w.LeavesAlone path) (h : Reaches w s s') :
    Alike s.disk s'.disk path :=
  h.disk (P := fun d => Alike s.disk d path) (fun c d m hd => hd.trans (hw c d m)) fun _ => Iff.rfl

namespace Project

variable {p : Project} {o : ReleaseOptions} {plan : ReleasePlan} {set : BackupSet}
variable {step : Step} {front back : List Step} {progress progress₁ : Progress}
variable {s s₁ s' : Session σ} {d d₀ d₁ d' dn : Disk} {e : List Char} {report : ApplyReport}
variable {c : Changelog} {sec : Changelog.Section}

/-! ## The pending entry -/

/-- The entry that is pending in the changelog on a disk. -/
def PendingEntry (p : Project) (d : Disk) (e : List Char) : Prop :=
  ∃ c s, p.loadChangelog d = .ok c ∧ c.pending? = some s ∧ Changelog.elide s.bodyText = e

/-- The text of an entry, unless it is empty. -/
def entryText? (e : List Char) : Option String := if e = [] then none else some (String.ofList e)

theorem pendingLength?_of_pending (h : c.pending? = some sec) :
    c.pendingLength? = some (Changelog.elide sec.bodyText).length := by
  unfold Changelog.pendingLength?
  rw [h]
  rfl

/-- The check of the changelog compares the length of the pending entry. -/
theorem PendingEntry.checkChangelog_eq (h : p.PendingEntry d e) : p.checkChangelog d =
    if p.config.changelog.minPendingChars ≤ e.length then .ok ()
    else .error (.pendingTooShort e.length p.config.changelog.minPendingChars) := by
  obtain ⟨c, sec, hload, hpending, rfl⟩ := h
  have hlen := pendingLength?_of_pending hpending
  unfold checkChangelog
  rw [hload]
  show c.checkReady _ = _
  unfold Changelog.checkReady Changelog.isReady
  rw [hlen]
  simp

/-- A changelog that passes the check has a pending entry. -/
theorem exists_pendingEntry (h : p.checkChangelog d = .ok ()) : ∃ e, p.PendingEntry d e := by
  unfold checkChangelog at h
  cases hload : p.loadChangelog d with
  | error err =>
    rw [hload] at h
    exact absurd h (by simp [bind, Except.bind])
  | ok c =>
    cases hpending : c.pending? with
    | some sec => exact ⟨_, c, sec, hload, hpending, rfl⟩
    | none =>
      have hlen : c.pendingLength? = none := by
        unfold Changelog.pendingLength?
        rw [hpending]
        rfl
      rw [hload] at h
      exact absurd h (by simp [bind, Except.bind, Changelog.checkReady, Changelog.isReady, hlen])

theorem PendingEntry.long (h : p.PendingEntry d e) (hcheck : p.checkChangelog d = .ok ()) :
    p.config.changelog.minPendingChars ≤ e.length := by
  rw [h.checkChangelog_eq] at hcheck
  split at hcheck
  · assumption
  · exact absurd hcheck (by simp)

/-! ## The entry of the version -/

/-- The entry of the released version depends only on what the path of the changelog leads to. -/
theorem releasedEntry?_congr (plan : ReleasePlan) (h : Alike d d' p.changelogPath) :
    p.releasedEntry? plan d' = p.releasedEntry? plan d := by
  unfold releasedEntry? loadChangelog Changelog.load
  rcases h.cases with ⟨he, he'⟩ | hl
  · rw [he, he']
    rfl
  · unfold readText Disk.read
    rw [h.pathExists_eq, hl]

theorem exists_of_releasedEntry? {t : String} (h : p.releasedEntry? plan d = some t) :
    ∃ c, p.loadChangelog d = .ok c ∧ c.entry? plan.next = some t := by
  unfold Project.releasedEntry? at h
  split at h
  · rename_i c hload
    exact ⟨c, hload, h⟩
  · exact absurd h (by simp)

/-! ## What a publication leaves -/

/-- **A publication that has launched its command** has written the notes before, and removes them
afterwards. -/
theorem publish_of_published (h : Published p plan dn s (p.publish w plan set s).2.2) :
    (p.host.status w s).2.disk.write p.host.notesPath
        (.text (p.releaseNotes plan (p.host.status w s).2.disk)) = .ok dn ∧
      (p.publish w plan set s).2.2 = p.withoutNotes
        ((p.withNotes w s dn).launch w (p.host.createCommand dn plan.tag plan.next)).2 := by
  obtain ⟨new, result, stop, hnew, hm⟩ := h
  obtain ⟨es, hrec, hprobes⟩ := status_records p w s
  -- before its command, a publication only asks for the host
  have hother : .launched (p.host.createCommand dn plan.tag plan.next) dn result stop ∉ es := by
    intro hes
    obtain ⟨c, d, result', stop', he, hc⟩ := hprobes _ hes
    exact ne_createCommand hc dn (Event.launched.inj he).1.symm
  have hpub := publish_publication w p plan set s
  generalize p.publish w plan set s = run at hpub hnew ⊢
  obtain ⟨result', warnings, s'⟩ := run
  cases hpub with
  | withheld reason =>
    have hes : es = new := List.append_cancel_left (hrec.events.symm.trans hnew)
    rw [← hes] at hm
    exact absurd hm hother
  | launched d _ _ hwrite _ =>
    have hlaunch := records_launch w (p.host.createCommand d plan.tag plan.next) (p.withNotes w s d)
    have hes := List.append_cancel_left
      (((hrec.withDisk d).trans hlaunch).events.symm.trans hnew)
    rw [← hes] at hm
    have he := List.mem_singleton.mp ((List.mem_append.mp hm).resolve_left hother)
    obtain rfl : dn = d := (Event.launched.inj he).2.1
    exact ⟨hwrite, rfl⟩

/-- A publication launches its command if its host is ready and the notes can be written. -/
theorem published_of_ready (set : BackupSet) (hready : (p.host.status w s).1 = .ready)
    (hwrite : (p.host.status w s).2.disk.write p.host.notesPath
      (.text (p.releaseNotes plan (p.host.status w s).2.disk)) = .ok dn) :
    Published p plan dn s (p.publish w plan set s).2.2 := by
  obtain ⟨es, hrec, -⟩ := status_records p w s
  obtain ⟨s₀, hstatus⟩ : ∃ s₀, p.host.status w s = (.ready, s₀) := ⟨_, Prod.ext hready rfl⟩
  rw [hstatus] at hwrite hrec
  have hruns := (p.host.publishStep dn plan.tag plan.next).run_runs w set
    { s₀ with disk := dn }
  have hlaunch := records_launch w (p.host.createCommand dn plan.tag plan.next)
    { s₀ with disk := dn }
  unfold publish
  simp only [hstatus, hwrite]
  generalize (p.host.publishStep dn plan.tag plan.next).run w (some set) { s₀ with disk := dn } =
    run at hruns ⊢
  obtain ⟨outcome, s₂⟩ := run
  cases hruns with
  | ends result _ _ =>
    exact ⟨_, _, _, ((hrec.withDisk dn).trans hlaunch).events,
      List.mem_append_right es (List.mem_singleton_self _)⟩
  | fails _ _ _ hr _ => exact absurd hr (by simp [ReleaseHost.publishStep])

/-- A publication leaves alone what the programs leave alone, but for the notes. -/
theorem alike_publish (set : BackupSet) (plan : ReleasePlan) (hw : w.LeavesAlone path)
    (hne : Path.place path ≠ Path.place p.host.notesPath) :
    Alike s.disk (p.publish w plan set s).2.2.disk path := by
  have hpub := publish_publication w p plan set s
  have hstatus := (status_reaches w p.host s).alike hw
  generalize p.publish w plan set s = run at hpub ⊢
  obtain ⟨result, warnings, s'⟩ := run
  cases hpub with
  | withheld reason => exact hstatus
  | launched d _ _ hwrite _ =>
    have hwrote := (wrote_of_write hwrite).1.sameBut.alike hne
    have hlaunch : Alike d _ path :=
      hw (p.host.createCommand d plan.tag plan.next) d (p.withNotes w s d).world
    exact ((hstatus.trans hwrote).trans hlaunch).trans ((sameBut_removeFile _ _).alike hne)

theorem NotesGone.pathExists_eq (h : NotesGone p d) : d.pathExists p.host.notesPath = false := by
  rw [← Bool.not_eq_true, pathExists_iff]
  rintro ⟨hl, hne⟩
  exact hne (h hl)

/-- The notes that are on the disk when the command is launched. -/
theorem readText_of_published (h : Published p plan dn s (p.publish w plan set s).2.2)
    (hw : w.LeavesAlone p.changelogPath) :
    dn.readText p.host.notesPath = .ok (p.releaseNotes plan s.disk) := by
  obtain ⟨hwrite, -⟩ := publish_of_published h
  obtain ⟨hwrote, hat⟩ := wrote_of_write hwrite
  have hleads := hwrote.leads_iff.mpr (write_eq_ok_iff.mp hwrite).1.leads
  have hentry := releasedEntry?_congr plan ((status_reaches w p.host s).alike hw)
  rw [readText_eq_ok_iff, lookup_eq_ok_iff]
  refine ⟨hleads, ?_⟩
  rw [hat]
  unfold releaseNotes
  rw [hentry]

/-- The notes are removed after the command, if the programs leave them alone. -/
theorem notesGone_of_published (h : Published p plan dn s (p.publish w plan set s).2.2)
    (hw : w.LeavesAlone p.host.notesPath) : NotesGone p (p.publish w plan set s).2.2.disk := by
  obtain ⟨hwrite, heq⟩ := publish_of_published h
  obtain ⟨hwrote, hat⟩ := wrote_of_write hwrite
  have hleads := hwrote.leads_iff.mpr (write_eq_ok_iff.mp hwrite).1.leads
  have hafter := (hw (p.host.createCommand dn plan.tag plan.next) dn (p.withNotes w s dn).world
    _).mp (lookup_eq_ok_iff.mpr ⟨hleads, hat⟩)
  rw [heq]
  exact notesGone_withoutNotes (lookup_eq_ok_iff.mp hafter).2

/-! ## The entry after an update -/

section

variable [Regex.SizeLimit]

/-- A promotion makes the pending entry the one of the version. -/
theorem entry?_of_promote {v : Version} {date : Date} {t : String} (hp : '\n' ∉ c.tagPrefix.toList)
    (h : c.promote v date = .ok t) (hs : c.pending? = some sec) :
    Changelog.entry? ⟨t, c.tagPrefix⟩ v = entryText? (Changelog.elide sec.bodyText) := by
  have hbody : c.body? Changelog.pendingLabel = some sec.body :=
    congrArg (Option.map Changelog.Section.body) hs
  rw [Changelog.entry?_eq, Changelog.body?_of_promote hp h, hbody]
  rfl

/-- **An update makes the pending entry the one of the version**, if no artifact is in the file of
the changelog. -/
theorem releasedEntry?_of_updated (hp : '\n' ∉ p.config.version.tagPrefix.toList)
    (hart : ∀ a ∈ p.config.artifacts, Path.place (a.fullPath p.root) ≠ Path.place p.changelogPath)
    (he : p.PendingEntry d e) (h : p.updateFiles o plan d = (.ok report, d')) :
    p.releasedEntry? plan d' = entryText? e := by
  obtain ⟨c, sec, hload, hpending, rfl⟩ := he
  obtain ⟨text, hl, rfl⟩ := loadChangelog_eq_ok_iff.mp hload
  obtain ⟨text', promoted, hat, hpromote, hread⟩ := (updateFiles_rewritten h).changelog
  have hnone : Artifacts.leadingTo d' p.root (Path.place p.changelogPath)
      p.config.artifacts = [] := by
    refine List.filter_eq_nil_iff.mpr fun a ha => ?_
    simp [hart a ha]
  -- so the changelog is promoted as it was
  rw [hnone] at hpromote
  have htext : text' = text := by
    rw [(lookup_eq_ok_iff.mp hl).2] at hat
    exact (Content.text.inj (Entry.file.inj (Option.some.inj hat))).symm
  rw [htext] at hpromote
  have hload' := loadChangelog_eq_ok_iff.mpr ⟨promoted, readText_eq_ok_iff.mp hread, rfl⟩
  unfold releasedEntry?
  rw [hload']
  exact entry?_of_promote hp hpromote hpending

/-! ## A release that comes to its publication -/

/-- A release comes to the step that publishes it, with a session. -/
inductive ComesToPublish (w : World σ) (p : Project) (o : ReleaseOptions) (plan : ReleasePlan)
    (s : Session σ) : Session σ → Prop
  | intro (set : BackupSet) (d₁ : Disk) (hb : Begins w p plan s set d₁) (artifacts : ApplyReport)
    (d₂ : Disk) (hup : p.updateFiles o plan d₁ = (.ok artifacts, d₂)) (front back : List Step)
    (step : Step) (hsteps : plan.steps = front ++ step :: back) (hk : step.kind = .publish)
    (progress : Progress) (s₁ : Session σ)
    (hrun : p.runSteps w plan set front (mutated plan artifacts) (atWork w plan s d₂) =
      (.ok progress, s₁))
    (hgo : s₁.stopped = false) :
    ComesToPublish w p o plan s s₁

/-- A release that comes to its publication comes to its end with it. -/
theorem ComesToPublish.execute_eq (hplan : p.prepare o d₀ = .ok plan)
    (h : ComesToPublish w p o plan s s₁) : ∃ set report, set.dir = p.vaultDir ∧
      p.execute w o plan s = (.released report, { (p.publish w plan set s₁).2.2 with
        disk := (p.emptyVault set (p.publish w plan set s₁).2.2.disk).2 }) := by
  cases h with
  | intro set d₁ hb artifacts d₂ hup front back step hsteps hk progress _ hrun hgo =>
    obtain ⟨-, -, rfl⟩ : step.kind = .publish ∧ step.required = false ∧ back = [] :=
      (step_shape hplan hsteps).resolve_left fun hne => hne.1 hk
    obtain ⟨progress₁, hall⟩ : ∃ progress₁, p.runSteps w plan set plan.steps
        (mutated plan artifacts) (atWork w plan s d₂) =
          (.ok progress₁, (p.publish w plan set s₁).2.2) := by
      rw [hsteps, runSteps_append_of_ok hrun, runSteps_cons_of_ok hgo (runStep_of_publish hk)]
      exact ⟨_, rfl⟩
    exact ⟨set, _, (Vault.capture_present hb.captured).1, execute_of_runSteps hb hup hall⟩

/-- In the session in which a release is published, the pending entry is the one of the version. -/
theorem ComesToPublish.releasedEntry? (hplan : p.prepare o d₀ = .ok plan)
    (hw : w.LeavesAlone p.changelogPath) (hout : Path.Outside p.vaultDir p.changelogPath)
    (hp : '\n' ∉ p.config.version.tagPrefix.toList)
    (hart : ∀ a ∈ p.config.artifacts, Path.place (a.fullPath p.root) ≠ Path.place p.changelogPath)
    (he : p.PendingEntry s.disk e) (h : ComesToPublish w p o plan s s₁) :
    p.releasedEntry? plan s₁.disk = entryText? e := by
  cases h with
  | intro set d₁ hb artifacts d₂ hup front back step hsteps hk progress _ hrun hgo =>
    obtain ⟨c, sec, hload, hpending, rfl⟩ := he
    obtain ⟨text, hl, rfl⟩ := loadChangelog_eq_ok_iff.mp hload
    have hcaptured := (Vault.spared_of_capture hb.captured).lookup hout hl
    have hload' := loadChangelog_eq_ok_iff.mpr ⟨text, hcaptured, rfl⟩
    have hupdated := releasedEntry?_of_updated hp hart ⟨_, sec, hload', hpending, rfl⟩ hup
    have hreach := runSteps_reaches
      (fun step' hm => (not_publish_of_append hplan hsteps step' hm).2) hrun
    rw [releasedEntry?_congr plan (hreach.alike hw)]
    exact hupdated

theorem ComesToPublish.published (hplan : p.prepare o d₀ = .ok plan)
    (h : ComesToPublish w p o plan s s₁) (hready : (p.host.status w s₁).1 = .ready)
    (hwrite : (p.host.status w s₁).2.disk.write p.host.notesPath
      (.text (p.releaseNotes plan (p.host.status w s₁).2.disk)) = .ok dn) :
    Published p plan dn s₁ (p.publish w plan set s₁).2.2 ∧
      Published p plan dn s₁ (p.execute w o plan s).2 := by
  obtain ⟨set', report, -, heq⟩ := h.execute_eq hplan
  rw [heq]
  exact ⟨published_of_ready set hready hwrite, published_of_ready set' hready hwrite⟩

/-! ## The notes are the pending entry -/

open Cli

/-- A release that begins on a disk publishes an entry, by a command that is launched on another
one, and leaves a third one. -/
structure PublishesEntry (p : Project) (plan : ReleasePlan) (d dn d' : Disk) (e : List Char) :
    Prop where
  /-- The entry is the pending one. -/
  pending : p.PendingEntry d e
  /-- Its length is what the check of the changelog compares. -/
  checked : p.checkChangelog d =
    if p.config.changelog.minPendingChars ≤ e.length then .ok ()
    else .error (.pendingTooShort e.length p.config.changelog.minPendingChars)
  /-- It is long enough. -/
  long : p.config.changelog.minPendingChars ≤ e.length
  /-- The notes that are published are composed of it. -/
  notes : dn.readText p.host.notesPath =
    .ok (p.host.notes plan.next (entryText? e) p.config.changelog.path)
  /-- The command line shows the same notes afterwards, unless the entry is empty. -/
  shown : e ≠ [] → ∀ m : Machine, m.disk = d' → m.loadProject m.dir = .ok p →
    m.run ["changelog", "notes", plan.next.text] =
      .done (p.host.notes plan.next (entryText? e) p.config.changelog.path) d'
  /-- The file of the notes is gone. -/
  gone : d'.pathExists p.host.notesPath = false

/-- **A release publishes the entry that was pending when it began**, if the changelog is neither an
artifact nor the file of the notes, does not lie in the vault, and the programs leave it and the
notes alone. -/
theorem execute_publishes (hplan : p.prepare o d₀ = .ok plan) (hw : w.LeavesAlone p.changelogPath)
    (hw' : w.LeavesAlone p.host.notesPath)
    (hart : ∀ a ∈ p.config.artifacts, Path.place (a.fullPath p.root) ≠ Path.place p.changelogPath)
    (hne : Path.place p.changelogPath ≠ Path.place p.host.notesPath)
    (hp : '\n' ∉ p.config.version.tagPrefix.toList)
    (hout : Path.Outside p.vaultDir p.changelogPath) (hcome : ComesToPublish w p o plan s s₁)
    (hpub : Published p plan dn s₁ (p.execute w o plan s).2) :
    ∃ e, PublishesEntry p plan s.disk dn (p.execute w o plan s).2.disk e := by
  obtain ⟨set, report, hset, heq⟩ := hcome.execute_eq hplan
  have hcheck : p.checkChangelog s.disk = .ok () := by
    cases hcome with
    | intro _ _ hb => exact hb.checked
  obtain ⟨e, he⟩ := exists_pendingEntry hcheck
  have hentry := hcome.releasedEntry? hplan hw hout hp hart he
  -- the vault is emptied after the publication
  have hempty := emptyVault_removed p set (p.publish w plan set s₁).2.2.disk
  rw [hset] at hempty
  rw [heq] at hpub ⊢
  have hpub' : Published p plan dn s₁ (p.publish w plan set s₁).2.2 := hpub
  refine ⟨e, he, he.checkChangelog_eq, he.long hcheck, ?notes, ?shown, ?gone⟩
  case notes =>
    rw [readText_of_published hpub' hw]
    unfold releaseNotes
    rw [hentry]
  case shown =>
    intro hnonempty m hm hload
    have hsame := (alike_publish (s := s₁) set plan hw hne).trans (hempty.alike hout)
    have hafter := releasedEntry?_congr plan hsame
    have hsome : entryText? e = some (String.ofList e) := if_neg hnonempty
    rw [hentry, hsome] at hafter
    obtain ⟨c, hchangelog, hreleased⟩ := exists_of_releasedEntry? hafter
    have hdisk : m.disk = (p.emptyVault set (p.publish w plan set s₁).2.2.disk).2 := hm
    rw [← hdisk] at hchangelog
    rw [hsome, Machine.run_notes hload hchangelog hreleased, hm]
  case gone =>
    exact ((notesGone_of_published hpub' hw').of_removed hempty).pathExists_eq

end

/-! ### The small project -/

theorem leavesAlone_quietWorld (path : String) : quietWorld.LeavesAlone path :=
  fun _ _ _ _ => Iff.rfl

section

variable [Regex.SizeLimit] {artifacts : ApplyReport}

/-- The steps of a release in the quiet world, but for the last one. -/
def quietRun (p : Project) (plan : ReleasePlan) (set : BackupSet) (artifacts : ApplyReport)
    (d : Disk) : Except ReleaseFailure Progress × Session Unit :=
  p.runSteps quietWorld plan set plan.steps.dropLast (mutated plan artifacts)
    (atWork quietWorld plan (Session.start d ())
      (p.updateFiles publishOptions plan (Vault.capture p.vaultDir plan.touched d).2).2)

theorem comesToPublish_quiet (hcheck : p.checkChangelog d = .ok ())
    (hset : (Vault.capture p.vaultDir plan.touched d).1 = .ok set)
    (hup : (p.updateFiles publishOptions plan (Vault.capture p.vaultDir plan.touched d).2).1 =
      .ok artifacts)
    (hlast : plan.steps.getLast? = some step) (hk : step.kind = .publish)
    (hrun : (quietRun p plan set artifacts d).1.toOption.isSome = true)
    (hgo : (quietRun p plan set artifacts d).2.stopped = false) :
    ComesToPublish quietWorld p publishOptions plan (Session.start d ())
      (quietRun p plan set artifacts d).2 := by
  obtain ⟨progress, hprogress⟩ := Option.isSome_iff_exists.mp hrun
  have hrun' : quietRun p plan set artifacts d =
      (.ok progress, (quietRun p plan set artifacts d).2) := pair_of_fst (ok_of_toOption hprogress)
  have hsteps : plan.steps = plan.steps.dropLast ++ [step] := by
    obtain ⟨front, hfront⟩ := List.getLast?_eq_some_iff.mp hlast
    rw [hfront, List.dropLast_concat]
  have hbegins : Begins quietWorld p plan (Session.start d ()) set _ :=
    ⟨hcheck, rfl, rfl, pair_of_fst hset⟩
  exact .intro set _ hbegins artifacts _ (pair_of_fst hup) plan.steps.dropLast [] step hsteps hk
    progress _ hrun' hgo

/-- In the quiet world a release is published if anything can be written where the notes are to
be. -/
theorem exists_published_quiet {s s₁ : Session Unit} (set : BackupSet)
    (hplan : p.prepare o d₀ = .ok plan) (h : ComesToPublish quietWorld p o plan s s₁)
    (hwrite : (s₁.disk.write p.host.notesPath (.text "")).toOption.isSome = true) :
    ∃ dn, Published p plan dn s₁ (p.publish quietWorld plan set s₁).2.2 ∧
      Published p plan dn s₁ (p.execute quietWorld o plan s).2 := by
  obtain ⟨d', hd'⟩ := Option.isSome_iff_exists.mp hwrite
  have haccepts := (write_eq_ok_iff.mp (ok_of_toOption hd')).1
  exact ⟨_, h.published hplan rfl (write_eq_ok_iff.mpr ⟨haccepts, rfl⟩)⟩

end

/-- The copies of the small release. -/
def tinySet : BackupSet :=
  ⟨"app/kept", [⟨"app/CHANGELOG.md", some "app/kept/00-CHANGELOG.md"⟩]⟩

/-- The session in which it is to be published. -/
def tinySession : Session Unit := (quietRun (tiny "kept" []) publishPlan tinySet ⟨[]⟩ tinyDisk).2

theorem comesToPublish_tiny : ComesToPublish quietWorld (tiny "kept" []) publishOptions publishPlan
    (Session.start tinyDisk ()) tinySession :=
  comesToPublish_quiet (ok_of_toOption (by decide +kernel)) (ok_of_toOption (by decide +kernel))
    (ok_of_toOption (by decide +kernel)) (by rfl) rfl (by decide +kernel) (by decide +kernel)

theorem execute_publishes_tiny :
    let p := tiny "kept" []
    let run := p.execute quietWorld publishOptions publishPlan (Session.start tinyDisk ())
    p.prepare publishOptions tinyDisk = .ok publishPlan ∧
    quietWorld.LeavesAlone p.changelogPath ∧ quietWorld.LeavesAlone p.host.notesPath ∧
    Path.Outside p.vaultDir p.changelogPath ∧
    ∃ s₁ dn e, ComesToPublish quietWorld p publishOptions publishPlan
        (Session.start tinyDisk ()) s₁ ∧
      Published p publishPlan dn s₁ run.2 ∧
      PublishesEntry p publishPlan tinyDisk dn run.2.disk e := by
  intro p run
  have hplan : p.prepare publishOptions tinyDisk = .ok publishPlan :=
    ok_of_toOption (by decide +kernel)
  have hw := leavesAlone_quietWorld p.changelogPath
  have hw' := leavesAlone_quietWorld p.host.notesPath
  -- nothing stands where the vault is to be
  have htree : tinyDisk.IsTree := isTree_of_entries (by decide +kernel)
  have hlook : tinyDisk.lookup p.changelogPath = .ok (.file tinyText) :=
    ok_of_toOption (by decide +kernel)
  have hout : Path.Outside p.vaultDir p.changelogPath := htree.outside (by decide +kernel) hlook
  obtain ⟨dn, -, hpub⟩ :=
    exists_published_quiet tinySet hplan comesToPublish_tiny (by decide +kernel)
  obtain ⟨e, he⟩ := execute_publishes hplan hw hw' (by decide +kernel) (by decide +kernel)
    (by decide +kernel) hout comesToPublish_tiny hpub
  exact ⟨hplan, hw, hw', hout, tinySession, dn, e, comesToPublish_tiny, hpub, he⟩

/-- A project whose changelog stands where the vault puts its first copy, behind a directory that is
not there. -/
def hiddenProject : Project :=
  ⟨"app", {
    version := { source := "VERSION" }
    artifacts := [{ Artifact.ofSearch "docs/CHANGES.md" "{version}" with optional := true }]
    changelog := { path := "v/00-CHANGES.md", minPendingChars := 1 }
    commands := ⟨[], ["make"], []⟩
    backup := ⟨"n/../v"⟩ }⟩

/-- Its disk. -/
def hiddenDisk : Disk :=
  ⟨[(["app"], .directory), (["app", "VERSION"], .file (.text "1.0.0")),
    (["app", "docs"], .directory),
    (["app", "docs", "CHANGES.md"], .file (.text "## [Unreleased]\nOther.\n")),
    (["app", "v"], .directory),
    (["app", "v", "00-CHANGES.md"], .file (.text "## [Unreleased]\nNew.\n"))]⟩

/-- The plan of its release. -/
def hiddenPlan : ReleasePlan where
  current := ⟨1, 0, 0⟩
  next := ⟨1, 1, 0⟩
  tag := "v1.1.0"
  pendingChars := 4
  minPendingChars := 1
  steps := hiddenProject.steps publishOptions hiddenDisk ⟨1, 1, 0⟩ "v1.1.0"
  touched := hiddenProject.touched
  warnings := hiddenProject.planWarnings publishOptions

/-- The copies of its release. -/
def hiddenSet : BackupSet :=
  ⟨"app/n/../v", [⟨"app/docs/CHANGES.md", some "app/n/../v/00-CHANGES.md"⟩,
    ⟨"app/v/00-CHANGES.md", some "app/n/../v/01-00-CHANGES.md"⟩]⟩

/-- The session in which it is to be published. -/
def hiddenSession : Session Unit :=
  (quietRun hiddenProject hiddenPlan hiddenSet ⟨[⟨"docs/CHANGES.md", true, .failed .notMatched⟩]⟩
    hiddenDisk).2

theorem comesToPublish_hidden : ComesToPublish quietWorld hiddenProject publishOptions hiddenPlan
    (Session.start hiddenDisk ()) hiddenSession :=
  comesToPublish_quiet (ok_of_toOption (by decide +kernel)) (ok_of_toOption (by decide +kernel))
    (ok_of_toOption (by decide +kernel)) (by rfl) rfl (by decide +kernel) (by decide +kernel)

theorem pendingEntry_hidden : hiddenProject.PendingEntry hiddenDisk "New.".toList := by
  have hload : hiddenProject.loadChangelog hiddenDisk = .ok ⟨"## [Unreleased]\nNew.\n", "v"⟩ :=
    ok_of_toOption (by decide +kernel)
  have hpending : ((Changelog.mk "## [Unreleased]\nNew.\n" "v").pending?.map fun sec =>
      Changelog.elide sec.bodyText) = some "New.".toList := by decide +kernel
  obtain ⟨sec, hsec, helide⟩ := Option.map_eq_some_iff.mp hpending
  exact ⟨_, sec, hload, hsec, helide⟩

theorem releaseNotes_hidden :
    hiddenProject.releaseNotes hiddenPlan hiddenSession.disk = "# Release 1.1.0\n\nOther.\n" := by
  decide +kernel

/-- A copy of another file takes the place of the changelog, and the entry of that file is
published. -/
theorem execute_publishes_other :
    let p := hiddenProject
    p.prepare publishOptions hiddenDisk = .ok hiddenPlan ∧
    quietWorld.LeavesAlone p.changelogPath ∧ quietWorld.LeavesAlone p.host.notesPath ∧
    (∀ a ∈ p.config.artifacts, Path.place (a.fullPath p.root) ≠ Path.place p.changelogPath) ∧
    Path.place p.changelogPath ≠ Path.place p.host.notesPath ∧
    '\n' ∉ p.config.version.tagPrefix.toList ∧
    p.PendingEntry hiddenDisk "New.".toList ∧
    p.host.notes hiddenPlan.next (entryText? "New.".toList) p.config.changelog.path =
      "# Release 1.1.0\n\nNew.\n" ∧
    ∃ s₁ dn, ComesToPublish quietWorld p publishOptions hiddenPlan
        (Session.start hiddenDisk ()) s₁ ∧
      Published p hiddenPlan dn s₁ (p.execute quietWorld publishOptions hiddenPlan
        (Session.start hiddenDisk ())).2 ∧
      dn.readText p.host.notesPath = .ok "# Release 1.1.0\n\nOther.\n" := by
  have hplan : hiddenProject.prepare publishOptions hiddenDisk = .ok hiddenPlan :=
    ok_of_toOption (by decide +kernel)
  obtain ⟨dn, hnotes, hpub⟩ :=
    exists_published_quiet hiddenSet hplan comesToPublish_hidden (by decide +kernel)
  have hread := readText_of_published hnotes (leavesAlone_quietWorld _)
  rw [releaseNotes_hidden] at hread
  exact ⟨hplan, leavesAlone_quietWorld _, leavesAlone_quietWorld _, by decide +kernel,
    by decide +kernel, by decide +kernel, pendingEntry_hidden, by decide +kernel, hiddenSession, dn,
    comesToPublish_hidden, hpub, hread⟩

end Project

end Slipway
