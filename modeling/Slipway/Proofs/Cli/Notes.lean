import Slipway.Cli.Run
import Slipway.Proofs.Version.Text

/-!
# Notes on the command line

About `changelog::run` (`keel::commands`). The command line reads the text of a version as the plain
argument of the command that shows notes (`Arguments.parse_notes`), and shows the notes of a version
that has an entry (`Machine.run_notes`).
-/

namespace Slipway.Cli

theorem Arguments.form_text (v : Version) : Form.of v.text.toList = .plain := by
  unfold Form.of
  split
  · rename_i rest h
    have hdash : '-' ∈ v.text.toList := by
      rw [h]
      exact List.mem_cons_self
    exact absurd hdash (v.not_mem_text (by decide) (by decide))
  · rfl

/-- A version is read as the plain argument of the command that shows notes. -/
theorem Arguments.parse_notes (v : Version) :
    Arguments.parse ["changelog", "notes", v.text] = .ok ⟨.changelogNotes, [], [v.text]⟩ := by
  have hlast : Reading.step ⟨.changelogNotes, [], [], [], false⟩ v.text [] =
      .ok (⟨.changelogNotes, [], [], [v.text], false⟩, []) := by
    unfold Reading.step
    rw [if_neg (by simp), form_text]
    rfl
  have hfirst : Reading.start.steps 3 ["changelog", "notes", v.text] =
      Reading.steps ⟨.changelogNotes, [], [], [], false⟩ 1 [v.text] := rfl
  have hsteps : Reading.start.steps 3 ["changelog", "notes", v.text] =
      .ok ⟨.changelogNotes, [], [], [v.text], false⟩ := by
    rw [hfirst]
    unfold Reading.steps
    rw [hlast]
    rfl
  unfold Arguments.parse
  show (Reading.start.steps 3 _).bind _ = _
  rw [hsteps]
  rfl

variable [Regex.SizeLimit]

/-- The command line shows the notes of a version that has an entry. -/
theorem Machine.run_notes {m : Machine} {p : Project} {c : Changelog} {v : Version}
    {entry : String} (hp : m.loadProject m.dir = .ok p) (hc : p.loadChangelog m.disk = .ok c)
    (hentry : c.entry? v = some entry) : m.run ["changelog", "notes", v.text] =
      .done (p.host.notes v (some entry) p.config.changelog.path) m.disk := by
  have hversion : Version.parse v.text = .ok v := Version.parse_eq_ok_iff.mpr v.parse?_text
  have hshown : Machine.showNotes p c v.text =
      .ok (p.host.notes v (some entry) p.config.changelog.path) := by
    have hparsed : (Version.parse v.text).mapError Fault.ofError = .ok v := by
      rw [hversion]
      rfl
    unfold Machine.showNotes
    rw [hparsed]
    simp only [bind, Except.bind, hentry]
    rfl
  have hcommand : m.withChangelog m.dir (fun p c => Machine.showNotes p c v.text) =
      .ok (p.host.notes v (some entry) p.config.changelog.path) := by
    unfold Machine.withChangelog
    simp only [hp, hc, Machine.within, bind, Except.bind]
    exact hshown
  have hdir : m.startDir ⟨.changelogNotes, [], [v.text]⟩ = .ok m.dir := rfl
  unfold Machine.run
  rw [Arguments.parse_notes]
  simp only [hdir]
  unfold Machine.runIn
  simp only [List.head?_cons, Option.getD_some, hcommand]
  rfl

end Slipway.Cli
