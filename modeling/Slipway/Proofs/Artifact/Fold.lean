import Slipway.Proofs.Artifact.Update

/-!
# Artifacts that share a file

About `ArtifactMutator::apply_version` (`keel_core::files`). An artifact works on the text that
those before have left in its file. So the text of a file ends up as the fold of the artifacts that
lead to it (`Artifacts.bring`), and each of them is examined in the fold of those before it.

* `exists_updates_of_apply`: an update that comes to its end, artifact by artifact.
* `UpdateRow.Holds.content`, `Updates.content`: what one update, and a whole one, makes of a file.
* `Updates.examined`: in which text each artifact was examined.
-/

namespace Slipway

open Disk

/-- A content with another text. -/
def Content.mapText (f : String → String) : Content → Content
  | .text t => .text (f t)
  | .binary bytes => .binary bytes

theorem Content.mapText_id (c : Content) : c.mapText id = c := by
  cases c with
  | text t => rfl
  | binary bytes => rfl

theorem Content.mapText_mapText (f g : String → String) (c : Content) :
    (c.mapText f).mapText g = c.mapText (g ∘ f) := by
  cases c with
  | text t => rfl
  | binary bytes => rfl

theorem Content.exists_of_mapText {f : String → String} {c : Content} {t : String}
    (h : c.mapText f = .text t) : ∃ before, c = .text before ∧ t = f before := by
  cases c with
  | text before => exact ⟨before, rfl, (Content.text.inj h).symm⟩
  | binary bytes => exact absurd h (by simp [Content.mapText])

namespace Artifacts

variable {root : String} {d d' : Disk} {q : Place}

/-- The artifacts whose paths lead to a place. -/
def leadingTo (d : Disk) (root : String) (q : Place) (artifacts : List Artifact) : List Artifact :=
  artifacts.filter fun a => d.pathExists (a.fullPath root) && Path.place (a.fullPath root) = q

theorem leadingTo_append (xs ys : List Artifact) :
    leadingTo d root q (xs ++ ys) = leadingTo d root q xs ++ leadingTo d root q ys := by
  unfold leadingTo
  rw [List.filter_append]

theorem leadingTo_congr {artifacts : List Artifact}
    (h : ∀ a ∈ artifacts, d'.pathExists (a.fullPath root) = d.pathExists (a.fullPath root)) :
    leadingTo d' root q artifacts = leadingTo d root q artifacts := by
  unfold leadingTo
  refine List.filter_congr fun a ha => ?_
  rw [h a ha]

theorem leadingTo_singleton (a : Artifact) : leadingTo d root q [a] =
    if d.pathExists (a.fullPath root) = true ∧ Path.place (a.fullPath root) = q then [a]
    else [] := by
  by_cases h : d.pathExists (a.fullPath root) = true ∧ Path.place (a.fullPath root) = q
  · simp [leadingTo, h]
  · rw [if_neg h]
    unfold leadingTo
    rw [List.filter_eq_nil_iff]
    intro b hb
    rw [List.mem_singleton.mp hb]
    simpa using h

end Artifacts

variable [Regex.SizeLimit]

/-- Brings a text to the new version, or leaves it alone if nothing is found in it. -/
def Artifact.bring (a : Artifact) (old new : Version) (text : String) : String :=
  match a.substitute text old new with
  | .ok (some after) => after.text
  | .ok none | .error _ => text

namespace Artifacts

/-- Brings a text to the new version by one artifact after the other. -/
def bring (old new : Version) (artifacts : List Artifact) (text : String) : String :=
  artifacts.foldl (fun text a => a.bring old new text) text

theorem bring_append {old new : Version} (xs ys : List Artifact) :
    bring old new (xs ++ ys) = bring old new ys ∘ bring old new xs := by
  funext text
  unfold bring
  rw [List.foldl_append]
  rfl

end Artifacts

open Artifacts

variable {root : String} {old new : Version} {a : Artifact} {d d' d₁ : Disk} {q : Place}
variable {rows : List UpdateRow} {row : UpdateRow} {c : Content} {t : String} {i : Nat}

/-! ## One artifact -/

/-- What becomes of an artifact, by what was found in a text. -/
def ArtifactOutcome.ofFound (text : String) : Option Substitution → ArtifactOutcome
  | none => .failed .notMatched
  | some after => if after.text = text then .unchanged else .updated after.count

/-- What an artifact makes of a text in which it was looked for. -/
theorem Artifact.findingIn_outcome {f : Finding} (h : a.findingIn old new t = .ok f) :
    ∃ found, a.substitute t old new = .ok found ∧ f.outcome = .ofFound t found := by
  obtain ⟨found, hs, rfl⟩ := map_eq_ok_iff.mp h
  refine ⟨found, hs, ?_⟩
  cases found with
  | none => rfl
  | some after => rfl

/-- An artifact whose update succeeds has been examined, and holds what was found. -/
theorem Artifact.exists_holds {outcome : ArtifactOutcome}
    (h : a.update root d old new = .ok (outcome, d')) :
    ∃ f, UpdateRow.Holds root old new ⟨a, f, outcome⟩ d d' := by
  cases hf : a.examine root d old new with
  | error e =>
    unfold update at h
    rw [hf] at h
    exact absurd h (by simp)
  | ok f =>
    obtain ⟨outcome', d'', hu, hholds⟩ := exists_update hf
    obtain ⟨rfl, rfl⟩ := Prod.mk.inj (Except.ok.inj (h.symm.trans hu))
    exact ⟨f, hholds⟩

namespace UpdateRow.Holds

theorem outcome_of_missing (h : row.Holds root old new d d')
    (he : d.pathExists (row.artifact.fullPath root) = false) :
    row.outcome = .failed .notFound := by
  have hf := Except.ok.inj (h.examined.symm.trans (Artifact.examine_of_missing he))
  rw [h.outcome_eq, hf]
  rfl

/-- An artifact that is there holds a text, and the text is brought to the new version. -/
theorem text_of_exists (h : row.Holds root old new d d')
    (he : d.pathExists (row.artifact.fullPath root) = true) :
    ∃ t found, d.lookup (row.artifact.fullPath root) = .ok (.file (.text t)) ∧
      row.artifact.substitute t old new = .ok found ∧ row.outcome = .ofFound t found ∧
      d'.lookup (row.artifact.fullPath root) =
        .ok (.file (.text (row.artifact.bring old new t))) := by
  rcases Artifact.examine_eq_ok h.examined with ⟨he', -⟩ | ⟨t, hl, hfind⟩
  · exact absurd (he.symm.trans he') (by simp)
  obtain ⟨found, hsub, hout⟩ := Artifact.findingIn_outcome hfind
  refine ⟨t, found, hl, hsub, h.outcome_eq.trans hout, ?_⟩
  unfold Artifact.bring
  rw [hsub]
  unfold Artifact.findingIn at hfind
  rw [hsub] at hfind
  have hf := (Except.ok.inj hfind).symm
  cases found with
  | some after => exact (h.text t after hf).2
  | none =>
    -- nothing was found, and the file was not written
    refine (h.rewrote.wrote.lookup_eq_ok_iff fun hw => ?_).mpr hl
    have hout := h.outcome_eq
    rw [hf] at hout
    have hu := hw.1
    unfold ArtifactResult.isUpdated UpdateRow.result at hu
    rw [hout] at hu
    exact absurd hu (by simp [Finding.outcome])

/-- Another file is left alone. -/
theorem at?_eq_of_ne (h : row.Holds root old new d d') (hq : row.place root ≠ q) :
    d'.at? q = d.at? q :=
  h.rewrote.wrote.at?_eq fun hw => hq hw.2

/-- So is every file if the artifact is not there. -/
theorem at?_eq_of_missing (h : row.Holds root old new d d')
    (he : d.pathExists (row.artifact.fullPath root) = false) : d'.at? q = d.at? q := by
  refine h.rewrote.wrote.at?_eq fun hw => ?_
  have hu := hw.1
  unfold ArtifactResult.isUpdated UpdateRow.result at hu
  rw [h.outcome_of_missing he] at hu
  exact absurd hu (by simp)

/-- **What an update makes of a file.** -/
theorem content (h : row.Holds root old new d d') (hq : d.at? q = some (.file c)) :
    d'.at? q = some (.file (c.mapText (bring old new (leadingTo d root q [row.artifact])))) := by
  rw [leadingTo_singleton]
  cases he : d.pathExists (row.artifact.fullPath root) with
  | false =>
    rw [if_neg (by simp), h.at?_eq_of_missing he, hq]
    exact congrArg (fun c => some (Entry.file c)) c.mapText_id.symm
  | true =>
    by_cases hplace : Path.place (row.artifact.fullPath root) = q
    · rw [if_pos ⟨rfl, hplace⟩]
      obtain ⟨t, found, hl, -, -, hl'⟩ := h.text_of_exists he
      have hbefore := (lookup_eq_ok_iff.mp hl).2
      have hafter := (lookup_eq_ok_iff.mp hl').2
      rw [hplace] at hbefore hafter
      rw [hafter, Entry.file.inj (Option.some.inj (hq.symm.trans hbefore))]
      rfl
    · rw [if_neg fun hand => hplace hand.2, h.at?_eq_of_ne hplace, hq]
      exact congrArg (fun c => some (Entry.file c)) c.mapText_id.symm

end UpdateRow.Holds

/-! ## All artifacts -/

/-- **What a whole update makes of a file**: the fold of the artifacts that lead to it. -/
theorem Updates.content (h : Updates root old new d rows d') (hq : d.at? q = some (.file c)) :
    d'.at? q = some (.file (c.mapText
      (bring old new (leadingTo d root q (rows.map UpdateRow.artifact))))) := by
  induction h generalizing c with
  | done d =>
    rw [hq]
    exact congrArg (fun c => some (Entry.file c)) c.mapText_id.symm
  | @next d d₁ d' row rows hrow hrest ih =>
    have hkeep : ∀ a ∈ rows.map UpdateRow.artifact,
        d₁.pathExists (a.fullPath root) = d.pathExists (a.fullPath root) :=
      fun a _ => hrow.rewrote.pathExists_eq
    rw [ih (hrow.content hq), Content.mapText_mapText, leadingTo_congr hkeep, ← bring_append,
      ← leadingTo_append]
    rfl

/-- A text after a whole update is the fold over a text before. -/
theorem Updates.text_before (h : Updates root old new d rows d')
    (hq : d'.at? q = some (.file (.text t))) :
    ∃ before, d.at? q = some (.file (.text before)) ∧
      t = bring old new (leadingTo d root q (rows.map UpdateRow.artifact)) before := by
  obtain ⟨c, hc⟩ : ∃ c, d.at? q = some (.file c) := by
    rcases h.rewrote q with hkept | ⟨-, hfile, -⟩
    · exact ⟨_, hkept.symm.trans hq⟩
    · exact hfile
  have hfold := Entry.file.inj (Option.some.inj ((h.content hc).symm.trans hq))
  obtain ⟨before, rfl, ht⟩ := Content.exists_of_mapText hfold
  exact ⟨before, hc, ht⟩

/-- **In which text an artifact was examined**: in the fold of those before it. -/
theorem Updates.examined {front back : List UpdateRow}
    (h : Updates root old new d (front ++ row :: back) d')
    (he : d.pathExists (row.artifact.fullPath root) = true) :
    ∃ t found, d.at? (row.place root) = some (.file (.text t)) ∧
      row.artifact.substitute (bring old new
        (leadingTo d root (row.place root) (front.map UpdateRow.artifact)) t) old new =
          .ok found ∧
      row.outcome = .ofFound (bring old new
        (leadingTo d root (row.place root) (front.map UpdateRow.artifact)) t) found := by
  obtain ⟨d₁, d₂, hfront, hrow, -⟩ := h.split
  obtain ⟨t, found, hl, hsub, hout, -⟩ :=
    hrow.text_of_exists (hfront.rewrote.pathExists_eq.trans he)
  obtain ⟨before, hbefore, rfl⟩ := hfront.text_before (lookup_eq_ok_iff.mp hl).2
  exact ⟨before, found, hbefore, hsub, hout⟩

theorem Updates.missing {front back : List UpdateRow}
    (h : Updates root old new d (front ++ row :: back) d')
    (he : d.pathExists (row.artifact.fullPath root) = false) :
    row.outcome = .failed .notFound := by
  obtain ⟨d₁, d₂, hfront, hrow, -⟩ := h.split
  exact hrow.outcome_of_missing (hfront.rewrote.pathExists_eq.trans he)

/-- **An update that comes to its end** has updated every artifact, in its order. -/
theorem Artifacts.exists_updates_of_apply {artifacts : List Artifact} {report : ApplyReport}
    (h : Artifacts.apply root old new artifacts d = (.ok report, d')) :
    ∃ rows, Updates root old new d rows d' ∧ rows.map UpdateRow.artifact = artifacts ∧
      report.results = rows.map UpdateRow.result := by
  induction artifacts generalizing d report with
  | nil =>
    obtain ⟨hreport, rfl⟩ := Prod.mk.inj h
    rw [← Except.ok.inj hreport]
    exact ⟨[], .done d, rfl, rfl⟩
  | cons a artifacts ih =>
    rw [Artifacts.apply_cons] at h
    split at h
    · exact absurd (Prod.mk.inj h).1 (by simp)
    · rename_i outcome d₁ hu
      obtain ⟨hmap, hd⟩ := Prod.mk.inj h
      cases hrest : (Artifacts.apply root old new artifacts d₁).1 with
      | error e =>
        rw [hrest] at hmap
        exact absurd hmap (by simp [Except.map])
      | ok rest =>
        rw [hrest] at hmap
        rw [← Except.ok.inj hmap]
        obtain ⟨f, hrow⟩ := Artifact.exists_holds hu
        obtain ⟨rows, hrows, hartifacts, hresults⟩ := ih (Prod.ext hrest hd)
        refine ⟨⟨a, f, outcome⟩ :: rows, .next hrow hrows, ?_, ?_⟩
        · rw [List.map_cons, hartifacts]
        · simp only [List.map_cons, hresults]
          rfl

end Slipway
