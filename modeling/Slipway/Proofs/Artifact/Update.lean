import Slipway.Artifact.Update
import Slipway.Proofs.Disk.Change

/-!
# Updating artifacts, one after the other

About `ArtifactMutator::apply_version` (`keel_core::files`). An update only gives other texts to
files that are there (`Disk.Rewrote`). So an artifact that can be examined stays so while others are
updated (`Artifact.exists_examine`), and the same is found in it as long as its own file is not
rewritten (`Artifact.examine_eq`). `Updates` tells the artifacts with what was found and what became
of them, and `Artifacts.exists_updates` says that an update of artifacts that can all be examined
comes to its end.
-/

namespace Slipway

namespace Disk

variable {d d' d'' : Disk} {path t : String} {c : Content} {S T : Place → Prop}

theorem readText_eq_ok_iff : d.readText path = .ok t ↔ d.lookup path = .ok (.file (.text t)) := by
  unfold readText read
  cases d.lookup path with
  | error e => simp [bind, Except.bind]
  | ok entry =>
    cases entry with
    | directory => simp [bind, Except.bind, throw, throwThe, MonadExceptOf.throw]
    | file content =>
      cases content with
      | binary bytes =>
        simp [bind, Except.bind, throw, throwThe, MonadExceptOf.throw, pure, Except.pure]
      | text s => simp [bind, Except.bind, pure, Except.pure]

/-! ## Rewriting files -/

/-- Files at places of `S` were given other texts. -/
def Rewrote (S : Place → Prop) (d d' : Disk) : Prop :=
  ∀ q, d'.at? q = d.at? q ∨
    (S q ∧ (∃ c, d.at? q = some (.file c)) ∧ ∃ t, d'.at? q = some (.file (.text t)))

theorem Rewrote.refl (S : Place → Prop) (d : Disk) : Rewrote S d d := fun _ => Or.inl rfl

theorem Rewrote.mono (h : Rewrote S d d') (hST : ∀ q, S q → T q) : Rewrote T d d' := fun q =>
  (h q).imp_right fun ⟨hq, h⟩ => ⟨hST q hq, h⟩

theorem Rewrote.trans (h : Rewrote S d d') (h' : Rewrote S d' d'') : Rewrote S d d'' := by
  intro q
  rcases h' q with hq | ⟨hS, ⟨c, hc⟩, ht⟩
  · rw [hq]
    exact h q
  · rcases h q with hd | ⟨-, hfile, -⟩
    · exact Or.inr ⟨hS, ⟨c, hd ▸ hc⟩, ht⟩
    · exact Or.inr ⟨hS, hfile, ht⟩

theorem Rewrote.wrote (h : Rewrote S d d') : Wrote S d d' := by
  intro q
  refine (h q).imp_right fun ⟨hS, ⟨c, hc⟩, t, ht⟩ => ⟨hS, ?_, _, ht⟩
  rw [hc]
  simp

theorem Rewrote.pathExists_eq (h : Rewrote S d d') : d'.pathExists path = d.pathExists path := by
  rw [Bool.eq_iff_iff]
  refine ⟨fun he => ?_, h.wrote.pathExists⟩
  rw [Disk.pathExists_iff] at he ⊢
  refine ⟨h.wrote.leads_iff.mp he.1, fun hn => he.2 ?_⟩
  rcases h (Path.place path) with hq | ⟨-, ⟨c, hc⟩, -⟩
  · rw [hq, hn]
  · rw [hn] at hc
    exact absurd hc (by simp)

/-- A file that holds a text holds a text afterwards. -/
theorem Rewrote.text (h : Rewrote S d d') (hl : d.lookup path = .ok (.file (.text t))) :
    ∃ t', d'.lookup path = .ok (.file (.text t')) := by
  obtain ⟨hleads, hat⟩ := lookup_eq_ok_iff.mp hl
  have hleads' := h.wrote.leads_iff.mpr hleads
  rcases h (Path.place path) with hq | ⟨-, -, t', ht'⟩
  · exact ⟨t, lookup_eq_ok_iff.mpr ⟨hleads', hq.trans hat⟩⟩
  · exact ⟨t', lookup_eq_ok_iff.mpr ⟨hleads', ht'⟩⟩

/-- A file can be given a text. -/
theorem exists_write (hl : d.lookup path = .ok (.file c)) (t : String) :
    ∃ d', d.write path (.text t) = .ok d' ∧ Rewrote (· = Path.place path) d d' ∧
      d'.lookup path = .ok (.file (.text t)) := by
  obtain ⟨hleads, hat⟩ := lookup_eq_ok_iff.mp hl
  have haccepts : d.Accepts path := ⟨hleads, by rw [hat]; simp⟩
  have hw : d.write path (.text t) = .ok (d.put (Path.place path) (.file (.text t))) :=
    write_eq_ok_iff.mpr ⟨haccepts, rfl⟩
  obtain ⟨hwrote, hnew⟩ := wrote_of_write hw
  refine ⟨_, hw, fun q => ?_, lookup_eq_ok_iff.mpr ⟨hwrote.leads_iff.mpr hleads, hnew⟩⟩
  rcases hwrote q with hq | ⟨rfl, -, -⟩
  · exact Or.inl hq
  · exact Or.inr ⟨rfl, ⟨c, hat⟩, t, hnew⟩

end Disk

open Disk

theorem ofDisk_eq_ok_iff {α : Type} {x : Except DiskError α} {y : α} :
    ofDisk x = .ok y ↔ x = .ok y := by
  cases x with
  | error e => simp [ofDisk]
  | ok b => simp [ofDisk]

variable [Regex.SizeLimit] {root : String} {d d' d₁ : Disk} {a : Artifact} {old new : Version}
variable {t : String} {f : Finding} {S : Place → Prop}

namespace Artifact

/-! ## Examining -/

/-- What is found in a file with a given text. -/
def findingIn (a : Artifact) (old new : Version) (text : String) : Except ReleaseError Finding :=
  (a.substitute text old new).map fun found =>
    match found with
    | some after => .found text after
    | none => .problem .notMatched

theorem examine_of_missing (h : d.pathExists (a.fullPath root) = false) :
    a.examine root d old new = .ok (.problem .notFound) := by
  unfold examine
  rw [h]
  rfl

theorem examine_of_text (h : d.lookup (a.fullPath root) = .ok (.file (.text t))) :
    a.examine root d old new = a.findingIn old new t := by
  obtain ⟨hleads, hat⟩ := lookup_eq_ok_iff.mp h
  have he : d.pathExists (a.fullPath root) = true := pathExists_iff.mpr ⟨hleads, by rw [hat]; simp⟩
  unfold examine findingIn
  rw [he, ofDisk_eq_ok_iff.mpr (readText_eq_ok_iff.mpr h)]
  simp only [Bool.not_true, Bool.false_eq_true, if_false, bind, Except.bind]
  cases a.substitute t old new with
  | error e => rfl
  | ok found => cases found <;> rfl

theorem examine_eq_ok (h : a.examine root d old new = .ok f) :
    (d.pathExists (a.fullPath root) = false ∧ f = .problem .notFound) ∨
      ∃ t, d.lookup (a.fullPath root) = .ok (.file (.text t)) ∧ a.findingIn old new t = .ok f := by
  cases he : d.pathExists (a.fullPath root) with
  | false =>
    rw [examine_of_missing he] at h
    exact Or.inl ⟨rfl, (Except.ok.inj h).symm⟩
  | true =>
    refine Or.inr ?_
    cases ht : ofDisk (d.readText (a.fullPath root)) with
    | error e =>
      unfold examine at h
      rw [he, ht] at h
      exact absurd h (by simp [bind, Except.bind])
    | ok t =>
      have hl := readText_eq_ok_iff.mp (ofDisk_eq_ok_iff.mp ht)
      exact ⟨t, hl, examine_of_text hl ▸ h⟩

theorem findingIn_eq_ok (h : a.findingIn old new t = .ok f) :
    f = .problem .notMatched ∨ ∃ after, f = .found t after := by
  obtain ⟨found, -, rfl⟩ := map_eq_ok_iff.mp h
  cases found with
  | none => exact Or.inl rfl
  | some after => exact Or.inr ⟨after, rfl⟩

theorem findingIn_ne_notFound (h : a.findingIn old new t = .ok f) : f ≠ .problem .notFound := by
  rcases findingIn_eq_ok h with rfl | ⟨after, rfl⟩ <;> simp

/-- Whether an artifact can be looked for does not depend on the text. -/
theorem exists_substitute {found : Option Substitution} (h : a.substitute t old new = .ok found)
    (t' : String) : ∃ found', a.substitute t' old new = .ok found' := by
  unfold substitute at h ⊢
  cases hm : a.matcher with
  | literal => exact ⟨_, rfl⟩
  | regex =>
    simp only [hm] at h ⊢
    cases hc : Regex.compile (regexPattern a.search.toList old.text.toList) with
    | error defect =>
      rw [hc] at h
      exact absurd h (by simp)
    | ok p => exact ⟨_, rfl⟩

theorem exists_findingIn (h : a.findingIn old new t = .ok f) (t' : String) :
    ∃ f', a.findingIn old new t' = .ok f' := by
  unfold findingIn at h ⊢
  obtain ⟨found, hfound, -⟩ := map_eq_ok_iff.mp h
  obtain ⟨found', hfound'⟩ := exists_substitute hfound t'
  rw [hfound']
  exact ⟨_, rfl⟩

/-- A rewritten file can still be examined. -/
theorem exists_examine (h : Rewrote S d d') (hf : a.examine root d old new = .ok f) :
    ∃ f', a.examine root d' old new = .ok f' ∧
      (f' = .problem .notFound ↔ f = .problem .notFound) := by
  rcases examine_eq_ok hf with ⟨he, rfl⟩ | ⟨t, hl, hfind⟩
  · exact ⟨_, examine_of_missing (h.pathExists_eq.trans he), Iff.rfl⟩
  · obtain ⟨t', hl'⟩ := h.text hl
    obtain ⟨f', hf'⟩ := exists_findingIn hfind t'
    exact ⟨f', (examine_of_text hl').trans hf',
      iff_of_false (findingIn_ne_notFound hf') (findingIn_ne_notFound hfind)⟩

/-- In a file that is not rewritten, the same is found. -/
theorem examine_eq (h : Rewrote S d d') (hS : ¬ S (Path.place (a.fullPath root)))
    (hf : a.examine root d old new = .ok f) : a.examine root d' old new = .ok f := by
  rcases examine_eq_ok hf with ⟨he, rfl⟩ | ⟨t, hl, hfind⟩
  · exact examine_of_missing (h.pathExists_eq.trans he)
  · rw [examine_of_text ((h.wrote.lookup_eq_ok_iff hS).mpr hl), hfind]

end Artifact

/-! ## Updating -/

/-- What becomes of an artifact in which something was found. -/
def Finding.outcome : Finding → ArtifactOutcome
  | .problem p => .failed p
  | .found before after => if after.text = before then .unchanged else .updated after.count

/-- An artifact, with what was found in it and what became of it. -/
structure UpdateRow where
  artifact : Artifact
  finding : Finding
  outcome : ArtifactOutcome

namespace UpdateRow

/-- The row of a report. -/
def result (r : UpdateRow) : ArtifactResult := ⟨r.artifact.path, r.artifact.optional, r.outcome⟩

/-- The place of the artifact. -/
def place (root : String) (r : UpdateRow) : Place := Path.place (r.artifact.fullPath root)

/-- What an update of one artifact does. -/
structure Holds (root : String) (old new : Version) (r : UpdateRow) (d d' : Disk) : Prop where
  /-- The artifact has been examined first. -/
  examined : r.artifact.examine root d old new = .ok r.finding
  /-- What was found decides the outcome. -/
  outcome_eq : r.outcome = r.finding.outcome
  /-- It rewrites no other file. -/
  rewrote : Rewrote (fun q => r.result.isUpdated = true ∧ r.place root = q) d d'
  /-- It brings the text that was found to the new one. -/
  text : ∀ before after, r.finding = .found before after →
    d.lookup (r.artifact.fullPath root) = .ok (.file (.text before)) ∧
      d'.lookup (r.artifact.fullPath root) = .ok (.file (.text after.text))

/-- An artifact fails with the problem that was found. -/
theorem Holds.failed_iff {r : UpdateRow} (h : r.Holds root old new d d')
    (problem : ArtifactProblem) : r.outcome = .failed problem ↔ r.finding = .problem problem := by
  rw [h.outcome_eq]
  cases r.finding with
  | problem p => simp [Finding.outcome]
  | found before after =>
    simp only [Finding.outcome]
    split <;> simp

end UpdateRow

theorem Artifact.lookup_of_found {before : String} {after : Substitution}
    (h : a.examine root d old new = .ok (.found before after)) :
    d.lookup (a.fullPath root) = .ok (.file (.text before)) := by
  rcases examine_eq_ok h with ⟨-, hf⟩ | ⟨t, hl, hfind⟩
  · exact absurd hf (by simp)
  · rcases findingIn_eq_ok hfind with hf | ⟨after', hf⟩
    · exact absurd hf (by simp)
    · rwa [(Finding.found.inj hf).1]

/-- An artifact that can be examined can be updated. -/
theorem Artifact.exists_update (h : a.examine root d old new = .ok f) :
    ∃ outcome d', a.update root d old new = .ok (outcome, d') ∧
      UpdateRow.Holds root old new ⟨a, f, outcome⟩ d d' := by
  unfold update
  rw [h]
  cases f with
  | problem p =>
    refine ⟨.failed p, d, rfl, h, rfl, Rewrote.refl _ d, fun before after hf => ?_⟩
    exact absurd hf (by simp)
  | found before after =>
    have hl := lookup_of_found h
    by_cases ht : after.text = before
    · refine ⟨.unchanged, d, if_pos ht, h, (if_pos ht).symm, Rewrote.refl _ d, fun b s hf => ?_⟩
      obtain ⟨rfl, rfl⟩ := Finding.found.inj hf
      exact ⟨hl, by rw [ht]; exact hl⟩
    · obtain ⟨d', hw, hrewrote, hl'⟩ := exists_write hl after.text
      refine ⟨.updated after.count, d', ?_, h, (if_neg ht).symm, ?_, fun b s hf => ?_⟩
      · simp only [if_neg ht, hw]
        rfl
      · exact hrewrote.mono fun q hq => ⟨rfl, hq.symm⟩
      · obtain ⟨rfl, rfl⟩ := Finding.found.inj hf
        exact ⟨hl, hl'⟩

/-! ## One after the other -/

/-- The artifacts are updated one after the other. -/
inductive Updates (root : String) (old new : Version) : Disk → List UpdateRow → Disk → Prop
  | done (d : Disk) : Updates root old new d [] d
  | next {d d₁ d' : Disk} {row : UpdateRow} {rows : List UpdateRow}
    (h : row.Holds root old new d d₁) (hrest : Updates root old new d₁ rows d') :
    Updates root old new d (row :: rows) d'

namespace Updates

variable {rows front back : List UpdateRow} {row : UpdateRow}

/-- A place of an artifact that was written back. -/
def Written (root : String) (rows : List UpdateRow) (q : Place) : Prop :=
  ∃ row ∈ rows, row.result.isUpdated = true ∧ row.place root = q

theorem rewrote (h : Updates root old new d rows d') : Rewrote (Written root rows) d d' := by
  induction h with
  | done d => exact Rewrote.refl _ d
  | next h _ ih =>
    refine Rewrote.trans (h.rewrote.mono fun q hq => ?_) (ih.mono fun q hq => ?_)
    · exact ⟨_, List.mem_cons_self, hq⟩
    · obtain ⟨row, hm, hq⟩ := hq
      exact ⟨row, List.mem_cons_of_mem _ hm, hq⟩

/-- Every artifact is updated after those before it, and before those after it. -/
theorem split (h : Updates root old new d (front ++ row :: back) d') :
    ∃ d₁ d₂, Updates root old new d front d₁ ∧ row.Holds root old new d₁ d₂ ∧
      Updates root old new d₂ back d' := by
  induction front generalizing d with
  | nil =>
    cases h with
    | next h hrest => exact ⟨d, _, .done d, h, hrest⟩
  | cons first front ih =>
    cases h with
    | next h hrest =>
      obtain ⟨d₁, d₂, hfront, hrow, hback⟩ := ih hrest
      exact ⟨d₁, d₂, .next h hfront, hrow, hback⟩

/-- An artifact that was written back has a path that leads to it from the start. -/
theorem leads (h : Updates root old new d rows d') (hm : row ∈ rows)
    (hu : row.result.isUpdated = true) : d.Leads (row.artifact.fullPath root) := by
  obtain ⟨front, back, rfl⟩ := List.append_of_mem hm
  obtain ⟨d₁, d₂, hfront, hrow, -⟩ := h.split
  refine hfront.rewrote.wrote.leads_iff.mp ?_
  cases hf : row.finding with
  | problem problem =>
    have ho := (hrow.failed_iff problem).mpr hf
    unfold ArtifactResult.isUpdated UpdateRow.result at hu
    rw [ho] at hu
    exact absurd hu (by simp)
  | found before after => exact (lookup_eq_ok_iff.mp (hrow.text before after hf).1).1

end Updates

theorem Artifacts.apply_cons (root : String) (old new : Version) (a : Artifact)
    (artifacts : List Artifact) (d : Disk) :
    Artifacts.apply root old new (a :: artifacts) d =
      match a.update root d old new with
      | .error e => (.error e, d)
      | .ok (outcome, d) =>
        ((Artifacts.apply root old new artifacts d).1.map fun r =>
          ⟨⟨a.path, a.optional, outcome⟩ :: r.results⟩,
          (Artifacts.apply root old new artifacts d).2) := (rfl)

/-- **Artifacts that can all be examined** can all be updated. -/
theorem Artifacts.exists_updates {artifacts : List Artifact} (h : Rewrote S d d₁)
    (hex : ∀ a ∈ artifacts, ∃ f, a.examine root d old new = .ok f) :
    ∃ rows d', Updates root old new d₁ rows d' ∧ rows.map UpdateRow.artifact = artifacts ∧
      Artifacts.apply root old new artifacts d₁ = (.ok ⟨rows.map UpdateRow.result⟩, d') := by
  induction artifacts generalizing S d₁ with
  | nil => exact ⟨[], d₁, .done d₁, rfl, rfl⟩
  | cons a artifacts ih =>
    obtain ⟨f, hf⟩ := hex a List.mem_cons_self
    -- what was examined at the start can still be examined on what the others have left
    obtain ⟨f', hf', -⟩ := Artifact.exists_examine h hf
    obtain ⟨outcome, d₂, hu, hrow⟩ := Artifact.exists_update hf'
    have hrewrote : Rewrote (fun _ => True) d d₂ :=
      (h.mono fun _ _ => trivial).trans (hrow.rewrote.mono fun _ _ => trivial)
    obtain ⟨rows, d', hrows, hmap, happly⟩ :=
      ih hrewrote fun b hb => hex b (List.mem_cons_of_mem a hb)
    refine ⟨⟨a, f', outcome⟩ :: rows, d', .next hrow hrows, by rw [List.map_cons, hmap], ?_⟩
    rw [Artifacts.apply_cons, hu]
    simp only [happly]
    rfl

end Slipway
