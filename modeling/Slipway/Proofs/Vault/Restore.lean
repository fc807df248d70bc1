import Slipway.Proofs.Vault.Capture

/-!
# What a restoration does

About `BackupVault::restore` (`keel_core::backup`). `Vault.restore` copies back exactly the entries
whose slot is still there and whose path accepts a file. Its report lists them as restored, and as
failed those whose slot is there but whose path accepts none (`restoreAll_restored`). An entry whose
slot is gone is listed as skipped, like a path at which nothing stood, so a restoration may count as
complete although files are missing: `restore_completeOrReported_iff` tells exactly when it may not.
-/

namespace Slipway

/-- The slot of an entry is still there. -/
def CapturedPath.Kept (e : CapturedPath) (d : Disk) : Prop :=
  ∃ slot, e.slot = some slot ∧ d.pathExists slot = true

end Slipway

namespace Slipway.Vault

open Disk

variable {e : CapturedPath} {entries : List CapturedPath} {slot : String}
variable {d d₁ d' : Disk} {c : Content} {out : RestoreReport × Disk}

/-! ## One entry -/

/-- An entry that can be copied back. -/
def Returns (d : Disk) (e : CapturedPath) : Prop := e.Kept d ∧ d.Accepts e.path

/-- An entry that still has its slot, but whose path accepts no file. -/
def Refused (d : Disk) (e : CapturedPath) : Prop := e.Kept d ∧ ¬ d.Accepts e.path

theorem restoreOne_of_not_kept (h : ¬ e.Kept d) :
    restoreOne e d = (fun r => { r with skipped := e.path :: r.skipped }, d) := by
  unfold restoreOne
  cases hs : e.slot with
  | none => rfl
  | some slot =>
    have hp : d.pathExists slot = false := by
      rw [← Bool.not_eq_true]
      exact fun hp => h ⟨slot, hs, hp⟩
    simp only [hp, Bool.not_false, if_true]

theorem restoreOne_of_file (hs : e.slot = some slot) (hl : d.lookup slot = .ok (.file c)) :
    restoreOne e d =
      match d.write e.path c with
      | .ok d' => (fun r => { r with restored := e.path :: r.restored }, d')
      | .error cause => (fun r => { r with failed := (e.path, cause.message) :: r.failed }, d) := by
  have hp : d.pathExists slot = true := by
    unfold pathExists
    rw [hl]
    rfl
  have hc : d.copy slot e.path = d.write e.path c := by
    unfold copy
    rw [hl]
    rfl
  cases hw : d.write e.path c with
  | ok d' => simp [restoreOne, hs, hp, hc, hw]
  | error cause => simp [restoreOne, hs, hp, hc, hw]

/-! ## The whole report -/

/-- Something is copied back to a place. -/
def Back (entries : List CapturedPath) (d : Disk) (q : Place) : Prop :=
  ∃ e ∈ entries, Returns d e ∧ Path.place e.path = q

/-- A restoration: its report lists what could be copied back and what could not, and these places
hold again what they held on the earlier disk `d₁`. -/
structure Restored (entries : List CapturedPath) (d₁ d : Disk) (out : RestoreReport × Disk) :
    Prop where
  restored_iff : ∀ t, t ∈ out.1.restored ↔ ∃ e ∈ entries, Returns d e ∧ e.path = t
  failed_iff : ∀ t, t ∈ out.1.failed.map Prod.fst ↔ ∃ e ∈ entries, Refused d e ∧ e.path = t
  back : ∀ q, Back entries d q → out.2.at? q = d₁.at? q
  rest : ∀ q, ¬ Back entries d q → out.2.at? q = d.at? q

/-- The slots that are still there hold what they held on an earlier disk. -/
def SlotsKept (entries : List CapturedPath) (d₁ d : Disk) : Prop :=
  ∀ e ∈ entries, ∀ slot, e.slot = some slot → d.pathExists slot = true →
    d.lookup slot = d₁.lookup slot

theorem Restored.skip (hk : ¬ e.Kept d) (h : Restored entries d₁ d out) :
    Restored (e :: entries) d₁ d ({ out.1 with skipped := e.path :: out.1.skipped }, out.2) := by
  have hreturns : ¬ Returns d e := fun h => hk h.1
  have hrefused : ¬ Refused d e := fun h => hk h.1
  have hback : ∀ q, Back (e :: entries) d q ↔ Back entries d q := fun q => by
    simp [Back, hreturns]
  refine ⟨fun t => ?_, fun t => ?_, fun q hq => h.back q ((hback q).mp hq),
    fun q hq => h.rest q fun h => hq ((hback q).mpr h)⟩
  · simpa [hreturns] using h.restored_iff t
  · simpa [hrefused] using h.failed_iff t

theorem Restored.fail (hr : Refused d e) (reason : String) (h : Restored entries d₁ d out) :
    Restored (e :: entries) d₁ d
      ({ out.1 with failed := (e.path, reason) :: out.1.failed }, out.2) := by
  have hreturns : ¬ Returns d e := fun h => hr.2 h.2
  have hback : ∀ q, Back (e :: entries) d q ↔ Back entries d q := fun q => by
    simp [Back, hreturns]
  refine ⟨fun t => ?_, fun t => ?_, fun q hq => h.back q ((hback q).mp hq),
    fun q hq => h.rest q fun h => hq ((hback q).mpr h)⟩
  · simpa [hreturns] using h.restored_iff t
  · rw [List.map_cons, List.mem_cons, h.failed_iff]
    simp [hr, eq_comm]

theorem Restored.copy (hr : Returns d e) (hw : d.write e.path c = .ok d')
    (hc : d₁.at? (Path.place e.path) = some (.file c))
    (hkept : ∀ e' ∈ entries, e'.Kept d' ↔ e'.Kept d) (h : Restored entries d₁ d' out) :
    Restored (e :: entries) d₁ d
      ({ out.1 with restored := e.path :: out.1.restored }, out.2) := by
  obtain ⟨hwrote, hat⟩ := wrote_of_write hw
  have hreturns : ∀ e' ∈ entries, Returns d' e' ↔ Returns d e' := fun e' he => by
    unfold Returns
    rw [hkept e' he, hwrote.accepts_iff]
  have hrefused : ∀ e' ∈ entries, Refused d' e' ↔ Refused d e' := fun e' he => by
    unfold Refused
    rw [hkept e' he, hwrote.accepts_iff]
  have hnot : ¬ Refused d e := fun h => h.2 hr.2
  have hback : ∀ q, Back (e :: entries) d q ↔ Path.place e.path = q ∨ Back entries d' q := by
    intro q
    unfold Back
    simp only [List.mem_cons, exists_eq_or_imp, hr, true_and]
    exact or_congr_right (exists_congr fun e' => and_congr_right fun he =>
      and_congr_left' (hreturns e' he).symm)
  refine ⟨fun t => ?_, fun t => ?_, fun q hq => ?_, fun q hq => ?_⟩
  · rw [List.mem_cons, h.restored_iff, eq_comm (a := t)]
    simp only [List.mem_cons, exists_eq_or_imp, hr, true_and]
    exact or_congr_right (exists_congr fun e' => and_congr_right fun he =>
      and_congr_left' (hreturns e' he))
  · rw [h.failed_iff]
    simp only [List.mem_cons, exists_eq_or_imp, hnot, false_and, false_or]
    exact exists_congr fun e' => and_congr_right fun he => and_congr_left' (hrefused e' he)
  · by_cases hb : Back entries d' q
    · exact h.back q hb
    · rcases (hback q).mp hq with rfl | hq
      · rw [h.rest _ hb, hat, hc]
      · exact absurd hq hb
  · have hb : ¬ Back entries d' q := fun h => hq ((hback q).mpr (Or.inr h))
    have hne : q ≠ Path.place e.path := fun h => hq ((hback q).mpr (Or.inl h.symm))
    rw [h.rest q hb, hwrote.at?_eq hne]

theorem Secured.tail (h : Secured (e :: entries) d) : Secured entries d :=
  ⟨fun e' he => h.saved e' (List.mem_cons_of_mem e he), (List.pairwise_cons.mp h.apart).2⟩

theorem SlotsKept.tail (h : SlotsKept (e :: entries) d₁ d) : SlotsKept entries d₁ d :=
  fun e' he => h e' (List.mem_cons_of_mem e he)

/-- Copying an entry back keeps the slots of the entries after it. -/
theorem pathExists_later_iff (hsec : Secured (e :: entries) d₁) (hs : e.slot = some slot)
    (hw : d.write e.path c = .ok d') {e' : CapturedPath} (he : e' ∈ entries) {slot' : String}
    (hs' : e'.slot = some slot') : d'.pathExists slot' = true ↔ d.pathExists slot' = true :=
  (wrote_of_write hw).1.pathExists_iff
    ((List.pairwise_cons.mp hsec.apart).1 e' he slot slot' hs hs').symm

theorem kept_iff_of_write (hsec : Secured (e :: entries) d₁) (hs : e.slot = some slot)
    (hw : d.write e.path c = .ok d') {e' : CapturedPath} (he : e' ∈ entries) :
    e'.Kept d' ↔ e'.Kept d := by
  constructor
  · rintro ⟨slot', hs', hp'⟩
    exact ⟨slot', hs', (pathExists_later_iff hsec hs hw he hs').mp hp'⟩
  · rintro ⟨slot', hs', hp'⟩
    exact ⟨slot', hs', (pathExists_later_iff hsec hs hw he hs').mpr hp'⟩

theorem SlotsKept.write (hkept : SlotsKept (e :: entries) d₁ d) (hsec : Secured (e :: entries) d₁)
    (hs : e.slot = some slot) (hw : d.write e.path c = .ok d') : SlotsKept entries d₁ d' := by
  intro e' he slot' hs' hp'
  have hp := (pathExists_later_iff hsec hs hw he hs').mp hp'
  obtain ⟨c', hslot', -⟩ := hsec.saved e' (List.mem_cons_of_mem e he) slot' hs'
  have hl' := hkept e' (List.mem_cons_of_mem e he) slot' hs' hp
  rw [hslot'] at hl' ⊢
  exact ((wrote_of_write hw).1.lookup_eq_ok_iff
    ((List.pairwise_cons.mp hsec.apart).1 e' he slot slot' hs hs').symm).mpr hl'

theorem restoreAll_cons (e : CapturedPath) (entries : List CapturedPath) (d : Disk) :
    restoreAll (e :: entries) d = ((restoreOne e d).1 (restoreAll entries (restoreOne e d).2).1,
      (restoreAll entries (restoreOne e d).2).2) :=
  rfl

/-- An entry that is kept has its content in its slot. -/
theorem SlotsKept.lookup (hkept : SlotsKept entries d₁ d) (hsec : Secured entries d₁)
    (he : e ∈ entries) (hk : e.Kept d) : ∃ slot c, e.slot = some slot ∧
      d.lookup slot = .ok (.file c) ∧ d₁.lookup e.path = .ok (.file c) := by
  obtain ⟨slot, hs, hp⟩ := hk
  obtain ⟨c, hslot, hpath⟩ := hsec.saved e he slot hs
  exact ⟨slot, c, hs, (hkept e he slot hs hp).trans hslot, hpath⟩

/-- **A restoration copies back** every entry whose slot is there and whose path accepts a file. -/
theorem restoreAll_restored (hsec : Secured entries d₁) (hkept : SlotsKept entries d₁ d) :
    Restored entries d₁ d (restoreAll entries d) := by
  induction entries generalizing d with
  | nil => exact ⟨by simp [restoreAll, RestoreReport.empty],
      by simp [restoreAll, RestoreReport.empty], by simp [Back], fun _ _ => rfl⟩
  | cons e entries ih =>
    rw [restoreAll_cons]
    by_cases hk : e.Kept d
    · obtain ⟨slot, c, hs, hl, hpath⟩ := hkept.lookup hsec List.mem_cons_self hk
      rw [restoreOne_of_file hs hl]
      cases hw : d.write e.path c with
      | ok d' =>
        have ha := (write_eq_ok_iff.mp hw).1
        exact (ih hsec.tail (hkept.write hsec hs hw)).copy ⟨hk, ha⟩ hw
          (lookup_eq_ok_iff.mp hpath).2 fun e' he => kept_iff_of_write hsec hs hw he
      | error cause =>
        refine (ih hsec.tail hkept.tail).fail ⟨hk, fun ha => ?_⟩ cause.message
        rw [write_eq_ok_iff.mpr ⟨ha, rfl⟩] at hw
        exact absurd hw (by simp)
    · rw [restoreOne_of_not_kept hk]
      exact (ih hsec.tail hkept.tail).skip hk

/-- Without any slot, every entry is skipped. -/
theorem restoreAll_of_not_kept (h : ∀ e ∈ entries, ¬ e.Kept d) :
    restoreAll entries d = (⟨[], entries.map (·.path), []⟩, d) := by
  induction entries with
  | nil => rfl
  | cons e entries ih =>
    rw [restoreAll_cons, restoreOne_of_not_kept (h e List.mem_cons_self),
      ih fun e' he => h e' (List.mem_cons_of_mem e he)]
    rfl

/-- If all entries with a slot can be copied back, the report lists them as restored and the others
as skipped, in their order. -/
theorem restoreAll_report (hsec : Secured entries d₁) (hkept : SlotsKept entries d₁ d)
    (h : ∀ e ∈ entries, e.slot ≠ none → Returns d e) :
    (restoreAll entries d).1 = ⟨(entries.filter (·.slot.isSome)).map (·.path),
      (entries.filter (·.slot.isNone)).map (·.path), []⟩ := by
  induction entries generalizing d with
  | nil => rfl
  | cons e entries ih =>
    rw [restoreAll_cons]
    cases hs : e.slot with
    | none =>
      have hk : ¬ e.Kept d := by
        rintro ⟨slot, hslot, -⟩
        rw [hs] at hslot
        exact absurd hslot (by simp)
      rw [restoreOne_of_not_kept hk]
      simp only [ih hsec.tail hkept.tail fun e' he => h e' (List.mem_cons_of_mem e he),
        List.filter_cons, hs, Option.isSome_none, Option.isNone_none, if_true, Bool.false_eq_true,
        if_false, List.map_cons]
    | some slot =>
      obtain ⟨hk, ha⟩ := h e List.mem_cons_self (by simp [hs])
      obtain ⟨slot', c, hs', hl, -⟩ := hkept.lookup hsec List.mem_cons_self hk
      have hw : d.write e.path c = .ok (d.put (Path.place e.path) (.file c)) :=
        write_eq_ok_iff.mpr ⟨ha, rfl⟩
      have hlater : ∀ e' ∈ entries, e'.slot ≠ none →
          Returns (d.put (Path.place e.path) (.file c)) e' := by
        intro e' he hs''
        obtain ⟨hk', ha'⟩ := h e' (List.mem_cons_of_mem e he) hs''
        exact ⟨(kept_iff_of_write hsec hs' hw he).mpr hk',
          (wrote_of_write hw).1.accepts_iff.mpr ha'⟩
      rw [restoreOne_of_file hs' hl, hw]
      simp only [ih hsec.tail (hkept.write hsec hs' hw) hlater, List.filter_cons, hs,
        Option.isSome_some, Option.isNone_some, if_true, Bool.false_eq_true, if_false,
        List.map_cons]

/-! ## Complete or reported -/

/-- Only files are copied back, and only to places that held one when they were captured. -/
theorem Restored.wrote (hsec : Secured entries d₁) (h : Restored entries d₁ d out) :
    Wrote (Back entries d) d out.2 := by
  intro q
  by_cases hq : Back entries d q
  · obtain ⟨e, he, ⟨⟨slot, hs, -⟩, ha⟩, hplace⟩ := id hq
    obtain ⟨c, -, hl⟩ := hsec.saved e he slot hs
    rw [← hplace] at hq ⊢
    refine Or.inr ⟨hq, ha.free, c, ?_⟩
    rw [h.back _ hq]
    exact (lookup_eq_ok_iff.mp hl).2
  · exact Or.inl (h.rest q hq)

/-- An entry that was copied back is found at its path again. -/
theorem Restored.lookup (hsec : Secured entries d₁) (h : Restored entries d₁ d out)
    (he : e ∈ entries) (hr : Returns d e) (hl : d₁.lookup e.path = .ok (.file c)) :
    out.2.lookup e.path = .ok (.file c) := by
  rw [lookup_eq_ok_iff] at hl ⊢
  refine ⟨(h.wrote hsec).leads_iff.mpr hr.2.leads, ?_⟩
  rw [h.back _ ⟨e, he, hr, rfl⟩, hl.2]

/-- The captured content of an entry is the one that stood at its path. -/
theorem Secured.lookup_path (h : Secured entries d) (he : e ∈ entries) (hs : e.slot = some slot)
    (hl : d.lookup slot = .ok (.file c)) : d.lookup e.path = .ok (.file c) := by
  obtain ⟨c', hslot, hpath⟩ := h.saved e he slot hs
  rw [hl] at hslot
  rw [hpath, ← Entry.file.inj (Except.ok.inj hslot)]

/-- What is asked of a restoration, given the disk right after the capture: if it counts as
complete, every entry with a slot holds its captured content again; and every such entry is listed
as restored, and holds its content, or as failed. -/
structure CompleteOrReported (set : BackupSet) (d₁ : Disk) (out : RestoreReport × Disk) :
    Prop where
  complete : out.1.complete = true → ∀ e ∈ set.paths, ∀ slot c, e.slot = some slot →
    d₁.lookup slot = .ok (.file c) → out.2.lookup e.path = .ok (.file c)
  reported : ∀ e ∈ set.paths, ∀ slot c, e.slot = some slot → d₁.lookup slot = .ok (.file c) →
    (e.path ∈ out.1.restored ∧ out.2.lookup e.path = .ok (.file c)) ∨
      e.path ∈ out.1.failed.map Prod.fst

theorem Restored.mem_report_iff (h : Restored entries d₁ d out) (t : String) :
    t ∈ out.1.restored ∨ t ∈ out.1.failed.map Prod.fst ↔
      ∃ e ∈ entries, e.path = t ∧ e.Kept d := by
  rw [h.restored_iff, h.failed_iff]
  constructor
  · rintro (⟨e, he, hr, hp⟩ | ⟨e, he, hr, hp⟩)
    · exact ⟨e, he, hp, hr.1⟩
    · exact ⟨e, he, hp, hr.1⟩
  · rintro ⟨e, he, hp, hk⟩
    by_cases ha : d.Accepts e.path
    · exact Or.inl ⟨e, he, ⟨hk, ha⟩, hp⟩
    · exact Or.inr ⟨e, he, ⟨hk, ha⟩, hp⟩

/-- A restoration that counts as complete copied back every entry that still had its slot. -/
theorem Restored.returns_of_complete (h : Restored entries d₁ d out) (hc : out.1.complete = true)
    (he : e ∈ entries) (hk : e.Kept d) : Returns d e := by
  refine ⟨hk, Classical.byContradiction fun ha => ?_⟩
  have hmem : e.path ∈ out.1.failed.map Prod.fst :=
    (h.failed_iff e.path).mpr ⟨e, he, ⟨hk, ha⟩, rfl⟩
  unfold RestoreReport.complete at hc
  rw [List.isEmpty_iff.mp hc] at hmem
  exact absurd hmem (by simp)

/-- **A restoration is complete or reported exactly if no slot is lost**, where the slot of another
entry of the same path will do. The captured content is the one that stood at the path. -/
theorem restore_completeOrReported_iff {dir : String} {paths : List String} {d₀ d₁ d₂ : Disk}
    {set : BackupSet} (hcap : capture dir paths d₀ = (.ok set, d₁)) (hapart : Apart dir paths d₀)
    (hkept : SlotsKept set.paths d₁ d₂) :
    (∀ e ∈ set.paths, ∀ slot, e.slot = some slot →
      ∃ c, d₁.lookup slot = .ok (.file c) ∧ d₁.lookup e.path = .ok (.file c)) ∧
    (CompleteOrReported set d₁ (restore set d₂) ↔
      ∀ e ∈ set.paths, ∀ slot, e.slot = some slot →
        ∃ e' ∈ set.paths, e'.path = e.path ∧ e'.Kept d₂) := by
  have hsec := (capture_ok hapart hcap).copied.secured
  have hres : Restored set.paths d₁ d₂ (restore set d₂) := restoreAll_restored hsec hkept
  refine ⟨hsec.saved, fun h e he slot hs => ?_, fun h => ⟨fun hc e he slot c hs hl => ?_,
    fun e he slot c hs hl => ?_⟩⟩
  · obtain ⟨c, hl, -⟩ := hsec.saved e he slot hs
    exact (hres.mem_report_iff e.path).mp ((h.reported e he slot c hs hl).imp_left And.left)
  · obtain ⟨e', he', hpath, hk⟩ := h e he slot hs
    rw [← hpath]
    exact hres.lookup hsec he' (hres.returns_of_complete hc he' hk)
      (hpath ▸ hsec.lookup_path he hs hl)
  · refine ((hres.mem_report_iff e.path).mpr (h e he slot hs)).imp_left fun hr => ⟨hr, ?_⟩
    obtain ⟨e', he', hret, hpath⟩ := (hres.restored_iff e.path).mp hr
    rw [← hpath]
    exact hres.lookup hsec he' hret (hpath ▸ hsec.lookup_path he hs hl)

/-- A disk with one file. -/
def oneFile : Disk := ⟨[(["notes"], .file (.text "old"))]⟩

/-- The set of its capture. -/
def oneFileSet : BackupSet := ⟨"vault", [⟨"notes", some "vault/00-notes"⟩]⟩

/-- The disk after its capture. -/
def oneFileSaved : Disk := (capture "vault" ["notes"] oneFile).2

theorem capture_oneFile : capture "vault" ["notes"] oneFile = (.ok oneFileSet, oneFileSaved) :=
  pair_of_fst (ok_of_toOption (by decide +kernel))

theorem lookup_oneFileSaved :
    oneFileSaved.lookup "vault/00-notes" = .ok (.file (.text "old")) :=
  ok_of_toOption (by decide +kernel)

theorem apart_oneFile : Apart "vault" ["notes"] oneFile := by
  intro t ht hp
  rw [List.mem_singleton.mp ht] at hp
  exact absurd hp (by decide)

theorem restore_complete_overwritten :
    let d₂ := oneFileSaved.put ["notes"] (.file (.text "new"))
    capture "vault" ["notes"] oneFile = (.ok oneFileSet, oneFileSaved) ∧
    Apart "vault" ["notes"] oneFile ∧ SlotsKept oneFileSet.paths oneFileSaved d₂ ∧
    (CompleteOrReported oneFileSet oneFileSaved (restore oneFileSet d₂) ↔
      ∀ e ∈ oneFileSet.paths, ∀ slot, e.slot = some slot →
        ∃ e' ∈ oneFileSet.paths, e'.path = e.path ∧ e'.Kept d₂) := by
  have hkept : SlotsKept oneFileSet.paths oneFileSaved
      (oneFileSaved.put ["notes"] (.file (.text "new"))) := by
    intro e he slot hs _
    rw [List.mem_singleton.mp he] at hs
    rw [← Option.some.inj hs, lookup_oneFileSaved]
    exact ok_of_toOption (by decide +kernel)
  exact ⟨capture_oneFile, apart_oneFile, hkept,
    (restore_completeOrReported_iff capture_oneFile apart_oneFile hkept).2⟩

/-- A restoration after the slot and the new content are lost counts as complete. -/
theorem restore_not_completeOrReported :
    let d₂ := (oneFileSaved.put ["notes"] (.file (.text "new"))).cut ["vault", "00-notes"]
    capture "vault" ["notes"] oneFile = (.ok oneFileSet, oneFileSaved) ∧
    SlotsKept oneFileSet.paths oneFileSaved d₂ ∧
    (restore oneFileSet d₂).1 = ⟨[], ["notes"], []⟩ ∧
    ¬ CompleteOrReported oneFileSet oneFileSaved (restore oneFileSet d₂) := by
  refine ⟨capture_oneFile, fun e he slot hs hp => ?_, by decide +kernel, fun h => ?_⟩
  · rw [List.mem_singleton.mp he] at hs
    rw [← Option.some.inj hs] at hp
    exact absurd hp (by decide +kernel)
  · have hl := h.complete (by decide +kernel) _ List.mem_cons_self _ _ rfl lookup_oneFileSaved
    exact absurd (congrArg Except.toOption hl) (by decide +kernel)

end Slipway.Vault
