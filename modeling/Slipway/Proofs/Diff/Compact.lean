import Slipway.Diff.Compact
import Slipway.Proofs.Diff.Script

/-!
# Compact scripts lead to the same sequence

A script that is taken apart at a place is rewritten from that place on (`Applies.rewrite`). Every
move of a run is such a rewriting: runs of different kinds are passed, runs of one kind are joined,
and an inserted run slides over kept lines that it ends with (`applies_slide_up`) or begins with
(`applies_slide_down`). So what `compact` makes of a script still leads from the old sequence to
the new one (`compact_applies`).
-/

namespace Slipway.Diff

variable {α : Type} {s t before after after' : Script} {old new : List α} {e run run' : Edit}
  {k m n i j : Nat} {f : Focus}

namespace Script

/-! ## Rewriting behind a place -/

/-- The parts of a script apply to what is before a place and to what is behind it. -/
theorem applies_append_iff_drop : Applies (s ++ t) old new ↔
    Applies s (old.take (size Edit.oldCount s)) (new.take (size Edit.newCount s)) ∧
      Applies t (old.drop (size Edit.oldCount s)) (new.drop (size Edit.newCount s)) := by
  constructor
  · intro h
    obtain ⟨old₁, old₂, new₁, new₂, rfl, rfl, hs, ht⟩ := applies_append_iff.mp h
    rw [← hs.length_old, ← hs.length_new]
    simpa using And.intro hs ht
  · rintro ⟨hs, ht⟩
    have h := hs.append ht
    rwa [List.take_append_drop, List.take_append_drop] at h

/-- What is behind a place can be rewritten on its own. -/
theorem Applies.rewrite {r : Script} (h : Applies (r ++ s) old new)
    (hst : Applies s (old.drop (size Edit.oldCount r)) (new.drop (size Edit.newCount r)) →
      Applies t (old.drop (size Edit.oldCount r)) (new.drop (size Edit.newCount r))) :
    Applies (r ++ t) old new :=
  have hr := applies_append_iff_drop.mp h
  applies_append_iff_drop.mpr ⟨hr.1, hst hr.2⟩

/-! ## Neighbouring runs -/

theorem Applies.insert_delete (h : Applies (.delete m :: .insert n :: s) old new) :
    Applies (.insert n :: .delete m :: s) old new := by
  cases h with
  | delete h =>
    cases h with
    | insert h => exact .insert (.delete h)

theorem Applies.delete_insert (h : Applies (.insert m :: .delete n :: s) old new) :
    Applies (.delete n :: .insert m :: s) old new := by
  cases h with
  | insert h =>
    cases h with
    | delete h => exact .delete (.insert h)

theorem Applies.join_keep (h : Applies (.keep m :: .keep n :: s) old new) :
    Applies (.keep (m + n) :: s) old new := by
  cases h with
  | keep h =>
    cases h with
    | keep h =>
      rw [← List.length_append, ← List.append_assoc, ← List.append_assoc]
      exact .keep h

theorem Applies.join_delete (h : Applies (.delete m :: .delete n :: s) old new) :
    Applies (.delete (m + n) :: s) old new := by
  cases h with
  | delete h =>
    cases h with
    | delete h =>
      rw [← List.length_append, ← List.append_assoc]
      exact .delete h

theorem Applies.join_insert (h : Applies (.insert m :: .insert n :: s) old new) :
    Applies (.insert (m + n) :: s) old new := by
  cases h with
  | insert h =>
    cases h with
    | insert h =>
      rw [← List.length_append, ← List.append_assoc]
      exact .insert h

theorem Applies.of_keep_zero (h : Applies (.keep 0 :: s) old new) : Applies s old new := by
  generalize hz : 0 = z at h
  cases h with
  | keep h =>
    rw [List.eq_nil_of_length_eq_zero hz.symm]
    exact h

theorem Applies.consKeep (h : Applies (.keep k :: s) old new) :
    Applies (Diff.consKeep k s) old new := by
  unfold Diff.consKeep
  split
  case isTrue hk =>
    subst hk
    exact h.of_keep_zero
  case isFalse => exact h

theorem Applies.growKeep (h : Applies (.keep k :: s) old new) :
    Applies (Diff.growKeep k s) old new := by
  unfold Diff.growKeep
  split
  case h_1 m rest =>
    rw [Nat.add_comm]
    exact h.join_keep
  case h_2 => exact h

variable [DecidableEq α]

/-- An inserted run slides towards the start, over what it ends with. -/
theorem applies_slide_up (h : Applies (.keep m :: .insert n :: s) old new)
    (hk : commonEnd (old.take m) ((new.drop m).take n) = k) :
    k ≤ m ∧ Applies (.keep (m - k) :: .insert n :: .keep k :: s) old new := by
  cases h with
  | @keep _ kept old _ h =>
    cases h with
    | @insert _ inserted _ new h =>
      rw [List.take_left, List.drop_left, List.take_left] at hk
      obtain ⟨same, kept', inserted', rfl, rfl, hlen⟩ := exists_commonEnd kept inserted
      have hm : (kept' ++ same).length = kept'.length + k := by rw [List.length_append, hlen, hk]
      have hn : (inserted' ++ same).length = (same ++ inserted').length := by
        simp [Nat.add_comm]
      refine ⟨hm ▸ Nat.le_add_left .., ?_⟩
      rw [hm, hn, Nat.add_sub_cancel, ← hk, ← hlen]
      have hslid : Applies (.keep kept'.length :: .insert (same ++ inserted').length ::
          .keep same.length :: s) (kept' ++ (same ++ old))
          (kept' ++ ((same ++ inserted') ++ (same ++ new))) := .keep (.insert (.keep h))
      simpa using hslid

/-- An inserted run slides towards the end, over what it begins with. -/
theorem applies_slide_down (h : Applies (.insert n :: .keep m :: s) old new)
    (hk : commonStart (old.take m) (new.take n) = k) :
    k ≤ m ∧ Applies (.keep k :: .insert n :: .keep (m - k) :: s) old new := by
  cases h with
  | @insert _ inserted _ new h =>
    cases h with
    | @keep _ kept old new h =>
      rw [List.take_left, List.take_left] at hk
      obtain ⟨same, kept', inserted', rfl, rfl, hlen⟩ := exists_commonStart kept inserted
      have hm : (same ++ kept').length = k + kept'.length := by rw [List.length_append, hlen, hk]
      have hn : (same ++ inserted').length = (inserted' ++ same).length := by
        simp [Nat.add_comm]
      refine ⟨hm ▸ Nat.le_add_right .., ?_⟩
      rw [hm, hn, Nat.add_sub_cancel_left, ← hk, ← hlen]
      have hslid : Applies (.keep same.length :: .insert (inserted' ++ same).length ::
          .keep kept'.length :: s) (same ++ (kept' ++ old))
          (same ++ ((inserted' ++ same) ++ (kept' ++ new))) := .keep (.insert (.keep h))
      simpa using hslid

end Script

/-! ## The run in focus -/

/-- The whole script around a place. -/
def Focus.script (f : Focus) : Script := f.before.reverse ++ f.run :: f.after

/-- A place in a script that leads from one sequence to another, with its positions. -/
structure Focus.Fits (f : Focus) (old new : List α) : Prop where
  applies : f.script.Applies old new
  oldAt : f.oldAt = Script.size Edit.oldCount f.before
  newAt : f.newAt = Script.size Edit.newCount f.before

namespace Focus.Fits

open Script

/-- The run before the one in focus is taken into the part that is rewritten. -/
theorem up (h : Fits ⟨e :: before, run, after, i, j⟩ old new)
    (hs : ∀ {o w : List α}, Applies (e :: run :: after) o w → Applies (run' :: after') o w) :
    Fits ⟨before, run', after', i - e.oldCount, j - e.newCount⟩ old new := by
  obtain ⟨happ, hi, hj⟩ := h
  simp only [script, List.reverse_cons, List.append_assoc, List.singleton_append] at happ
  rw [size_cons] at hi
  rw [size_cons] at hj
  exact ⟨happ.rewrite hs, Nat.sub_eq_of_eq_add' hi, Nat.sub_eq_of_eq_add' hj⟩

/-- The part that is rewritten begins with a run that is left behind. -/
theorem down (h : Fits ⟨before, run, after, i, j⟩ old new)
    (hs : Applies (run :: after) (old.drop i) (new.drop j) →
      Applies (e :: run' :: after') (old.drop i) (new.drop j)) :
    Fits ⟨e :: before, run', after', i + e.oldCount, j + e.newCount⟩ old new := by
  have hi : i = size Edit.oldCount before := h.oldAt
  have hj : j = size Edit.newCount before := h.newAt
  subst hi hj
  rw [← size_reverse (s := before), ← size_reverse (s := before)] at hs
  exact ⟨by simpa [script] using h.applies.rewrite hs, Nat.add_comm .., Nat.add_comm ..⟩

theorem here (h : Fits ⟨before, run, after, i, j⟩ old new)
    (hs : ∀ {o w : List α}, Applies (run :: after) o w → Applies (run' :: after') o w) :
    Fits ⟨before, run', after', i, j⟩ old new :=
  ⟨h.applies.rewrite hs, h.oldAt, h.newAt⟩

theorem cast {i' j' : Nat} (h : Fits ⟨before, run, after, i, j⟩ old new) (hi : i = i')
    (hj : j = j') : Fits ⟨before, run, after, i', j'⟩ old new :=
  hi ▸ hj ▸ h

theorem consKeep (h : Fits ⟨.keep k :: before, run, after, i, j⟩ old new) :
    Fits ⟨Diff.consKeep k before, run, after, i, j⟩ old new := by
  unfold Diff.consKeep
  split
  case isTrue hk =>
    subst hk
    exact h.up Applies.of_keep_zero
  case isFalse => exact h

theorem growKeep (h : Fits ⟨.keep k :: before, run, after, i, j⟩ old new) :
    Fits ⟨Diff.growKeep k before, run, after, i, j⟩ old new := by
  unfold Diff.growKeep
  split
  case h_1 m rest =>
    have hi : i = k + (m + size Edit.oldCount rest) := h.oldAt
    have hj : j = k + (m + size Edit.newCount rest) := h.newAt
    refine ((h.up id).up id).down Applies.join_keep |>.cast ?_ ?_
    · show i - k - m + (m + k) = i
      omega
    · show j - k - m + (m + k) = j
      omega
  case h_2 => exact h

theorem behind (h : Fits ⟨before, run, after, i, j⟩ old new) :
    Applies (run :: after) (old.drop i) (new.drop j) := by
  have hi : i = size Edit.oldCount before := h.oldAt
  have hj : j = size Edit.newCount before := h.newAt
  rw [hi, hj, ← size_reverse (s := before), ← size_reverse (s := before)]
  exact (applies_append_iff_drop.mp h.applies).2

/-! ## Sliding one run -/

variable [DecidableEq α]

theorem slide_up (h : Fits ⟨.keep m :: before, .insert n, after, i, j⟩ old new)
    (hk : commonEnd (slice old (i - m) i) (slice new j (j + n)) = k) :
    Fits ⟨Diff.consKeep (m - k) before, .insert n, Diff.growKeep k after, i - k, j - k⟩
      old new := by
  have hi : i = m + size Edit.oldCount before := h.oldAt
  have hj : j = m + size Edit.newCount before := h.newAt
  have hup : Fits ⟨before, .keep m, .insert n :: after, i - m, j - m⟩ old new := h.up id
  have hk' : commonEnd ((old.drop (i - m)).take m) (((new.drop (j - m)).drop m).take n) = k := by
    rw [List.drop_drop, Nat.sub_add_cancel (by omega), ← hk, slice, slice,
      Nat.sub_sub_self (by omega), Nat.add_sub_cancel_left]
  have hle : k ≤ m := (applies_slide_up hup.behind hk').1
  -- the kept run is taken in and cut; its first part stays before the inserted run
  have hdown := hup.down fun happ => (applies_slide_up happ hk').2.rewrite
    (r := [.keep (m - k), .insert n]) Applies.growKeep
  refine hdown.consKeep.cast ?_ ?_
  · show i - m + (m - k) = i - k
    omega
  · show j - m + (m - k) = j - k
    omega

theorem slide_down (h : Fits ⟨before, .insert n, .keep m :: after, i, j⟩ old new)
    (hk : commonStart (slice old i (i + m)) (slice new j (j + n)) = k) :
    Fits ⟨Diff.growKeep k before, .insert n, Diff.consKeep (m - k) after, i + k, j + k⟩
      old new := by
  rw [slice, slice, Nat.add_sub_cancel_left, Nat.add_sub_cancel_left] at hk
  have hdown := h.down fun happ => (applies_slide_down happ hk).2.rewrite
    (r := [.keep k, .insert n]) Applies.consKeep
  exact hdown.growKeep

theorem slideUp (h : Fits f old new) (fuel : Nat) : Fits (Diff.slideUp old new fuel f) old new := by
  fun_induction Diff.slideUp old new fuel f with
  | case1 f => exact h
  | case2 fuel f m rest n hrun hbefore same hsame => exact h
  | case3 fuel f m rest n hrun hbefore same hsame ih =>
    obtain ⟨before, run, after, i, j⟩ := f
    subst hrun hbefore
    exact ih (h.slide_up rfl)
  | case4 fuel f m rest n hrun hbefore ih =>
    obtain ⟨before, run, after, i, j⟩ := f
    subst hrun hbefore
    exact ih (h.up Applies.insert_delete)
  | case5 fuel f m rest n hrun hbefore ih =>
    obtain ⟨before, run, after, i, j⟩ := f
    subst hrun hbefore
    exact ih (h.up Applies.delete_insert)
  | case6 fuel f m rest n hrun hbefore ih =>
    obtain ⟨before, run, after, i, j⟩ := f
    subst hrun hbefore
    exact ih (h.up Applies.join_insert)
  | case7 fuel f m rest n hrun hbefore ih =>
    obtain ⟨before, run, after, i, j⟩ := f
    subst hrun hbefore
    exact ih (h.up Applies.join_delete)
  | case8 => exact h

theorem slideDown (h : Fits f old new) (fuel : Nat) :
    Fits (Diff.slideDown old new fuel f) old new := by
  fun_induction Diff.slideDown old new fuel f with
  | case1 f => exact h
  | case2 fuel f n m rest hafter hrun same hsame => exact h
  | case3 fuel f n m rest hafter hrun same hsame ih =>
    obtain ⟨before, run, after, i, j⟩ := f
    subst hrun hafter
    exact ih (h.slide_down rfl)
  | case4 fuel f n m rest hafter hrun ih =>
    obtain ⟨before, run, after, i, j⟩ := f
    subst hrun hafter
    exact ih (h.down Applies.delete_insert)
  | case5 fuel f n m rest hafter hrun ih =>
    obtain ⟨before, run, after, i, j⟩ := f
    subst hrun hafter
    exact ih (h.down Applies.insert_delete)
  | case6 fuel f n m rest hafter hrun ih =>
    obtain ⟨before, run, after, i, j⟩ := f
    subst hrun hafter
    exact ih (h.here Applies.join_insert)
  | case7 fuel f n m rest hafter hrun ih =>
    obtain ⟨before, run, after, i, j⟩ := f
    subst hrun hafter
    exact ih (h.here Applies.join_delete)
  | case8 => exact h

end Focus.Fits

/-! ## Sliding all runs -/

variable [DecidableEq α] {moves : Edit → Bool}

theorem slideAll_applies (h : Script.Applies (before.reverse ++ after) old new)
    (hi : i = Script.size Edit.oldCount before) (hj : j = Script.size Edit.newCount before)
    (fuel : Nat) :
    (slideAll old new moves fuel before after i j).Applies old new := by
  induction fuel generalizing before after i j with
  | zero => exact h
  | succ fuel ih =>
    cases after with
    | nil =>
      rw [List.append_nil] at h
      exact h
    | cons run after =>
      have hf : Focus.Fits ⟨before, run, after, i, j⟩ old new := ⟨h, hi, hj⟩
      have next {g : Focus} (hg : g.Fits old new) :
          (slideAll old new moves fuel (g.run :: g.before) g.after (g.oldAt + g.run.oldCount)
            (g.newAt + g.run.newCount)).Applies old new := by
        refine ih ?_ ?_ ?_
        · simpa [Focus.script] using hg.applies
        · rw [hg.oldAt, Script.size_cons, Nat.add_comm]
        · rw [hg.newAt, Script.size_cons, Nat.add_comm]
      rw [slideAll]
      split
      case isTrue => exact next ((hf.slideUp _).slideDown _)
      case isFalse => exact next hf

/-- A script of runs that do not move stays as it is. -/
theorem slideAll_of_still (h : ∀ run ∈ after, moves run = false) (fuel : Nat) :
    slideAll old new moves fuel before after i j = before.reverse ++ after := by
  induction fuel generalizing before after i j with
  | zero => rfl
  | succ fuel ih =>
    cases after with
    | nil => rw [slideAll, List.append_nil]
    | cons run after =>
      have hrun : moves run = false := h run List.mem_cons_self
      rw [slideAll]
      simp only [hrun, Bool.false_eq_true, ↓reduceIte]
      rw [ih fun run' hm => h run' (List.mem_cons_of_mem run hm)]
      simp

/-- **A script that was made compact leads from the old sequence to the new one** as before. -/
theorem compact_applies (h : s.Applies old new) : (compact old new s).Applies old new := by
  have hall {t : Script} (ht : t.Applies old new) (moves : Edit → Bool) (fuel : Nat) :
      (slideAll old new moves fuel [] t 0 0).Applies old new := by
    have hfrom : Script.Applies (List.reverse [] ++ t) old new := ht
    exact slideAll_applies hfrom rfl rfl fuel
  exact hall (hall h Edit.isDelete _) Edit.isInsert _

/-- A script without deleted and inserted runs is compact. -/
theorem compact_of_still (hdelete : ∀ run ∈ s, run.isDelete = false)
    (hinsert : ∀ run ∈ s, run.isInsert = false) : compact old new s = s := by
  unfold compact
  dsimp only
  rw [slideAll_of_still hdelete, List.reverse_nil, List.nil_append, slideAll_of_still hinsert]
  rfl

end Slipway.Diff
