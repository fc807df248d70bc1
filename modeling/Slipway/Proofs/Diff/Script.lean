import Slipway.Diff.Shortest

/-!
# Scripts lead from one sequence to the other

The laws of `Script.Applies`: scripts are put one behind the other (`Applies.append`) and taken
apart again (`applies_append_iff`), and what a script consumes is as long as both sequences
(`Applies.length_old`, `Applies.length_new`). The script that `shortest` finds leads from the old
sequence to the new one, wherever it cuts (`shortest_applies`).
-/

namespace Slipway.Diff

variable {α : Type} {s t : Script} {old new run : List α} {e : Edit} {n : Nat}

namespace Script

/-! ## One script behind the other -/

theorem Applies.append {more more' : List α} (h : Applies s old new) (h' : Applies t more more') :
    Applies (s ++ t) (old ++ more) (new ++ more') := by
  induction h with
  | nil => exact h'
  | keep _ ih =>
    rw [List.append_assoc, List.append_assoc]
    exact .keep ih
  | delete _ ih =>
    rw [List.append_assoc]
    exact .delete ih
  | insert _ ih =>
    rw [List.append_assoc]
    exact .insert ih

theorem applies_append_iff : Applies (s ++ t) old new ↔
    ∃ old₁ old₂ new₁ new₂, old = old₁ ++ old₂ ∧ new = new₁ ++ new₂ ∧
      Applies s old₁ new₁ ∧ Applies t old₂ new₂ := by
  constructor
  · intro h
    induction s generalizing old new with
    | nil => exact ⟨[], old, [], new, rfl, rfl, .nil, h⟩
    | cons e s ih =>
      cases h with
      | keep h =>
        obtain ⟨old₁, old₂, new₁, new₂, rfl, rfl, hs, ht⟩ := ih h
        exact ⟨_, old₂, _, new₂, (List.append_assoc ..).symm, (List.append_assoc ..).symm,
          .keep hs, ht⟩
      | delete h =>
        obtain ⟨old₁, old₂, new₁, new₂, rfl, rfl, hs, ht⟩ := ih h
        exact ⟨_, old₂, new₁, new₂, (List.append_assoc ..).symm, rfl, .delete hs, ht⟩
      | insert h =>
        obtain ⟨old₁, old₂, new₁, new₂, rfl, rfl, hs, ht⟩ := ih h
        exact ⟨old₁, old₂, _, new₂, rfl, (List.append_assoc ..).symm, .insert hs, ht⟩
  · rintro ⟨old₁, old₂, new₁, new₂, rfl, rfl, hs, ht⟩
    exact hs.append ht

/-! ## What a script consumes -/

/-- The elements that a script consumes, counted run by run: those of the old sequence or those of
the new one. -/
def size (count : Edit → Nat) : Script → Nat
  | [] => 0
  | e :: s => count e + size count s

section

variable {count : Edit → Nat}

theorem size_cons : size count (e :: s) = count e + size count s := rfl

theorem size_append : size count (s ++ t) = size count s + size count t := by
  induction s with
  | nil => exact (Nat.zero_add _).symm
  | cons e s ih => rw [List.cons_append, size_cons, size_cons, ih, Nat.add_assoc]

theorem size_reverse : size count s.reverse = size count s := by
  induction s with
  | nil => rfl
  | cons e s ih =>
    rw [List.reverse_cons, size_append, ih, size_cons, Nat.add_comm]
    rfl

end

theorem Applies.length_old (h : Applies s old new) : old.length = size Edit.oldCount s := by
  induction h with
  | nil => rfl
  | keep _ ih => rw [List.length_append, size_cons, ih, Edit.oldCount]
  | delete _ ih => rw [List.length_append, size_cons, ih, Edit.oldCount]
  | insert _ ih => rw [size_cons, ih, Edit.oldCount, Nat.zero_add]

theorem Applies.length_new (h : Applies s old new) : new.length = size Edit.newCount s := by
  induction h with
  | nil => rfl
  | keep _ ih => rw [List.length_append, size_cons, ih, Edit.newCount]
  | delete _ ih => rw [size_cons, ih, Edit.newCount, Nat.zero_add]
  | insert _ ih => rw [List.length_append, size_cons, ih, Edit.newCount]

/-! ## Scripts of one run -/

theorem applies_runOf {kind : Nat → Edit} (h : Applies [kind run.length] old new)
    (hnil : run = [] → old = [] ∧ new = []) : Applies (runOf kind run.length) old new := by
  unfold runOf
  split
  case isTrue hlen =>
    obtain ⟨rfl, rfl⟩ := hnil (List.eq_nil_of_length_eq_zero hlen)
    exact .nil
  case isFalse => exact h

theorem applies_keep_all (run : List α) : Applies (runOf .keep run.length) run run := by
  have h : Applies [.keep run.length] (run ++ []) (run ++ []) := .keep .nil
  rw [List.append_nil] at h
  exact applies_runOf h fun hrun => ⟨hrun, hrun⟩

theorem applies_delete_all (run : List α) : Applies (runOf .delete run.length) run [] := by
  have h : Applies [.delete run.length] (run ++ []) [] := .delete .nil
  rw [List.append_nil] at h
  exact applies_runOf h fun hrun => ⟨hrun, rfl⟩

theorem applies_insert_all (run : List α) : Applies (runOf .insert run.length) [] run := by
  have h : Applies [.insert run.length] [] (run ++ []) := .insert .nil
  rw [List.append_nil] at h
  exact applies_runOf h fun hrun => ⟨rfl, hrun⟩

end Script

/-! ## Common beginnings and ends -/

variable [DecidableEq α]

theorem exists_commonStart (old new : List α) : ∃ run old' new',
    old = run ++ old' ∧ new = run ++ new' ∧ run.length = commonStart old new := by
  fun_induction commonStart old new with
  | case1 as a bs ih =>
    obtain ⟨run, as', bs', rfl, rfl, hlen⟩ := ih
    exact ⟨a :: run, as', bs', rfl, rfl, congrArg (· + 1) hlen⟩
  | case2 a as b bs => exact ⟨[], a :: as, b :: bs, rfl, rfl, rfl⟩
  | case3 as bs => exact ⟨[], as, bs, rfl, rfl, rfl⟩

theorem exists_commonEnd (old new : List α) : ∃ run old' new',
    old = old' ++ run ∧ new = new' ++ run ∧ run.length = commonEnd old new := by
  obtain ⟨run, old', new', hold, hnew, hlen⟩ := exists_commonStart old.reverse new.reverse
  refine ⟨run.reverse, old'.reverse, new'.reverse, ?_, ?_, ?_⟩
  · rw [← List.reverse_append, ← hold, List.reverse_reverse]
  · rw [← List.reverse_append, ← hnew, List.reverse_reverse]
  · rw [List.length_reverse, hlen]
    rfl

theorem commonStart_self (xs : List α) : commonStart xs xs = xs.length := by
  induction xs with
  | nil => rfl
  | cons x xs ih => rw [commonStart, if_pos rfl, ih, List.length_cons]

omit [DecidableEq α] in
theorem inside_append (pre mid suf : List α) :
    inside (pre ++ (mid ++ suf)) pre.length suf.length = mid := by
  rw [inside, List.drop_left, List.length_append, Nat.add_sub_cancel, List.take_left]

/-! ## Shortest scripts -/

/-- A script for what is inside, between what both sequences begin and end with. -/
theorem applies_around
    (h : s.Applies (inside old (commonStart old new) (commonRest old new))
      (inside new (commonStart old new) (commonRest old new))) :
    (runOf .keep (commonStart old new) ++ s ++ runOf .keep (commonRest old new)).Applies
      old new := by
  obtain ⟨pre, old', new', hold, hnew, hpre⟩ := exists_commonStart old new
  obtain ⟨suf, oldMid, newMid, hold', hnew', hsuf⟩ := exists_commonEnd old' new'
  have hrest : commonRest old new = suf.length := by
    rw [commonRest, ← hpre, hsuf, hold, hnew, List.drop_left, List.drop_left]
  subst hold' hnew'
  rw [hrest, ← hpre, hold, hnew, inside_append, inside_append] at h
  rw [hrest, ← hpre, List.append_assoc, hold, hnew]
  exact (Script.applies_keep_all pre).append (h.append (Script.applies_keep_all suf))

/-- **The script that is found leads from the old sequence to the new one.** -/
theorem shortest_applies (old new : List α) : (shortest old new).Applies old new := by
  fun_induction shortest old new with
  | case1 old new start stop ihFirst ihRest =>
    refine applies_around ?_
    split
    case h_1 hold =>
      rw [hold]
      exact Script.applies_insert_all _
    case h_2 hnew _ =>
      rw [hnew]
      exact Script.applies_delete_all _
    case h_3 a as b bs hold hnew =>
      rw [hold, hnew]
      split
      case h_1 x y hcut =>
        -- wherever the cut is, both parts lead from one side to the other
        have h := (ihFirst a as b bs hold hnew x y hcut).append
          (ihRest a as b bs hold hnew x y hcut)
        rwa [List.take_append_drop, List.take_append_drop] at h
      case h_2 =>
        have h : Script.Applies [.delete (a :: as).length, .insert (b :: bs).length]
            ((a :: as) ++ []) ((b :: bs) ++ []) := .delete (.insert .nil)
        rwa [List.append_nil, List.append_nil] at h

/-- Nothing changes between a sequence and itself. -/
theorem shortest_self (xs : List α) : shortest xs xs = runOf .keep xs.length := by
  have hin : inside xs xs.length 0 = [] := by rw [inside, List.drop_length, List.take_nil]
  have hrest : commonRest xs xs = 0 := by
    rw [commonRest, commonStart_self, List.drop_length]
    rfl
  rw [shortest]
  split
  case h_1 => simp [hin, hrest, commonStart_self, runOf]
  case h_2 => simp [hin, hrest, commonStart_self, runOf]
  case h_3 a as _ _ hold _ =>
    rw [commonStart_self, hrest, hin] at hold
    exact absurd hold.symm (List.cons_ne_nil a as)

end Slipway.Diff
