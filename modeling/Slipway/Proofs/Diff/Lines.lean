import Slipway.Diff.Lines
import Slipway.Proofs.Diff.Compact
import Slipway.Proofs.Text.ComparedLines

/-!
# Line diffs are patches

About `line_diff` (`keel_core::diff`). A diff lists lines of the old text as removed and lines of
the new text as added. Each list names lines that are there, in their order and as they are shown
(`Lists`), and without the lines that they name the two texts are the same (`Patch`). Every script
that leads from the lines of one text to those of the other gives such a diff (`changes_patch`). The
diff between two texts is a patch, and it is empty only if they are the same (`lineDiff_patches`); a
line end at the end of a text makes a difference.
-/

namespace Slipway.Diff

open Text

variable {lines old new run rest : List (List Char)} {entries : List (Nat × String)}
  {script : Script} {first n : Nat} {text : String}

/-! ## Lists of lines -/

namespace Change

/-- The number and the text of a removed line. -/
def removed? : Change → Option (Nat × String)
  | removed n text => some (n, text)
  | added _ _ => none

/-- The number and the text of an added line. -/
def added? : Change → Option (Nat × String)
  | removed _ _ => none
  | added n text => some (n, text)

end Change

/-- The entries name lines, in the order of the lines, by their numbers from one on, and give each
as it is shown. -/
structure Lists (entries : List (Nat × String)) (lines : List (List Char)) : Prop where
  /-- The numbers grow. -/
  increasing : entries.Pairwise (·.1 < ·.1)
  /-- Each number is that of a line, and the text is what is shown of it. -/
  line : ∀ n text, (n, text) ∈ entries →
    0 < n ∧ ∃ line, lines[n - 1]? = some line ∧ Shown line text.toList

/-- The lines, numbered from one on, that the entries do not name. -/
def without (entries : List (Nat × String)) (lines : List (List Char)) : List (List Char) :=
  ((lines.zipIdx 1).filter fun line => line.2 ∉ entries.map Prod.fst).map Prod.fst

/-- The changes name lines of both texts, and nothing else sets the two apart. -/
structure Patch (old new : List (List Char)) (changes : List Change) : Prop where
  /-- Old lines are removed. -/
  removed : Lists (changes.filterMap Change.removed?) old
  /-- New lines are added. -/
  added : Lists (changes.filterMap Change.added?) new
  /-- The other lines are the same. -/
  rest : without (changes.filterMap Change.removed?) old =
    without (changes.filterMap Change.added?) new

/-! ## Picking lines -/

/-- Of the lines, numbered from `first` on, some are picked and listed; the others stay. -/
inductive Picks : (first : Nat) → (lines : List (List Char)) → List (Nat × String) →
    (rest : List (List Char)) → Prop
  | nil {first : Nat} : Picks first [] [] []
  | stay {first : Nat} {line : List Char} {lines rest : List (List Char)}
      {entries : List (Nat × String)} :
      Picks (first + 1) lines entries rest → Picks first (line :: lines) entries (line :: rest)
  | pick {first : Nat} {line : List Char} {lines rest : List (List Char)}
      {entries : List (Nat × String)} :
      Picks (first + 1) lines entries rest →
        Picks first (line :: lines) ((first, String.ofList (chomp line)) :: entries) rest

/-- The entries for a run of lines. -/
def listed : (first : Nat) → List (List Char) → List (Nat × String)
  | _, [] => []
  | first, l :: ls => (first, String.ofList (chomp l)) :: listed (first + 1) ls

namespace Picks

theorem stay_run (h : Picks (first + run.length) lines entries rest) :
    Picks first (run ++ lines) entries (run ++ rest) := by
  induction run generalizing first with
  | nil => exact h
  | cons line run ih =>
    refine .stay (ih ?_)
    rwa [Nat.add_assoc, Nat.add_comm 1]

theorem pick_run (h : Picks (first + run.length) lines entries rest) :
    Picks first (run ++ lines) (listed first run ++ entries) rest := by
  induction run generalizing first with
  | nil => exact h
  | cons line run ih =>
    refine .pick (ih ?_)
    rwa [Nat.add_assoc, Nat.add_comm 1]

theorem le (h : Picks first lines entries rest) (hm : (n, text) ∈ entries) : first ≤ n := by
  induction h with
  | nil => simp at hm
  | stay _ ih => exact Nat.le_of_succ_le (ih hm)
  | pick _ ih =>
    rcases List.mem_cons.mp hm with heq | hm
    · exact Nat.le_of_eq (Prod.mk.inj heq).1.symm
    · exact Nat.le_of_succ_le (ih hm)

theorem increasing (h : Picks first lines entries rest) : entries.Pairwise (·.1 < ·.1) := by
  induction h with
  | nil => exact .nil
  | stay _ ih => exact ih
  | pick h ih => exact List.pairwise_cons.mpr ⟨fun _ hm => h.le hm, ih⟩

theorem line (h : Picks first lines entries rest) (hm : (n, text) ∈ entries) :
    ∃ line, lines[n - first]? = some line ∧ text = String.ofList (chomp line) := by
  induction h with
  | nil => simp at hm
  | @stay first line lines rest entries h ih =>
    have hle := h.le hm
    rw [show n - first = n - (first + 1) + 1 by omega]
    exact ih hm
  | @pick first line lines rest entries h ih =>
    rcases List.mem_cons.mp hm with heq | hm
    · obtain ⟨rfl, rfl⟩ := Prod.mk.inj heq
      exact ⟨line, by rw [Nat.sub_self]; rfl, rfl⟩
    · have hle := h.le hm
      rw [show n - first = n - (first + 1) + 1 by omega]
      exact ih hm

/-- The lines that stay are those whose numbers are not listed. Numbers below the first one do not
matter. -/
theorem filter (h : Picks first lines entries rest) {numbers : List Nat}
    (hn : ∀ n, first ≤ n → (n ∈ numbers ↔ n ∈ entries.map Prod.fst)) :
    ((lines.zipIdx first).filter fun line => line.2 ∉ numbers).map Prod.fst = rest := by
  induction h with
  | nil => rfl
  | @stay first line lines rest entries h ih =>
    have hfirst : first ∉ numbers := by
      rw [hn first (Nat.le_refl first), List.mem_map]
      rintro ⟨⟨_, text⟩, hm, rfl⟩
      exact absurd (h.le hm) (Nat.not_succ_le_self _)
    rw [List.zipIdx_cons, List.filter_cons_of_pos (by simpa using hfirst), List.map_cons,
      ih fun n hle => hn n (Nat.le_of_succ_le hle)]
  | @pick first line lines rest entries h ih =>
    have hfirst : first ∈ numbers := (hn first (Nat.le_refl first)).mpr List.mem_cons_self
    rw [List.zipIdx_cons, List.filter_cons_of_neg (by simpa using hfirst)]
    refine ih fun n hle => ?_
    rw [hn n (Nat.le_of_succ_le hle), List.map_cons, List.mem_cons]
    exact or_iff_right (Nat.ne_of_gt hle)

theorem without_eq (h : Picks 1 lines entries rest) : without entries lines = rest :=
  h.filter fun _ _ => Iff.rfl

theorem lists (h : Picks 1 lines entries rest) : Lists entries lines where
  increasing := h.increasing
  line n text hm := by
    obtain ⟨line, hline, rfl⟩ := h.line hm
    refine ⟨h.le hm, line, hline, ?_⟩
    rw [String.toList_ofList]
    exact shown_chomp line

end Picks

/-! ## The changes of a script -/

section

variable {change : Nat → String → Change} {named? : Change → Option (Nat × String)}

theorem filterMap_number (h : ∀ n text, named? (change n text) = some (n, text)) (first : Nat)
    (run : List (List Char)) : (number change first run).filterMap named? = listed first run := by
  induction run generalizing first with
  | nil => rfl
  | cons line run ih => rw [number, listed, List.filterMap_cons_some (h ..), ih]

theorem filterMap_number_none (h : ∀ n text, named? (change n text) = none) (first : Nat)
    (run : List (List Char)) : (number change first run).filterMap named? = [] := by
  induction run generalizing first with
  | nil => rfl
  | cons line run ih => rw [number, List.filterMap_cons_none (h ..), ih]

end

/-- The changes list what a script deletes and what it inserts, after what waited to be listed. -/
theorem changes_picks (h : script.Applies old new) (i j : Nat) {removed added : List Change}
    (hr : removed.filterMap Change.added? = []) (ha : added.filterMap Change.removed? = []) :
    ∃ deleted inserted rest, Picks i old deleted rest ∧ Picks j new inserted rest ∧
      (changes script i j old new removed added).filterMap Change.removed? =
        removed.filterMap Change.removed? ++ deleted ∧
      (changes script i j old new removed added).filterMap Change.added? =
        added.filterMap Change.added? ++ inserted := by
  -- what waits grows until a line stays, so it is carried along the script
  induction h generalizing i j removed added with
  | nil => exact ⟨[], [], [], .nil, .nil, by simp [changes, ha], by simp [changes, hr]⟩
  | @keep script run old new h ih =>
    obtain ⟨deleted, inserted, rest, hold, hnew, hdel, hins⟩ :=
      ih (i + run.length) (j + run.length) List.filterMap_nil List.filterMap_nil
    refine ⟨deleted, inserted, run ++ rest, hold.stay_run, hnew.stay_run, ?_, ?_⟩
    · simp [changes, hdel, ha]
    · simp [changes, hins, hr]
  | @delete script run old new h ih =>
    have hlisted : (number .removed i run).filterMap Change.removed? = listed i run :=
      filterMap_number (fun _ _ => rfl) i run
    have hnone : (number .removed i run).filterMap Change.added? = [] :=
      filterMap_number_none (fun _ _ => rfl) i run
    have hwait : (removed ++ number .removed i run).filterMap Change.added? = [] := by
      rw [List.filterMap_append, hr, hnone]
      rfl
    obtain ⟨deleted, inserted, rest, hold, hnew, hdel, hins⟩ := ih (i + run.length) j hwait ha
    refine ⟨listed i run ++ deleted, inserted, rest, hold.pick_run, hnew, ?_, ?_⟩
    · rw [changes, List.drop_left, List.take_left, hdel, List.filterMap_append, hlisted,
        List.append_assoc]
    · rw [changes, List.drop_left, List.take_left, hins]
  | @insert script run old new h ih =>
    have hlisted : (number .added j run).filterMap Change.added? = listed j run :=
      filterMap_number (fun _ _ => rfl) j run
    have hnone : (number .added j run).filterMap Change.removed? = [] :=
      filterMap_number_none (fun _ _ => rfl) j run
    have hwait : (added ++ number .added j run).filterMap Change.removed? = [] := by
      rw [List.filterMap_append, ha, hnone]
      rfl
    obtain ⟨deleted, inserted, rest, hold, hnew, hdel, hins⟩ := ih i (j + run.length) hr hwait
    refine ⟨deleted, listed j run ++ inserted, rest, hold, hnew.pick_run, ?_, ?_⟩
    · rw [changes, List.drop_left, List.take_left, hdel]
    · rw [changes, List.drop_left, List.take_left, hins, List.filterMap_append, hlisted,
        List.append_assoc]

/-- **Every script gives a patch,** as long as it leads from the old lines to the new ones. -/
theorem changes_patch (h : script.Applies old new) :
    Patch old new (changes script 1 1 old new [] []) := by
  obtain ⟨deleted, inserted, rest, hold, hnew, hdel, hins⟩ :=
    changes_picks h 1 1 List.filterMap_nil List.filterMap_nil
  refine ⟨?_, ?_, ?_⟩
  · rw [hdel]
    exact hold.lists
  · rw [hins]
    exact hnew.lists
  · rw [hdel, hins]
    exact hold.without_eq.trans hnew.without_eq.symm

/-! ## Diffs -/

theorem without_nil (lines : List (List Char)) : without [] lines = lines := by
  rw [without, List.filter_eq_self.mpr (by simp), List.zipIdx_map_fst]

/-- Where nothing changes, the lines are the same. -/
theorem Patch.eq_of_nil (h : Patch old new []) : old = new := by
  have hrest : without [] old = without [] new := h.rest
  rwa [without_nil, without_nil] at hrest

theorem eq_of_diffLines_eq {before after : List Char} (h : diffLines before = diffLines after) :
    before = after := by
  rw [← flatten_diffLines before, h, flatten_diffLines]

theorem lineDiff_self (text : String) : lineDiff text text = [] := by
  have hkeep (n : Nat) : ∀ run ∈ runOf .keep n, run = .keep n := by
    unfold runOf
    split <;> simp
  have hstill : compact (diffLines text.toList) (diffLines text.toList)
      (runOf .keep (diffLines text.toList).length) = runOf .keep (diffLines text.toList).length :=
    compact_of_still (fun run hrun => by rw [hkeep _ run hrun]; rfl)
      (fun run hrun => by rw [hkeep _ run hrun]; rfl)
  rw [lineDiff, shortest_self, hstill, runOf]
  split <;> rfl

theorem lineDiff_patch (before after : String) :
    Patch (diffLines before.toList) (diffLines after.toList) (lineDiff before after) :=
  changes_patch (compact_applies (shortest_applies _ _))

/-- Only the same text makes no difference. -/
theorem lineDiff_eq_nil_iff {before after : String} :
    lineDiff before after = [] ↔ before = after := by
  constructor
  · intro h
    have hpatch := lineDiff_patch before after
    rw [h] at hpatch
    exact String.toList_injective (eq_of_diffLines_eq hpatch.eq_of_nil)
  · rintro rfl
    exact lineDiff_self before

/-- **A line diff is a patch.** The lines of a text are cut out by their ends. Of the old lines and
of the new lines, a diff lists some in their order, with their numbers and as they are shown, and
leaves the same lines on both sides. It is empty only between a text and itself. -/
theorem lineDiff_patches :
    (∀ text lines, diffLines text = lines ↔ ComparedLines lines ∧ lines.flatten = text) ∧
      ∀ before after : String,
        Patch (diffLines before.toList) (diffLines after.toList) (lineDiff before after) ∧
          (lineDiff before after = [] ↔ before = after) :=
  ⟨fun _ _ => diffLines_eq_iff, fun before after =>
    ⟨lineDiff_patch before after, lineDiff_eq_nil_iff⟩⟩

/-- A line end that is missing at the end of a text is a difference. -/
example : lineDiff "a\n" "a" ≠ [] := by
  rw [ne_eq, lineDiff_eq_nil_iff]
  decide

end Slipway.Diff
