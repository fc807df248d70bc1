import Slipway.Proofs.Text.ComparedLines
import Slipway.Proofs.Text.Lines

/-!
# Joining lines

Cutting a text into lines drops the line ends, and joining lines puts line feeds between them. Lines
that are not empty and hold no line end come back when they are joined and cut again
(`lines_unlines`). The lines of a text hold none if each of its carriage returns stands before a
line feed (`NoLoneReturn`, `unbroken_of_mem_lines`).
-/

namespace Slipway.Text

variable {line raw stop text : List Char} {ls : List (List Char)} {c : Char}

/-! ## Carriage returns before line feeds -/

/-- Every carriage return stands directly before a line feed. -/
def NoLoneReturn (text : List Char) : Prop :=
  ∀ before after, text = before ++ '\r' :: after → after.head? = some '\n'

theorem noLoneReturn_cons : NoLoneReturn (c :: text) ↔
    (c = '\r' → text.head? = some '\n') ∧ NoLoneReturn text := by
  constructor
  · intro h
    refine ⟨fun hc => h [] text (by rw [hc]; rfl), fun before after htext => ?_⟩
    exact h (c :: before) after (by rw [htext]; rfl)
  · rintro ⟨hfirst, hrest⟩ before after htext
    cases before with
    | nil =>
      obtain ⟨rfl, rfl⟩ := List.cons.inj htext
      exact hfirst rfl
    | cons d before => exact hrest before after (List.cons.inj htext).2

instance NoLoneReturn.decidable : (text : List Char) → Decidable (NoLoneReturn text)
  | [] => isTrue (by simp [NoLoneReturn])
  | _ :: text =>
    haveI := NoLoneReturn.decidable text
    decidable_of_iff _ noLoneReturn_cons.symm

theorem NoLoneReturn.of_append {front : List Char} (h : NoLoneReturn (front ++ text)) :
    NoLoneReturn text := fun before after htext =>
  h (front ++ before) after (by rw [htext, List.append_assoc])

/-- A carriage return does not part the lines of a text. -/
theorem noLoneReturn_of_mem_keptLines (h : NoLoneReturn text) (hm : line ∈ keptLines text) :
    NoLoneReturn line := by
  obtain ⟨above, below, hlines⟩ := List.append_of_mem hm
  have hcut := wellCut_keptLines text
  rw [← flatten_keptLines text, hlines, List.flatten_append, List.flatten_cons] at h
  rw [hlines] at hcut
  intro before after hline
  have hnext := h.of_append before (after ++ below.flatten) (by simp [hline])
  cases after with
  | cons c after => simpa using hnext
  | nil =>
    cases below with
    | nil => exact absurd hnext (by simp)
    | cons next below =>
      -- another line follows, so this one ends with its line feed
      obtain ⟨raw, -, hraw⟩ := hcut.of_append.1
      have hlast := congrArg List.getLast? (hline.symm.trans hraw)
      exact absurd hlast (by simp)

/-- What stands before the end of a line holds no carriage return. -/
theorem NoLoneReturn.not_mem (h : NoLoneReturn (raw ++ stop)) (hfeed : '\n' ∉ raw)
    (hstop : raw.getLast? = some '\r' → stop.head? ≠ some '\n') : '\r' ∉ raw := by
  intro hm
  obtain ⟨before, after, rfl⟩ := List.append_of_mem hm
  have hnext := h before (after ++ stop) (by simp)
  cases after with
  | nil => exact hstop (by simp) hnext
  | cons c after =>
    have hc : c = '\n' := by simpa using hnext
    exact hfeed (by simp [hc])

/-! ## The lines of a text -/

/-- **A line is unbroken** if the carriage returns of its text stand before line feeds. -/
theorem unbroken_of_mem_lines (h : NoLoneReturn text) (hm : line ∈ lines text) :
    Unbroken line := by
  obtain ⟨kept, hkept, hline⟩ := List.mem_map.mp hm
  have hcut := wellCut_keptLines text
  have hreturn := noLoneReturn_of_mem_keptLines h hkept
  have hshown := shown_chomp kept
  rw [hline] at hshown
  cases hshown with
  | both =>
    have hmem : (line ++ ['\r']) ++ ['\n'] ∈ keptLines text := by simpa using hkept
    have hfeed : '\n' ∉ line := fun hf => hcut.not_mem hmem (List.mem_append_left _ hf)
    exact ⟨hfeed, hreturn.not_mem hfeed fun _ => by simp⟩
  | feed _ hlast =>
    have hfeed := hcut.not_mem hkept
    exact ⟨hfeed, hreturn.not_mem hfeed fun hr => absurd hr hlast⟩
  | plain _ hlast =>
    have hfeed : '\n' ∉ line := by
      rcases hcut.mem hkept with ⟨raw, -, rfl⟩ | hfeed
      · exact absurd (by simp) hlast
      · exact hfeed
    rw [← List.append_nil line] at hreturn
    exact ⟨hfeed, hreturn.not_mem hfeed fun _ => by simp⟩

/-! ## Lines that are joined -/

theorem chomp_of_not_mem (h : '\n' ∉ line) : chomp line = line := by
  have hhead : ∀ rest, line.reverse ≠ '\n' :: rest := fun rest hr =>
    h (List.mem_reverse.mp (hr ▸ List.mem_cons_self))
  unfold chomp
  split
  · rename_i rest hr
    exact absurd hr (hhead _)
  · rename_i rest _ hr
    exact absurd hr (hhead _)
  · rfl

theorem chomp_append_feed (h : raw.getLast? ≠ some '\r') : chomp (raw ++ ['\n']) = raw := by
  unfold chomp
  rw [List.reverse_append, List.reverse_singleton, List.singleton_append]
  split
  · rename_i rest hr
    rw [List.getLast?_eq_head?_reverse, (List.cons.inj hr).2] at h
    exact absurd rfl h
  · rename_i rest _ hr
    rw [← (List.cons.inj hr).2, List.reverse_reverse]
  · rename_i hfeed
    exact absurd rfl (hfeed raw.reverse)

theorem unlines_cons (hne : ls ≠ []) (line : List Char) :
    unlines (line :: ls) = line ++ '\n' :: unlines ls := by
  cases ls with
  | nil => exact absurd rfl hne
  | cons next ls => rfl

/-- **Joined lines are cut where they were joined.** -/
theorem lines_unlines (h : ∀ line ∈ ls, line ≠ [] ∧ Unbroken line) : lines (unlines ls) = ls := by
  induction ls with
  | nil => rfl
  | cons line ls ih =>
    obtain ⟨hne, hfeed, hreturn⟩ := h line List.mem_cons_self
    by_cases hlast : ls = []
    · subst hlast
      rw [lines, unlines, keptLines_of_not_mem hne hfeed, List.map_singleton,
        chomp_of_not_mem hfeed]
    · have hreturn' : line.getLast? ≠ some '\r' := fun hl => hreturn (List.mem_of_getLast? hl)
      have hfirst := keptLines_terminated (terminated_append_feed hfeed) (unlines ls)
      rw [List.append_assoc, List.singleton_append] at hfirst
      rw [lines, unlines_cons hlast, hfirst, List.map_cons, chomp_append_feed hreturn']
      exact congrArg _ (ih fun l hl => h l (List.mem_cons_of_mem line hl))

theorem unlines_eq_nil_iff (h : ∀ line ∈ ls, line ≠ []) : unlines ls = [] ↔ ls = [] := by
  cases ls with
  | nil => simp [unlines]
  | cons line ls =>
    by_cases hlast : ls = []
    · subst hlast
      simpa [unlines] using h line List.mem_cons_self
    · simp [unlines_cons hlast]

end Slipway.Text
