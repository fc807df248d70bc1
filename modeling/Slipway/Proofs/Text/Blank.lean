import Slipway.Proofs.Basic
import Slipway.Text.Blank
import Slipway.Text.Numeral

/-!
# Trimming

Trimming leaves a text without blanks as it is (`trim_of_forall`), and keeps every character that is
no blank (`mem_trim`). A text in front of another one is trimmed away, or trimmed alone
(`trimStart_append_of_blank`, `trimStart_append`). What is cut at the ends is blank
(`exists_append_trim`), and blanks that are put there are cut (`trim_append_of_blank`).
-/

namespace Slipway.Text

variable {cs f : List Char} {c : Char}

theorem isBlank_of_isDigit (h : isDigit c = true) : isBlank c = false := by
  have hdigit : 48 ≤ c.toNat ∧ c.toNat ≤ 57 := by
    simpa [isDigit, Char.le_def, UInt32.le_iff_toNat_le] using h
  simp [isBlank, blankRanges]
  omega

/-! ## At both ends -/

theorem trim_of_forall (h : ∀ c ∈ cs, isBlank c = false) : trim cs = cs := by
  have hback : ∀ c ∈ cs.reverse, isBlank c = false := fun c hc => h c (List.mem_reverse.mp hc)
  unfold trim trimEnd trimStart
  rw [dropWhile_of_forall h, dropWhile_of_forall hback, List.reverse_reverse]

theorem mem_trim (hc : c ∈ cs) (hb : isBlank c = false) : c ∈ trim cs :=
  List.mem_reverse.mpr (mem_dropWhile (List.mem_reverse.mpr (mem_dropWhile hc hb)) hb)

/-! ## At the start -/

theorem trimStart_eq_nil_iff : trimStart f = [] ↔ blank f = true := by
  unfold trimStart blank
  induction f with
  | nil => simp
  | cons c f ih =>
    by_cases hc : isBlank c = true
    · rw [List.dropWhile_cons_of_pos hc, List.all_cons, hc, Bool.true_and, ih]
    · rw [List.dropWhile_cons_of_neg hc, List.all_cons]
      simp [hc]

theorem trimStart_append_of_blank (hf : blank f = true) (cs : List Char) :
    trimStart (f ++ cs) = trimStart cs := by
  have hempty := trimStart_eq_nil_iff.mpr hf
  unfold trimStart at hempty ⊢
  rw [List.dropWhile_append, hempty]
  rfl

theorem exists_trimStart_cons (hf : blank f = false) : ∃ c g, trimStart f = c :: g := by
  cases h : trimStart f with
  | cons c g => exact ⟨c, g, rfl⟩
  | nil => exact absurd (trimStart_eq_nil_iff.mp h) (by simp [hf])

theorem trimStart_append (hf : blank f = false) (cs : List Char) :
    trimStart (f ++ cs) = trimStart f ++ cs := by
  obtain ⟨c, g, h⟩ := exists_trimStart_cons hf
  unfold trimStart at h ⊢
  rw [List.dropWhile_append, h]
  rfl

/-! ## What is cut -/

theorem blank_takeWhile (cs : List Char) : blank (cs.takeWhile isBlank) = true :=
  List.all_takeWhile

theorem exists_append_trim (cs : List Char) :
    ∃ front back, blank front = true ∧ blank back = true ∧ cs = front ++ (trim cs ++ back) := by
  refine ⟨cs.takeWhile isBlank, ((trimStart cs).reverse.takeWhile isBlank).reverse,
    blank_takeWhile cs, ?_, ?_⟩
  · rw [blank, List.all_reverse]
    exact blank_takeWhile _
  · have hend : trim cs ++ ((trimStart cs).reverse.takeWhile isBlank).reverse = trimStart cs := by
      unfold trim trimEnd
      rw [← List.reverse_append, List.takeWhile_append_dropWhile, List.reverse_reverse]
    rw [hend]
    exact List.takeWhile_append_dropWhile.symm

/-- Blanks around a text without blanks are cut. -/
theorem trim_append_of_blank {front back : List Char} (hfront : blank front = true)
    (hback : blank back = true) (h : ∀ c ∈ cs, isBlank c = false) (hne : cs ≠ []) :
    trim (front ++ (cs ++ back)) = cs := by
  obtain ⟨c, more, rfl⟩ := List.exists_cons_of_ne_nil hne
  have hstart : trimStart (front ++ (c :: more ++ back)) = c :: more ++ back := by
    rw [trimStart_append_of_blank hfront, List.cons_append]
    exact List.dropWhile_cons_of_neg (by simp [h c List.mem_cons_self])
  have hend : trimStart (c :: more ++ back).reverse = (c :: more).reverse := by
    have hreverse : blank back.reverse = true := by rw [blank, List.all_reverse]; exact hback
    rw [List.reverse_append, trimStart_append_of_blank hreverse]
    exact dropWhile_of_forall fun c hc => h c (List.mem_reverse.mp hc)
  unfold trim
  rw [hstart]
  show (trimStart (c :: more ++ back).reverse).reverse = c :: more
  rw [hend, List.reverse_reverse]

end Slipway.Text
