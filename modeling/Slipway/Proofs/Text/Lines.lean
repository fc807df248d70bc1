import Slipway.Text.Lines

/-!
# Cutting a text into lines

`WellCut` says of lines that a text is cut into them: all of them end with their only line feed, but
the last one may lack it. Cutting a text gives such lines (`wellCut_keptLines`), and such lines are
what their text is cut into (`keptLines_flatten`). So a text that is put together from lines has
just these lines. It has a carriage return before every line feed (`Crlf`) exactly if they all have
(`crlf_flatten_iff`).
-/

namespace Slipway.Text

variable {line raw rest text more : List Char} {lines after : List (List Char)} {c : Char}

/-! ## Lines -/

/-- A line with its line feed. -/
def Terminated (line : List Char) : Prop := ∃ raw, '\n' ∉ raw ∧ line = raw ++ ['\n']

/-- The lines of a text: only the last one may lack its line feed. -/
def WellCut : List (List Char) → Prop
  | [] => True
  | [line] => Terminated line ∨ line ≠ [] ∧ '\n' ∉ line
  | line :: next :: lines => Terminated line ∧ WellCut (next :: lines)

theorem terminated_append_feed (h : '\n' ∉ raw) : Terminated (raw ++ ['\n']) := ⟨raw, h, rfl⟩

theorem terminated_feed : Terminated ['\n'] := terminated_append_feed List.not_mem_nil

theorem Terminated.cons (h : Terminated line) (hc : c ≠ '\n') : Terminated (c :: line) := by
  obtain ⟨raw, hraw, rfl⟩ := h
  exact ⟨c :: raw, by simp [hraw, hc.symm], rfl⟩

theorem WellCut.cons (h : WellCut lines) (hl : Terminated line) : WellCut (line :: lines) := by
  cases lines with
  | nil => exact Or.inl hl
  | cons next lines => exact ⟨hl, h⟩

theorem WellCut.append (h : WellCut after) (hl : ∀ line ∈ lines, Terminated line) :
    WellCut (lines ++ after) := by
  induction lines with
  | nil => exact h
  | cons line lines ih =>
    exact (ih fun l hm => hl l (List.mem_cons_of_mem line hm)).cons (hl line List.mem_cons_self)

theorem WellCut.tail (h : WellCut (line :: lines)) : WellCut lines := by
  cases lines with
  | nil => trivial
  | cons next lines => exact h.2

theorem WellCut.of_append (h : WellCut (lines ++ after)) : WellCut after := by
  induction lines with
  | nil => exact h
  | cons line lines ih => exact ih h.tail

/-- A line that another one follows ends with its line feed. -/
theorem WellCut.terminated (h : WellCut (lines ++ line :: after)) : ∀ l ∈ lines, Terminated l := by
  induction lines with
  | nil => simp
  | cons first lines ih =>
    intro l hm
    rcases List.mem_cons.mp hm with rfl | hm
    · cases lines with
      | nil => exact h.1
      | cons next lines => exact h.1
    · exact ih h.tail l hm

theorem WellCut.mem (h : WellCut lines) (hm : line ∈ lines) : Terminated line ∨ '\n' ∉ line := by
  obtain ⟨above, below, rfl⟩ := List.append_of_mem hm
  have hcut := h.of_append
  cases below with
  | nil => exact hcut.imp_right And.right
  | cons next below => exact Or.inl hcut.1

theorem Terminated.not_mem (h : Terminated (raw ++ ['\n'])) : '\n' ∉ raw := by
  obtain ⟨raw', hraw', heq⟩ := h
  rwa [List.append_cancel_right heq]

/-- Only the end of a line holds a line feed. -/
theorem WellCut.not_mem (h : WellCut lines) (hm : raw ++ ['\n'] ∈ lines) : '\n' ∉ raw := by
  rcases h.mem hm with ht | hfeed
  · exact ht.not_mem
  · exact absurd (List.mem_append_right raw (List.mem_singleton_self _)) hfeed

/-! ## Cutting -/

theorem keptLines_feed (text : List Char) : keptLines ('\n' :: text) = ['\n'] :: keptLines text :=
  if_pos rfl

theorem keptLines_cons (hc : c ≠ '\n') (text : List Char) :
    keptLines (c :: text) = consLine c (keptLines text) :=
  if_neg hc

theorem keptLines_terminated (h : Terminated line) (rest : List Char) :
    keptLines (line ++ rest) = line :: keptLines rest := by
  obtain ⟨raw, hraw, rfl⟩ := h
  induction raw with
  | nil => exact keptLines_feed rest
  | cons c raw ih =>
    rw [List.mem_cons, not_or] at hraw
    show keptLines (c :: (raw ++ ['\n'] ++ rest)) = _
    rw [keptLines_cons (Ne.symm hraw.1), ih hraw.2]
    rfl

theorem keptLines_of_not_mem (hne : line ≠ []) (h : '\n' ∉ line) : keptLines line = [line] := by
  induction line with
  | nil => exact absurd rfl hne
  | cons c line ih =>
    rw [List.mem_cons, not_or] at h
    rw [keptLines_cons (Ne.symm h.1)]
    by_cases hl : line = []
    · rw [hl]
      rfl
    · rw [ih hl h.2]
      rfl

/-- **The lines of a text that is put together from lines** are these lines. -/
theorem keptLines_flatten (h : WellCut lines) : keptLines lines.flatten = lines := by
  induction lines with
  | nil => rfl
  | cons line lines ih =>
    cases lines with
    | nil =>
      rw [List.flatten_singleton]
      rcases h with h | ⟨hne, h⟩
      · simpa [keptLines] using keptLines_terminated h []
      · exact keptLines_of_not_mem hne h
    | cons next lines =>
      rw [List.flatten_cons, keptLines_terminated h.1, ih h.2]

theorem wellCut_consLine (hc : c ≠ '\n') (h : WellCut lines) : WellCut (consLine c lines) := by
  cases lines with
  | nil => exact Or.inr ⟨by simp, by simpa using hc.symm⟩
  | cons line lines =>
    cases lines with
    | nil =>
      rcases h with h | ⟨-, h⟩
      · exact Or.inl (h.cons hc)
      · exact Or.inr ⟨by simp, by simp [h, hc.symm]⟩
    | cons next lines => exact ⟨h.1.cons hc, h.2⟩

theorem wellCut_keptLines (text : List Char) : WellCut (keptLines text) := by
  induction text with
  | nil => trivial
  | cons c text ih =>
    by_cases hc : c = '\n'
    · rw [hc, keptLines_feed]
      exact ih.cons terminated_feed
    · rw [keptLines_cons hc]
      exact wellCut_consLine hc ih

/-! ## Cutting between lines -/

/-- A text after which a line starts. -/
def AtLineStart (text : List Char) : Prop := text = [] ∨ ∃ more, text = more ++ ['\n']

/-- A text before which a line may end. -/
def AtLineEnd (text : List Char) : Prop := text = [] ∨ ∃ more, text = '\n' :: more

theorem atLineStart_cons (h : AtLineStart text) (c : Char) (hc : text = [] → c = '\n') :
    AtLineStart (c :: text) := by
  rcases h with rfl | ⟨more, rfl⟩
  · exact Or.inr ⟨[], by rw [hc rfl]; rfl⟩
  · exact Or.inr ⟨c :: more, rfl⟩

theorem atLineStart_flatten (h : ∀ line ∈ lines, Terminated line) : AtLineStart lines.flatten := by
  rcases List.eq_nil_or_concat lines with rfl | ⟨above, last, rfl⟩
  · exact Or.inl rfl
  · obtain ⟨raw, -, rfl⟩ := h last (by simp)
    exact Or.inr ⟨above.flatten ++ raw, by simp⟩

theorem keptLines_ne_nil (h : text ≠ []) : keptLines text ≠ [] := by
  intro hk
  rw [← flatten_keptLines text, hk] at h
  exact h rfl

theorem consLine_append (h : lines ≠ []) (c : Char) (after : List (List Char)) :
    consLine c (lines ++ after) = consLine c lines ++ after := by
  cases lines with
  | nil => exact absurd rfl h
  | cons line lines => rfl

/-- Where a line starts, the lines before it end. -/
theorem keptLines_append (h : AtLineStart text) (more : List Char) :
    keptLines (text ++ more) = keptLines text ++ keptLines more := by
  rcases h with rfl | ⟨raw, rfl⟩
  · rfl
  · induction raw with
    | nil => exact keptLines_feed more
    | cons c raw ih =>
      show keptLines (c :: (raw ++ ['\n'] ++ more)) = keptLines (c :: (raw ++ ['\n'])) ++ _
      by_cases hc : c = '\n'
      · rw [hc, keptLines_feed, keptLines_feed, ih]
        rfl
      · rw [keptLines_cons hc, keptLines_cons hc, ih, consLine_append (keptLines_ne_nil (by simp))]

/-- The first line of a text, where it ends. -/
theorem keptLines_line (hne : raw ≠ []) (h : '\n' ∉ raw) (hend : AtLineEnd rest) :
    keptLines (raw ++ rest) = (raw ++ rest.take 1) :: keptLines (rest.drop 1) := by
  rcases hend with rfl | ⟨more, rfl⟩
  · simpa [keptLines] using keptLines_of_not_mem hne h
  · rw [← List.singleton_append, ← List.append_assoc,
      keptLines_terminated (terminated_append_feed h)]
    rfl

/-! ## Carriage returns -/

/-- A carriage return stands before every line feed. -/
def Crlf (text : List Char) : Prop :=
  ∀ before after, text = before ++ '\n' :: after → before.getLast? = some '\r'

/-- Looks at a text from left to right; `last` is the character before it. -/
def scanCrlf : (last : Option Char) → List Char → Bool
  | _, [] => true
  | last, c :: cs => (c ≠ '\n' || last = some '\r') && scanCrlf (some c) cs

theorem scanCrlf_iff {last : Option Char} : scanCrlf last text = true ↔
    ∀ before after, text = before ++ '\n' :: after → before.getLast?.or last = some '\r' := by
  induction text generalizing last with
  | nil => simp [scanCrlf]
  | cons c text ih =>
    rw [scanCrlf, Bool.and_eq_true, ih]
    constructor
    · rintro ⟨hfirst, hrest⟩ before after heq
      cases before with
      | nil =>
        obtain ⟨rfl, -⟩ := List.cons.inj heq
        simpa using hfirst
      | cons d before =>
        obtain ⟨rfl, htext⟩ := List.cons.inj heq
        rw [List.getLast?_cons, Option.some_or]
        simpa [Option.or_eq_some_iff] using hrest before after htext
    · intro h
      refine ⟨?_, fun before after htext => ?_⟩
      · by_cases hc : c = '\n'
        · simpa [hc] using h [] text (by rw [hc]; rfl)
        · simp [hc]
      · simpa [List.getLast?_cons] using h (c :: before) after (by rw [htext]; rfl)

instance (text : List Char) : Decidable (Crlf text) :=
  decidable_of_iff (scanCrlf none text = true) (by simp [scanCrlf_iff, Crlf])

theorem crlf_of_not_mem (h : '\n' ∉ text) : Crlf text := by
  rintro before after rfl
  exact absurd (List.mem_append_right before List.mem_cons_self) h

theorem Crlf.append (h : Crlf text) (h' : Crlf more) : Crlf (text ++ more) := by
  intro before after heq
  rcases List.append_eq_append_iff.mp heq with ⟨mid, rfl, hmore⟩ | ⟨mid, rfl, hmore⟩
  · rw [List.getLast?_append, h' mid after hmore]
    rfl
  · cases mid with
    | nil => exact absurd (h' [] after hmore.symm) (by simp)
    | cons c mid =>
      obtain ⟨rfl, -⟩ := List.cons.inj hmore
      exact h before mid rfl

/-- Where a line starts, the line feeds of two texts can be looked at one after the other. -/
theorem crlf_append_iff (hs : AtLineStart text) : Crlf (text ++ more) ↔ Crlf text ∧ Crlf more := by
  refine ⟨fun h => ⟨?_, ?_⟩, fun h => h.1.append h.2⟩
  · rintro before after rfl
    exact h before (after ++ more) (by simp)
  · rintro before after rfl
    have hlast := h (text ++ before) after (by simp)
    rw [List.getLast?_append] at hlast
    cases hb : before.getLast? with
    | some c => rwa [hb] at hlast
    | none =>
      -- the carriage return would have to end the text before
      rw [hb, Option.none_or] at hlast
      rcases hs with rfl | ⟨raw, rfl⟩
      · exact hlast
      · simp at hlast

/-- A text has its carriage returns exactly if all of its lines have. -/
theorem crlf_flatten_iff (h : WellCut lines) : Crlf lines.flatten ↔ ∀ line ∈ lines, Crlf line := by
  induction lines with
  | nil => simp [crlf_of_not_mem]
  | cons line lines ih =>
    cases lines with
    | nil => simp
    | cons next lines =>
      obtain ⟨⟨raw, -, rfl⟩, hnext⟩ := h
      rw [List.flatten_cons, crlf_append_iff (Or.inr ⟨raw, rfl⟩), ih hnext]
      exact List.forall_mem_cons.symm

/-- A line has its carriage return exactly if it stands at its end. -/
theorem crlf_append_feed_iff (h : '\n' ∉ raw) :
    Crlf (raw ++ ['\n']) ↔ raw.getLast? = some '\r' := by
  refine ⟨fun hc => hc raw [] rfl, fun hlast before after heq => ?_⟩
  rcases List.append_eq_append_iff.mp heq with ⟨mid, rfl, htail⟩ | ⟨mid, rfl, htail⟩
  · cases mid with
    | nil => rwa [List.append_nil]
    | cons c mid => simp at htail
  · cases mid with
    | nil => rwa [List.append_nil] at hlast
    | cons c mid =>
      obtain ⟨rfl, -⟩ := List.cons.inj htail
      exact absurd (List.mem_append_right before List.mem_cons_self) h

end Slipway.Text
