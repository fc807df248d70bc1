import Slipway.Text.Lines

/-!
# Lines for a comparison

`ComparedLines` says of lines that they are those of a text to compare: each has no line end but
its own, a line feed, a carriage return or one behind the other; only the last line may lack it;
and no carriage return is parted from a line feed behind it. Every text has just one list of such
lines (`diffLines_eq_iff`).
-/

namespace Slipway.Text

variable {line raw rest text : List Char} {lines : List (List Char)} {c : Char}

/-- What ends a line. -/
inductive LineEnd : List Char → Prop
  | feed : LineEnd ['\n']
  | ret : LineEnd ['\r']
  | both : LineEnd ['\r', '\n']

/-- A text in which no line ends. -/
def Unbroken (raw : List Char) : Prop := '\n' ∉ raw ∧ '\r' ∉ raw

/-- A line with its end. -/
def Whole (line : List Char) : Prop :=
  ∃ raw stop, Unbroken raw ∧ LineEnd stop ∧ line = raw ++ stop

/-- The end of a line runs on into what follows: a carriage return before a line feed. -/
def RunsOn (line rest : List Char) : Prop :=
  line.getLast? = some '\r' ∧ rest.head? = some '\n'

/-- The lines of a text, with their ends. -/
inductive ComparedLines : List (List Char) → Prop
  | nil : ComparedLines []
  | last {line : List Char} : line ≠ [] → Unbroken line → ComparedLines [line]
  | cons {line : List Char} {lines : List (List Char)} :
      Whole line → ¬RunsOn line lines.flatten → ComparedLines lines → ComparedLines (line :: lines)

theorem unbroken_cons_iff :
    Unbroken (c :: raw) ↔ (c ≠ '\n' ∧ c ≠ '\r') ∧ Unbroken raw := by
  simp only [Unbroken, List.mem_cons, not_or, ne_comm, ne_eq]
  constructor
  · rintro ⟨⟨hn, hraw⟩, hr, hraw'⟩
    exact ⟨⟨hn, hr⟩, hraw, hraw'⟩
  · rintro ⟨⟨hn, hr⟩, hraw, hraw'⟩
    exact ⟨⟨hn, hraw⟩, hr, hraw'⟩

theorem unbroken_nil : Unbroken [] := ⟨List.not_mem_nil, List.not_mem_nil⟩

theorem LineEnd.whole {stop : List Char} (h : LineEnd stop) : Whole stop :=
  ⟨[], stop, unbroken_nil, h, rfl⟩

theorem Whole.ne_nil (h : Whole line) : line ≠ [] := by
  obtain ⟨raw, stop, -, hstop, rfl⟩ := h
  cases hstop <;> simp

theorem Whole.cons (h : Whole line) (hc : c ≠ '\n' ∧ c ≠ '\r') : Whole (c :: line) := by
  obtain ⟨raw, stop, hraw, hstop, rfl⟩ := h
  exact ⟨c :: raw, stop, unbroken_cons_iff.mpr ⟨hc, hraw⟩, hstop, rfl⟩

/-! ## Cutting -/

theorem diffLines_feed (text : List Char) :
    diffLines ('\n' :: text) = ['\n'] :: diffLines text := by
  simp [diffLines]

theorem diffLines_return (h : text.head? ≠ some '\n') :
    diffLines ('\r' :: text) = ['\r'] :: diffLines text := by
  rw [diffLines]
  · simp
  · rintro cs - rfl
    exact h rfl

theorem diffLines_cons (hc : c ≠ '\n' ∧ c ≠ '\r') (text : List Char) :
    diffLines (c :: text) = consLine c (diffLines text) := by
  rw [diffLines, if_neg (by simp [hc])]
  intro cs hr
  exact absurd hr hc.2

theorem diffLines_whole (h : Whole line) (hnext : ¬RunsOn line rest) :
    diffLines (line ++ rest) = line :: diffLines rest := by
  obtain ⟨raw, stop, hraw, hstop, rfl⟩ := h
  induction raw with
  | nil =>
    cases hstop with
    | feed => exact diffLines_feed rest
    | ret => exact diffLines_return fun hrest => hnext ⟨rfl, hrest⟩
    | both => rfl
  | cons c raw ih =>
    obtain ⟨hc, hraw⟩ := unbroken_cons_iff.mp hraw
    have hne : raw ++ stop ≠ [] := Whole.ne_nil ⟨raw, stop, hraw, hstop, rfl⟩
    have hline : ¬RunsOn (raw ++ stop) rest := by
      intro ht
      refine hnext ⟨?_, ht.2⟩
      rw [List.cons_append, List.getLast?_cons, ht.1]
      rfl
    rw [List.cons_append, List.cons_append, diffLines_cons hc, ih hraw hline]
    rfl

theorem diffLines_of_unbroken (hne : line ≠ []) (h : Unbroken line) : diffLines line = [line] := by
  induction line with
  | nil => exact absurd rfl hne
  | cons c line ih =>
    obtain ⟨hc, hline⟩ := unbroken_cons_iff.mp h
    rw [diffLines_cons hc]
    by_cases hl : line = []
    · rw [hl]
      rfl
    · rw [ih hl hline]
      rfl

theorem ComparedLines.diffLines_flatten (h : ComparedLines lines) :
    diffLines lines.flatten = lines := by
  induction h with
  | nil => rfl
  | last hne hline => rw [List.flatten_singleton, diffLines_of_unbroken hne hline]
  | cons hline hnext _ ih => rw [List.flatten_cons, diffLines_whole hline hnext, ih]

/-! ## The lines of a text -/

theorem ComparedLines.consLine (h : ComparedLines lines) (hc : c ≠ '\n' ∧ c ≠ '\r') :
    ComparedLines (consLine c lines) := by
  cases h with
  | nil => exact .last (by simp) (unbroken_cons_iff.mpr ⟨hc, unbroken_nil⟩)
  | last hne hline => exact .last (by simp) (unbroken_cons_iff.mpr ⟨hc, hline⟩)
  | @cons line lines hline hnext hlines =>
    refine .cons (hline.cons hc) (fun ht => hnext ⟨?_, ht.2⟩) hlines
    obtain ⟨first, tail, rfl⟩ := List.exists_cons_of_ne_nil hline.ne_nil
    simpa [List.getLast?_cons] using ht.1

theorem comparedLines_diffLines (text : List Char) : ComparedLines (diffLines text) := by
  fun_induction diffLines text with
  | case1 => exact .nil
  | case2 cs ih => exact .cons LineEnd.both.whole (fun ht => by simp [RunsOn] at ht) ih
  | case3 c cs hnext hc ih =>
    rcases hc with rfl | rfl
    · exact .cons LineEnd.feed.whole (fun ht => by simp [RunsOn] at ht) ih
    · refine .cons LineEnd.ret.whole (fun ht => ?_) ih
      obtain ⟨more, hmore⟩ := List.head?_eq_some_iff.mp (flatten_diffLines cs ▸ ht.2)
      exact hnext more rfl hmore
  | case4 c cs _ hc ih => exact ih.consLine (not_or.mp hc)

/-- **A text has one list of lines,** and these are the lines that are compared. -/
theorem diffLines_eq_iff : diffLines text = lines ↔ ComparedLines lines ∧ lines.flatten = text := by
  constructor
  · rintro rfl
    exact ⟨comparedLines_diffLines text, flatten_diffLines text⟩
  · rintro ⟨hlines, rfl⟩
    exact hlines.diffLines_flatten

/-! ## Lines as they are shown -/

/-- A line and what is shown of it: the line without its line feed and the carriage return before
it. A carriage return without a line feed stays. -/
inductive Shown : List Char → List Char → Prop
  | both (text : List Char) : Shown (text ++ ['\r', '\n']) text
  | feed (text : List Char) : text.getLast? ≠ some '\r' → Shown (text ++ ['\n']) text
  | plain (line : List Char) : line.getLast? ≠ some '\n' → Shown line line

theorem shown_chomp (line : List Char) : Shown line (chomp line) := by
  unfold chomp
  split
  case h_1 rest hline =>
    rw [← List.reverse_reverse line, hline]
    simpa using Shown.both rest.reverse
  case h_2 rest hrest hline =>
    rw [← List.reverse_reverse line, hline, List.reverse_cons]
    refine .feed rest.reverse fun hlast => ?_
    rw [List.getLast?_reverse] at hlast
    obtain ⟨more, rfl⟩ := List.head?_eq_some_iff.mp hlast
    exact hrest more rfl
  case h_3 hboth hfeed =>
    refine .plain line fun hlast => ?_
    rw [List.getLast?_eq_head?_reverse] at hlast
    obtain ⟨more, hline⟩ := List.head?_eq_some_iff.mp hlast
    exact hfeed more hline

end Slipway.Text
