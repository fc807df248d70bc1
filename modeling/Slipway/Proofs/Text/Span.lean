import Slipway.Proofs.Basic
import Slipway.Text.Span

/-!
# Spans from left to right

The spans of a text that match are taken from left to right without overlap, each as far left as it
can be (`Leftmost`). A text is cut into pieces at such spans, and what is written over them stands
between the same pieces.

* `leftmost_occurrences`: the occurrences of a needle are its leftmost ones.
* `exists_pieces`: a text in pieces, with a replacement in place of every match.
-/

namespace Slipway.Text

/-- The spans of what matches in a text of a given size, from left to right, without overlap, and
each as far left as it can be. -/
structure Leftmost (Matches : Nat → Nat → Prop) (size : Nat) (spans : List Span) : Prop where
  /-- Every span matches. -/
  sound : ∀ s ∈ spans, Matches s.start s.stop
  /-- Every span lies in the text. -/
  bounded : ∀ s ∈ spans, s.start ≤ s.stop ∧ s.stop ≤ size
  /-- They do not overlap, and no two of them are empty at the same position. -/
  ordered : spans.Pairwise fun s t => s.stop ≤ t.start ∧ s.stop < t.stop
  /-- What matches starts inside of one of them, or else where one stops and an empty match
  stands. -/
  covering : ∀ i j, Matches i j →
    ∃ s ∈ spans, s.start ≤ i ∧ (i < s.stop ∨ (i = s.stop ∧ Matches i i))

/-- Spans in order that start apart do not overlap. -/
theorem Leftmost.stop_le {M : Nat → Nat → Prop} {size : Nat} {spans : List Span} {s t : Span}
    (h : Leftmost M size spans) (hs : s ∈ spans) (ht : t ∈ spans) (hlt : s.start < t.start) :
    s.stop ≤ t.start := by
  obtain ⟨i, hi, rfl⟩ := List.getElem_of_mem hs
  obtain ⟨j, hj, rfl⟩ := List.getElem_of_mem ht
  rcases Nat.lt_trichotomy i j with hij | rfl | hji
  · exact (List.pairwise_iff_getElem.mp h.ordered i j hi hj hij).1
  · exact absurd hlt (Nat.lt_irrefl _)
  · have hback := (List.pairwise_iff_getElem.mp h.ordered j i hj hi hji).1
    have hlen := (h.bounded _ ht).1
    omega

/-! ## Occurrences -/

/-- The needle is the part of a text from one position up to another. -/
def IsPart (needle text : List Char) (i j : Nat) : Prop :=
  j = i + needle.length ∧ j ≤ text.length ∧ needle <+: text.drop i

section Occurrences

variable {needle text rest : List Char} {start skip i : Nat} {s : Span}

theorem isPart_of_starts (h : needle <+: text.drop i) (hn : needle ≠ []) :
    IsPart needle text i (i + needle.length) := by
  have hlen := h.length_le
  have hpos := List.length_pos_iff.mpr hn
  rw [List.length_drop] at hlen
  exact ⟨rfl, by omega, h⟩

/-- A span of an occurrence starts after what is skipped. -/
theorem of_mem_occurrencesFrom (hrest : text.drop start = rest) (hin : start ≤ text.length)
    (hskip : skip ≤ needle.length - 1) (hs : s ∈ occurrencesFrom needle start skip rest) :
    start + skip ≤ s.start ∧ IsPart needle text s.start s.stop := by
  induction rest generalizing start skip with
  | nil =>
    unfold occurrencesFrom at hs
    split at hs
    · rename_i hn
      rw [List.mem_singleton] at hs
      subst hn hs
      simp only [List.length_nil, Nat.zero_sub, Nat.le_zero] at hskip
      exact ⟨Nat.le_of_eq (by simp [hskip]), rfl, hin, List.nil_prefix⟩
    · exact absurd hs List.not_mem_nil
  | cons c cs ih =>
    obtain ⟨hlt, htail⟩ := of_drop_eq_cons hrest
    cases skip with
    | succ skip =>
      obtain ⟨hle, hpart⟩ := ih htail hlt (by omega) hs
      exact ⟨by omega, hpart⟩
    | zero =>
      unfold occurrencesFrom at hs
      split at hs
      · rename_i hpre
        rcases List.mem_cons.mp hs with rfl | hs
        · have hp : needle <+: text.drop start := hrest ▸ List.isPrefixOf_iff_prefix.mp hpre
          have hlen := hp.length_le
          rw [List.length_drop] at hlen
          exact ⟨Nat.le_refl _, rfl, by simp only; omega, hp⟩
        · obtain ⟨hle, hpart⟩ := ih htail hlt (Nat.le_refl _) hs
          exact ⟨by omega, hpart⟩
      · obtain ⟨hle, hpart⟩ := ih htail hlt (Nat.zero_le _) hs
        exact ⟨by omega, hpart⟩

theorem occurrencesFrom_ordered (hrest : text.drop start = rest) (hin : start ≤ text.length)
    (hskip : skip ≤ needle.length - 1) :
    (occurrencesFrom needle start skip rest).Pairwise
      fun s t => s.stop ≤ t.start ∧ s.stop < t.stop := by
  induction rest generalizing start skip with
  | nil =>
    unfold occurrencesFrom
    split
    · exact List.pairwise_singleton _ _
    · exact List.Pairwise.nil
  | cons c cs ih =>
    obtain ⟨hlt, htail⟩ := of_drop_eq_cons hrest
    cases skip with
    | succ skip => exact ih htail hlt (by omega)
    | zero =>
      unfold occurrencesFrom
      split
      · refine List.pairwise_cons.mpr ⟨fun t ht => ?_, ih htail hlt (Nat.le_refl _)⟩
        obtain ⟨hle, hstop, -⟩ := of_mem_occurrencesFrom htail hlt (Nat.le_refl _) ht
        simp only
        omega
      · exact ih htail hlt (Nat.zero_le _)

theorem exists_mem_occurrencesFrom (hrest : text.drop start = rest)
    (hskip : skip ≤ needle.length - 1) (hi : start + skip ≤ i)
    (hpart : IsPart needle text i (i + needle.length)) :
    ∃ s ∈ occurrencesFrom needle start skip rest,
      s.start ≤ i ∧ (i < s.stop ∨ (i = s.stop ∧ needle = [])) := by
  induction rest generalizing start skip with
  | nil =>
    have hlen := hpart.2.1
    have hend := List.drop_eq_nil_iff.mp hrest
    have hn : needle = [] := List.eq_nil_of_length_eq_zero (by omega)
    unfold occurrencesFrom
    rw [if_pos hn]
    exact ⟨_, List.mem_singleton_self _, by simp only; omega, Or.inr ⟨by simp only; omega, hn⟩⟩
  | cons c cs ih =>
    obtain ⟨-, htail⟩ := of_drop_eq_cons hrest
    cases skip with
    | succ skip => exact ih htail (by omega) (by omega)
    | zero =>
      unfold occurrencesFrom
      split
      · -- what starts before the end of this occurrence is covered by it
        by_cases hnext : start + 1 + (needle.length - 1) ≤ i
        · obtain ⟨s, hs, hcover⟩ := ih htail (Nat.le_refl _) hnext
          exact ⟨s, List.mem_cons_of_mem _ hs, hcover⟩
        · refine ⟨_, List.mem_cons_self, by simp only; omega, ?_⟩
          simp only
          by_cases hn : needle = []
          · subst hn
            rw [List.length_nil] at hnext ⊢
            exact Or.inr ⟨by omega, rfl⟩
          · have hpos := List.length_pos_iff.mpr hn
            exact Or.inl (by omega)
      · rename_i hnot
        have hne : i ≠ start := by
          rintro rfl
          have hp := hpart.2.2
          rw [hrest] at hp
          exact hnot (List.isPrefixOf_iff_prefix.mpr hp)
        exact ih htail (Nat.zero_le _) (by omega)

/-- **The occurrences of a needle** are its leftmost ones. -/
theorem leftmost_occurrences (needle text : List Char) :
    Leftmost (IsPart needle text) text.length (occurrences needle text) where
  sound s hs := (of_mem_occurrencesFrom rfl (Nat.zero_le _) (Nat.zero_le _) hs).2
  bounded s hs := by
    obtain ⟨hstop, hle, -⟩ := (of_mem_occurrencesFrom rfl (Nat.zero_le _) (Nat.zero_le _) hs).2
    exact ⟨by omega, hle⟩
  ordered := occurrencesFrom_ordered rfl (Nat.zero_le _) (Nat.zero_le _)
  covering i j hpart := by
    obtain ⟨rfl, -, -⟩ := id hpart
    obtain ⟨s, hs, hle, hcover⟩ : ∃ s ∈ occurrences needle text,
        s.start ≤ i ∧ (i < s.stop ∨ (i = s.stop ∧ needle = [])) :=
      exists_mem_occurrencesFrom rfl (Nat.zero_le _) (Nat.zero_le _) hpart
    refine ⟨s, hs, hle, hcover.imp_right fun ⟨he, hn⟩ => ⟨he, ?_⟩⟩
    subst hn
    exact hpart

end Occurrences

/-! ## Pieces -/

/-- A text in pieces: what stands before the first match, and each match with what follows it. -/
structure Pieces where
  front : List Char
  parts : List (List Char × List Char)

namespace Pieces

/-- The text of the pieces. -/
def text (c : Pieces) : List Char := c.front ++ c.parts.flatMap fun part => part.1 ++ part.2

/-- The text with a replacement in place of every match. -/
def fill (c : Pieces) (replacement : List Char) : List Char :=
  c.front ++ c.parts.flatMap fun part => replacement ++ part.2

/-- The spans of the matches, if the pieces start at a position. -/
def spansFrom : (start : Nat) → List (List Char × List Char) → List Span
  | _, [] => []
  | start, part :: parts =>
    ⟨start, start + part.1.length⟩ :: spansFrom (start + part.1.length + part.2.length) parts

/-- The spans of the matches. -/
def spans (c : Pieces) : List Span := spansFrom c.front.length c.parts

theorem length_spansFrom (start : Nat) (parts : List (List Char × List Char)) :
    (spansFrom start parts).length = parts.length := by
  induction parts generalizing start with
  | nil => rfl
  | cons part parts ih => rw [spansFrom, List.length_cons, ih, List.length_cons]

end Pieces

/-- The part of a text at a span. -/
def Span.of (s : Span) (text : List Char) : List Char := (text.drop s.start).take (s.stop - s.start)

variable {needle text rest : List Char} {start : Nat} {s : Span} {spans : List Span}

theorem IsPart.of_eq (h : IsPart needle text s.start s.stop) : s.of text = needle := by
  obtain ⟨hstop, -, tail, htail⟩ := h
  rw [Span.of, hstop, Nat.add_sub_cancel_left, ← htail, List.take_left]

/-- Cuts the rest of a text from a position on. -/
theorem exists_piecesFrom
    (hbounds : ∀ s ∈ spans, start ≤ s.start ∧ s.start ≤ s.stop ∧ s.stop ≤ start + rest.length)
    (hordered : spans.Pairwise fun s t => s.stop ≤ t.start) :
    ∃ c : Pieces, c.text = rest ∧ (∀ r, spliceFrom r start rest spans = c.fill r) ∧
      Pieces.spansFrom (start + c.front.length) c.parts = spans ∧
      c.parts.map Prod.fst =
        spans.map fun s => (rest.drop (s.start - start)).take (s.stop - s.start) := by
  induction spans generalizing start rest with
  | nil => exact ⟨⟨rest, []⟩, List.append_nil rest, fun _ => (List.append_nil rest).symm, rfl, rfl⟩
  | cons s spans ih =>
    obtain ⟨hlow, hle, hhigh⟩ := hbounds s List.mem_cons_self
    obtain ⟨hafter, hordered⟩ := List.pairwise_cons.mp hordered
    have hb : ∀ t ∈ spans, s.stop ≤ t.start ∧ t.start ≤ t.stop ∧
        t.stop ≤ s.stop + (rest.drop (s.stop - start)).length := by
      intro t ht
      obtain ⟨-, hle', hhigh'⟩ := hbounds t (List.mem_cons_of_mem s ht)
      rw [List.length_drop]
      exact ⟨hafter t ht, hle', by omega⟩
    obtain ⟨c, htext, hfill, hspans, hparts⟩ := ih hb hordered
    have hmatch : ((rest.drop (s.start - start)).take (s.stop - s.start)).length =
        s.stop - s.start := by
      rw [List.length_take, List.length_drop]
      omega
    have hfront : (rest.take (s.start - start)).length = s.start - start := by
      rw [List.length_take]
      omega
    have hback : (rest.drop (s.start - start)).drop (s.stop - s.start) =
        rest.drop (s.stop - start) := by
      rw [List.drop_drop]
      congr 1
      omega
    refine ⟨⟨rest.take (s.start - start),
      ((rest.drop (s.start - start)).take (s.stop - s.start), c.front) :: c.parts⟩, ?_, ?_, ?_, ?_⟩
    · calc rest.take (s.start - start) ++ ((rest.drop (s.start - start)).take (s.stop - s.start) ++
            c.front ++ c.parts.flatMap fun part => part.1 ++ part.2)
        _ = rest.take (s.start - start) ++ ((rest.drop (s.start - start)).take (s.stop - s.start) ++
            c.text) := by rw [List.append_assoc, Pieces.text]
        _ = rest := by rw [htext, ← hback, List.take_append_drop, List.take_append_drop]
    · intro r
      rw [spliceFrom, hfill r]
      simp only [Pieces.fill, List.flatMap_cons, List.append_assoc]
    · rw [hfront, Pieces.spansFrom, hmatch, Nat.add_sub_cancel' hlow, Nat.add_sub_cancel' hle,
        hspans]
    · rw [List.map_cons, List.map_cons, hparts]
      refine congrArg _ (List.map_congr_left fun t ht => ?_)
      have hlow' := hafter t ht
      rw [List.drop_drop]
      congr 2
      omega

/-- **A text is cut at spans** in order: a replacement written over them stands between the same
pieces. -/
theorem exists_pieces (hbounds : ∀ s ∈ spans, s.start ≤ s.stop ∧ s.stop ≤ text.length)
    (hordered : spans.Pairwise fun s t => s.stop ≤ t.start) :
    ∃ c : Pieces, c.text = text ∧ (∀ r, splice r text spans = c.fill r) ∧ c.spans = spans ∧
      c.parts.map Prod.fst = spans.map (Span.of · text) := by
  have hbounds' : ∀ s ∈ spans, 0 ≤ s.start ∧ s.start ≤ s.stop ∧ s.stop ≤ 0 + text.length :=
    fun s hs => ⟨Nat.zero_le _, by simpa using hbounds s hs⟩
  obtain ⟨c, htext, hfill, hspans, hparts⟩ := exists_piecesFrom hbounds' hordered
  rw [Nat.zero_add] at hspans
  exact ⟨c, htext, hfill, hspans, by simpa [Span.of] using hparts⟩

end Slipway.Text
