import Slipway.Proofs.Artifact.Pieces
import Slipway.Proofs.Version.Text

/-!
# Versions that stand alone

About `VersionedArtifact::substitute` (`keel_core::files`). A literal template matches where its
needle occurs and the version is not a part of a longer number (`Standalone`). The occurrences are
scanned from left to right without overlap, before those that do not stand alone are left out: one
that is left out hides what starts inside of it (`Hidden`).

* `visible_of_mem`, `exists_of_visible`: what is found is what stands alone and is not hidden.
* `hidden_free`: templates for which nothing is hidden.
* `substitute_standalone`: what is replaced; all that stands alone, where nothing is hidden.
* `substitute_misses_hidden`: a match that is hidden is missed.
-/

namespace Slipway

namespace Text

variable {needle text template version : List Char} {i : Nat}

/-- A needle does not overlap itself: none of its ends is a beginning of it. -/
def Rigid (needle : List Char) : Prop :=
  ∀ k, 0 < k → k < needle.length → ¬ needle.drop k <+: needle

/-- Of two occurrences that overlap, the second one starts with an end of the needle. -/
theorem drop_prefix_of_overlap {j : Nat} (hi : needle <+: text.drop i)
    (hj : needle <+: text.drop j) (hle : i ≤ j) (hlt : j < i + needle.length) :
    needle.drop (j - i) <+: needle := by
  obtain ⟨tail, htail⟩ := hi
  have hend : needle.drop (j - i) <+: text.drop j := by
    refine ⟨tail, ?_⟩
    rw [← List.drop_append_of_le_length (by omega), htail, List.drop_drop]
    congr 1
    omega
  exact List.prefix_of_prefix_length_le hend hj (by rw [List.length_drop]; omega)

/-! ## The needle of a template -/

theorem expand_ne_nil (ht : template ≠ []) (hv : version ≠ []) : expand template version ≠ [] := by
  cases template with
  | nil => exact absurd rfl ht
  | cons c cs =>
    unfold expand replace replaceFrom
    split
    · exact fun h => hv (List.append_eq_nil_iff.mp h).1
    · exact List.cons_ne_nil _ _

/-- The needle of the bare marker is the version. -/
theorem expand_versionMarker (version : List Char) : expand versionMarker version = version :=
  List.append_nil version

end Text

open Text

namespace Artifact

variable {a : Artifact} {content : String} {old new v : Version} {template text : List Char}
variable {s : Span} {i : Nat}

/-! ## What stands alone -/

/-- A template matches at a position, and a version at its start or end is not a part of a longer
number there. -/
def Standalone (template text : List Char) (v : Version) (i : Nat) : Prop :=
  expand template v.text.toList <+: text.drop i ∧
    (startsWithMarker template = true → clearBefore text i = true) ∧
    (endsWithMarker template = true →
      clearAfter text (i + (expand template v.text.toList).length) = true)

theorem standsAlone_iff : standsAlone template text s = true ↔
    (startsWithMarker template = true → clearBefore text s.start = true) ∧
      (endsWithMarker template = true → clearAfter text s.stop = true) := by
  unfold standsAlone
  cases startsWithMarker template <;> cases endsWithMarker template <;> simp

/-- A position lies inside of a scanned occurrence that does not stand alone. -/
def Hidden (template text : List Char) (v : Version) (i : Nat) : Prop :=
  ∃ s ∈ occurrences (expand template v.text.toList) text,
    standsAlone template text s = false ∧ s.start < i ∧ i < s.stop

/-- A template matches at a position that is not hidden. -/
def Visible (template text : List Char) (v : Version) (i : Nat) : Prop :=
  Standalone template text v i ∧ ¬ Hidden template text v i

theorem visible_of_mem (h : s ∈ literalSpans template text v.text.toList) :
    Visible template text v s.start ∧
      s.stop = s.start + (expand template v.text.toList).length := by
  obtain ⟨hmem, halone⟩ := List.mem_filter.mp h
  have hleft := leftmost_occurrences (expand template v.text.toList) text
  obtain ⟨hstop, -, hpre⟩ := hleft.sound s hmem
  refine ⟨⟨⟨hpre, by rw [← hstop]; exact standsAlone_iff.mp halone⟩, ?_⟩, hstop⟩
  rintro ⟨t, ht, -, hlt, hin⟩
  exact absurd hin (Nat.not_lt_of_le (hleft.stop_le ht hmem hlt))

theorem exists_of_visible (hn : expand template v.text.toList ≠ [])
    (h : Visible template text v i) :
    ∃ s ∈ literalSpans template text v.text.toList, s.start ≤ i ∧ i < s.stop := by
  obtain ⟨⟨hpre, halone⟩, hnot⟩ := h
  have hleft := leftmost_occurrences (expand template v.text.toList) text
  obtain ⟨s, hs, hle, hcover⟩ := hleft.covering i _ (isPart_of_starts hpre hn)
  have hlt : i < s.stop := by
    refine hcover.resolve_right ?_
    rintro ⟨-, hself, -⟩
    have hpos := List.length_pos_iff.mpr hn
    omega
  refine ⟨s, List.mem_filter.mpr ⟨hs, ?_⟩, hle, hlt⟩
  rcases Nat.eq_or_lt_of_le hle with rfl | hinside
  · rw [← (hleft.sound s hs).1] at halone
    exact standsAlone_iff.mpr halone
  · -- an occurrence that starts before and does not stand alone would hide the position
    rw [← Bool.not_eq_false]
    exact fun hfalse => hnot ⟨s, hs, hfalse, hinside, hlt⟩

/-! ## Where nothing is hidden -/

/-- A template whose occurrences hide none: the version is neither at its start nor at its end, or
it is all there is, or the needle does not overlap itself. -/
def Unhiding (template : List Char) (v : Version) : Prop :=
  (startsWithMarker template = false ∧ endsWithMarker template = false) ∨
    template = versionMarker ∨ Rigid (expand template v.text.toList)

theorem not_clearBefore {j : Nat} (hpre : v.text.toList <+: text.drop j) (hlt : j < i)
    (hin : i ≤ j + v.text.toList.length) : clearBefore text i = false := by
  have hget : (text.take i).getLast? = v.text.toList[i - 1 - j]? := by
    obtain ⟨tail, htail⟩ := hpre
    have hlen := congrArg List.length htail
    rw [List.length_append, List.length_drop] at hlen
    have hleft : (v.text.toList ++ tail)[i - 1 - j]? = v.text.toList[i - 1 - j]? :=
      List.getElem?_append_left (by omega)
    have hlast : min i text.length - 1 = j + (i - 1 - j) := by omega
    rw [List.getLast?_eq_getElem?, List.length_take, List.getElem?_take_of_lt (by omega), ← hleft,
      htail, List.getElem?_drop, hlast]
  have hbound : i - 1 - j < v.text.toList.length := by omega
  unfold clearBefore
  rw [hget, List.getElem?_eq_getElem hbound]
  rcases Version.isDigit_or_of_mem_text (List.getElem_mem hbound) with hd | hd
  · have hdigit : Text.isDigit v.text.toList[i - 1 - j] = true := hd
    simp [hdigit]
  · simp [hd]

/-- **Where nothing is hidden.** -/
theorem hidden_free (h : Unhiding template v) (hi : Standalone template text v i) :
    ¬ Hidden template text v i := by
  rintro ⟨s, hs, hfalse, hlt, hin⟩
  obtain ⟨hstop, -, hpre⟩ :=
    (leftmost_occurrences (expand template v.text.toList) text).sound s hs
  rcases h with ⟨hstart, hend⟩ | rfl | hrigid
  · rw [standsAlone, hstart, hend] at hfalse
    exact Bool.noConfusion hfalse
  · -- a digit or a dot of the version stands before the position
    rw [expand_versionMarker] at hpre hstop
    have hclear : clearBefore text i = true := hi.2.1 (by decide)
    rw [not_clearBefore hpre hlt (by omega)] at hclear
    exact Bool.noConfusion hclear
  · exact hrigid (i - s.start) (by omega) (by omega)
      (drop_prefix_of_overlap hpre hi.1 (Nat.le_of_lt hlt) (by omega))

/-- The first span that is found starts at the leftmost position that is visible. -/
theorem start_of_leftmost {rest : List Span} (hn : expand template v.text.toList ≠ [])
    (hl : literalSpans template text v.text.toList = s :: rest) (hi : Visible template text v i)
    (hleast : ∀ j, j < i → ¬ Visible template text v j) : s.start = i := by
  have hs : s ∈ literalSpans template text v.text.toList := hl ▸ List.mem_cons_self
  obtain ⟨hvisible, hstop⟩ := visible_of_mem hs
  refine Nat.le_antisymm ?_ (Nat.le_of_not_lt fun hlt => hleast _ hlt hvisible)
  -- a span covers the position, and none starts before it
  obtain ⟨t, ht, hle, -⟩ := exists_of_visible hn hi
  have hti : t.start = i :=
    Nat.le_antisymm hle (Nat.le_of_not_lt fun hlt => hleast _ hlt (visible_of_mem ht).1)
  have hordered := literalSpans_ordered template text v.text.toList
  rw [hl] at ht hordered
  rcases List.mem_cons.mp ht with rfl | ht
  · exact Nat.le_of_eq hti
  · have hafter := (List.pairwise_cons.mp hordered).1 t ht
    omega

/-! ## What is replaced -/

section

variable [Regex.SizeLimit]

/-- An artifact finds the positions of its template that have a property. -/
structure Finds (a : Artifact) (content : String) (old new : Version) (P : Nat → Prop) : Prop where
  /-- Nothing is replaced exactly if there is none. -/
  none_iff : a.substitute content old new = .ok none ↔ ∀ i, ¬ P i
  /-- If one is to be replaced, it is the leftmost one. -/
  first : a.occurrence = .first → ∀ i, P i → (∀ j, j < i → ¬ P j) →
    a.substitute content old new = .ok (some ⟨String.ofList (content.toList.take i ++
      expand a.replacement.toList new.text.toList ++
      content.toList.drop (i + (expand a.search.toList old.text.toList).length)), 1⟩)
  /-- If all are to be replaced, each of them is, or starts inside of one that is. -/
  all : a.occurrence = .all → (∃ i, P i) → ∃ s c,
    a.substitute content old new = .ok (some s) ∧ content.toList = Pieces.text c ∧
    s.text.toList = c.fill (expand a.replacement.toList new.text.toList) ∧
    s.count = c.parts.length ∧
    (∀ span ∈ c.spans, P span.start ∧
      span.stop = span.start + (expand a.search.toList old.text.toList).length) ∧
    ∀ i, P i → ∃ span ∈ c.spans, span.start ≤ i ∧ i < span.stop

/-- What a literal artifact replaces. -/
structure Searched (a : Artifact) (content : String) (old new : Version) : Prop where
  /-- It finds what stands alone and is not hidden. -/
  visible : Finds a content old new (Visible a.search.toList content.toList old)
  /-- Where nothing is hidden, it finds all that stands alone. -/
  standalone :
    (∀ i, Standalone a.search.toList content.toList old i →
      ¬ Hidden a.search.toList content.toList old i) →
    Finds a content old new (Standalone a.search.toList content.toList old)
  /-- There are templates for which nothing is hidden, in any content. -/
  unhiding : Unhiding a.search.toList old →
    ∀ i, Standalone a.search.toList content.toList old i →
      ¬ Hidden a.search.toList content.toList old i

theorem finds_visible (hm : a.matcher = .literal)
    (hn : expand a.search.toList old.text.toList ≠ []) :
    Finds a content old new (Visible a.search.toList content.toList old) := by
  have hspans := spans_literal hm content.toList old
  have hfound : ∀ i, Visible a.search.toList content.toList old i →
      literalSpans a.search.toList content.toList old.text.toList ≠ [] := by
    intro i hi
    obtain ⟨s, hs, -⟩ := exists_of_visible hn hi
    exact List.ne_nil_of_mem hs
  refine ⟨?_, fun ho i hi hleast => ?_, fun ho hex => ?_⟩
  · rw [substitute_eq_none_iff hspans]
    refine ⟨fun hnil i hi => hfound i hi hnil, fun hnone => ?_⟩
    rw [List.eq_nil_iff_forall_not_mem]
    exact fun s hs => hnone s.start (visible_of_mem hs).1
  · refine (substitute_eq_some_iff hspans).mpr ⟨hfound i hi, ?_⟩
    cases hl : literalSpans a.search.toList content.toList old.text.toList with
    | nil => exact absurd hl (hfound i hi)
    | cons s rest =>
      have hstop := (visible_of_mem (hl ▸ List.mem_cons_self)).2
      rw [ho, ← start_of_leftmost hn hl hi hleast, ← hstop]
      rfl
  · obtain ⟨i, hi⟩ := hex
    have hs : a.substitute content old new = .ok (some _) :=
      (substitute_eq_some_iff hspans).mpr ⟨hfound i hi, rfl⟩
    obtain ⟨c, hcontent, htext, hcount, hc, -⟩ := exists_pieces_limit hspans hs
    rw [ho] at hc
    refine ⟨_, c, hs, hcontent, htext, hcount, fun span hspan => ?_, fun j hj => ?_⟩
    · rw [hc] at hspan
      exact visible_of_mem hspan
    · rw [hc]
      exact exists_of_visible hn hj

/-- **What a literal artifact replaces**: what stands alone and is not hidden. -/
theorem substitute_standalone (hm : a.matcher = .literal) (hs : a.search ≠ "") (content : String)
    (old new : Version) : Searched a content old new := by
  have hn : expand a.search.toList old.text.toList ≠ [] :=
    expand_ne_nil (fun h => hs (String.toList_eq_nil_iff.mp h)) old.text_ne_nil
  have hvisible : Finds a content old new (Visible a.search.toList content.toList old) :=
    finds_visible hm hn
  refine ⟨hvisible, fun hnone => ?_, fun h i hi => hidden_free h hi⟩
  have heq : Visible a.search.toList content.toList old =
      Standalone a.search.toList content.toList old :=
    funext fun i => propext ⟨And.left, fun hi => ⟨hi, hnone i hi⟩⟩
  exact heq ▸ hvisible

end

/-- An artifact that brings every version of a content up to date. -/
def everyVersion : Artifact := ⟨"x", "\x7bversion\x7d", none, .literal, .all, false⟩

/-- Longer numbers that contain the version are left alone. -/
theorem substitute_standalone_partial :
    everyVersion.matcher = .literal ∧ everyVersion.search ≠ "" ∧
    Unhiding everyVersion.search.toList ⟨0, 3, 1⟩ ∧
    everyVersion.substitute "10.3.1 0.3.10 0.3.1.2 v0.3.1 0.3.1." ⟨0, 3, 1⟩ ⟨0, 4, 0⟩ =
      .ok (some ⟨"10.3.1 0.3.10 0.3.1.2 v0.4.0 0.4.0.", 2⟩) ∧
    Searched everyVersion "10.3.1 0.3.10 0.3.1.2 v0.3.1 0.3.1." ⟨0, 3, 1⟩ ⟨0, 4, 0⟩ :=
  ⟨rfl, by decide, Or.inr (Or.inl rfl), ok_of_toOption (by decide +kernel),
    substitute_standalone rfl (by decide) _ _ _⟩

/-- An artifact with the version twice: its needle overlaps itself. -/
def versionTwice (o : Occurrence) : Artifact :=
  ⟨"x", "\x7bversion\x7d \x7bversion\x7d", none, .literal, o, false⟩

/-- A match that stands alone is missed, because an occurrence that does not hides it: nothing is
replaced, or a later match in its place. -/
theorem substitute_misses_hidden :
    Standalone (versionTwice .all).search.toList "11.0.0 1.0.0 1.0.0".toList ⟨1, 0, 0⟩ 7 ∧
    (versionTwice .all).substitute "11.0.0 1.0.0 1.0.0" ⟨1, 0, 0⟩ ⟨2, 0, 0⟩ = .ok none ∧
    Standalone (versionTwice .first).search.toList "11.0.0 1.0.0 1.0.0\n1.0.0 1.0.0\n".toList
      ⟨1, 0, 0⟩ 7 ∧
    (versionTwice .first).substitute "11.0.0 1.0.0 1.0.0\n1.0.0 1.0.0\n" ⟨1, 0, 0⟩ ⟨2, 0, 0⟩ =
      .ok (some ⟨"11.0.0 1.0.0 1.0.0\n2.0.0 2.0.0\n", 1⟩) := by
  refine ⟨⟨List.isPrefixOf_iff_prefix.mp (by decide +kernel), ?_⟩,
    ok_of_toOption (by decide +kernel),
    ⟨List.isPrefixOf_iff_prefix.mp (by decide +kernel), ?_⟩, ok_of_toOption (by decide +kernel)⟩
  · exact ⟨fun _ => by decide +kernel, fun _ => by decide +kernel⟩
  · exact ⟨fun _ => by decide +kernel, fun _ => by decide +kernel⟩

end Artifact

end Slipway
