import Slipway.Artifact.Substitute

/-!
# The first occurrence

About `VersionedArtifact::substitute` (`keel_core::files`). A literal artifact that replaces the
first occurrence of its template splits the text there, and writes the other version between the two
parts (`Artifact.substitute_first`), as long as the template neither starts nor ends with the
version.
-/

namespace Slipway

namespace Text

variable {needle front back text rest : List Char} {c : Char}

theorem after?_eq_some_iff : after? needle text = some rest ↔ text = needle ++ rest :=
  ⟨eq_append_of_after?, fun h => h ▸ after?_append needle rest⟩

theorem isPrefixOf_eq : needle.isPrefixOf text = (after? needle text).isSome := by
  rw [Bool.eq_iff_iff, List.isPrefixOf_iff_prefix, Option.isSome_iff_exists]
  constructor
  · rintro ⟨rest, rfl⟩
    exact ⟨rest, after?_append needle rest⟩
  · rintro ⟨rest, h⟩
    exact ⟨rest, (eq_append_of_after? h).symm⟩

/-- Splitting a text at a needle gives what stands before and after it. -/
theorem eq_append_of_split? (h : split? needle text = some (front, back)) :
    text = front ++ needle ++ back := by
  induction text generalizing front with
  | nil =>
    unfold split? at h
    split at h
    · rename_i hn
      obtain ⟨rfl, rfl⟩ := Prod.mk.inj (Option.some.inj h)
      rw [hn]
      rfl
    · exact absurd h (by simp)
  | cons c text ih =>
    unfold split? at h
    split at h
    · rename_i rest hafter
      obtain ⟨rfl, rfl⟩ := Prod.mk.inj (Option.some.inj h)
      exact eq_append_of_after? hafter
    · obtain ⟨⟨front', back'⟩, hsplit, hpair⟩ := Option.map_eq_some_iff.mp h
      obtain ⟨rfl, rfl⟩ := Prod.mk.inj hpair
      rw [ih hsplit]
      rfl

/-- The first occurrence of a needle is where the text is split. -/
theorem occurrencesFrom_head? (hn : needle ≠ []) (start : Nat) (text : List Char) :
    (occurrencesFrom needle start 0 text).head? = (split? needle text).map fun parts =>
      ⟨start + parts.1.length, start + parts.1.length + needle.length⟩ := by
  induction text generalizing start with
  | nil =>
    unfold occurrencesFrom split?
    rw [if_neg hn, if_neg hn]
    rfl
  | cons c text ih =>
    unfold occurrencesFrom split?
    rw [isPrefixOf_eq]
    cases hafter : after? needle (c :: text) with
    | some rest => rfl
    | none =>
      simp only [Option.isSome_none, Bool.false_eq_true, if_false, ih, Option.map_map]
      cases split? needle text with
      | none => rfl
      | some parts => simp [Nat.add_assoc, Nat.add_comm 1]

theorem splice_between (replacement front needle back : List Char) :
    splice replacement (front ++ needle ++ back)
      [⟨front.length, front.length + needle.length⟩] = front ++ replacement ++ back := by
  have htake : (front ++ needle ++ back).take front.length = front := by
    rw [List.append_assoc, List.take_left]
  have hdrop : (front ++ needle ++ back).drop (front.length + needle.length) = back := by
    rw [← List.length_append, List.drop_left]
  show (front ++ needle ++ back).take (front.length - 0) ++ replacement ++
    (front ++ needle ++ back).drop (front.length + needle.length - 0) = _
  rw [Nat.sub_zero, Nat.sub_zero, htake, hdrop]

end Text

open Text

variable [Regex.SizeLimit] {a : Artifact}

/-- **A literal artifact that replaces the first occurrence** splits the text there. -/
theorem Artifact.substitute_first (hm : a.matcher = .literal) (ho : a.occurrence = .first)
    (hs : startsWithMarker a.search.toList = false) (he : endsWithMarker a.search.toList = false)
    (text : String) (old new : Version) (hn : expand a.search.toList old.text.toList ≠ []) :
    a.substitute text old new = .ok ((split? (expand a.search.toList old.text.toList)
      text.toList).map fun parts => ⟨String.ofList
        (parts.1 ++ expand a.replacement.toList new.text.toList ++ parts.2), 1⟩) := by
  have hall : literalSpans a.search.toList text.toList old.text.toList =
      occurrences (expand a.search.toList old.text.toList) text.toList := by
    unfold literalSpans
    rw [List.filter_eq_self]
    intro span _
    unfold standsAlone
    rw [hs, he]
    rfl
  have hhead : (occurrences (expand a.search.toList old.text.toList) text.toList).head? = _ :=
    occurrencesFrom_head? hn 0 text.toList
  unfold substitute substituteLiteral
  simp only [hm, ho, hall, Occurrence.limit, Occurrence.bound?]
  cases hsplit : split? (expand a.search.toList old.text.toList) text.toList with
  | none =>
    rw [hsplit, Option.map_none, List.head?_eq_none_iff] at hhead
    rw [hhead]
    rfl
  | some parts =>
    rw [hsplit, Option.map_some] at hhead
    obtain ⟨spans, hspans⟩ := List.head?_eq_some_iff.mp hhead
    rw [hspans, eq_append_of_split? hsplit]
    simp only [Nat.zero_add, List.take_succ_cons, List.take_zero, splice_between]
    rfl

end Slipway
