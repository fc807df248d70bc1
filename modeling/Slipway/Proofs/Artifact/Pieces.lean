import Slipway.Artifact.Substitute
import Slipway.Proofs.Disk.Lookup
import Slipway.Proofs.Regex.Search
import Slipway.Proofs.Text.Span

/-!
# What a substitution touches

About `VersionedArtifact::substitute` (`keel_core::files`). A content is cut at the matches that are
replaced. The replacement stands between the same pieces, as it is, and the count is the number of
matches.

* `substitute_eq_none_iff`, `substitute_eq_some_iff`: a substitution by the spans that are found.
* `exists_replaced`: what a substitution replaces, for literals and for regular expressions.
-/

namespace Slipway

open Text

theorem Occurrence.limit_sublist {α : Type} (o : Occurrence) (xs : List α) :
    (o.limit xs).Sublist xs := by
  cases o with
  | first => exact List.take_sublist 1 xs
  | all => exact List.Sublist.refl xs

theorem Occurrence.limit_eq_nil_iff {α : Type} {o : Occurrence} {xs : List α} :
    o.limit xs = [] ↔ xs = [] := by
  cases o with
  | first => cases xs <;> simp [limit, bound?]
  | all => exact Iff.rfl

theorem Occurrence.map_limit {α β : Type} (o : Occurrence) (f : α → β) (xs : List α) :
    (o.limit xs).map f = o.limit (xs.map f) := by
  cases o with
  | first => exact List.map_take
  | all => rfl

/-- The limit of the second search, where zero stands for none, takes what is counted. -/
theorem Occurrence.chosen_eq_limit (o : Occurrence) (found : List Regex.Match) :
    Regex.chosen (o.bound?.getD 0) 0 found = o.limit found := by
  cases o with
  | first => rfl
  | all => rfl

namespace Artifact

/-! ## The spans that are found -/

/-- The spans where a regular expression matches. -/
def regexSpans (p : Regex.Program) (text : List Char) : List Span :=
  (Regex.allMatches p text.toArray).map Regex.Match.span

theorem mem_literalSpans {template text version : List Char} {span : Span}
    (h : span ∈ literalSpans template text version) :
    IsPart (expand template version) text span.start span.stop :=
  (leftmost_occurrences _ text).sound span (List.mem_filter.mp h).1

theorem literalSpans_ordered (template text version : List Char) :
    (literalSpans template text version).Pairwise fun s t => s.stop ≤ t.start :=
  ((leftmost_occurrences _ text).ordered.imp And.left).sublist List.filter_sublist

theorem leftmost_regexSpans (p : Regex.Program) (text : List Char) :
    Leftmost (p.Matches text.toArray) text.length (regexSpans p text) := by
  rw [← List.size_toArray]
  exact Regex.leftmost_allMatches p text.toArray

/-- A substitution that writes a replacement over spans, if there are any. -/
def substitutionBy (replacement content : List Char) (chosen : List Span) : Option Substitution :=
  match chosen with
  | [] => none
  | chosen => some ⟨String.ofList (splice replacement content chosen), chosen.length⟩

/-- **The two searches for a regular expression agree**: the text has as many replacements as were
counted, and they stand where the matches were. -/
theorem substituteRegex_eq (a : Artifact) (content replacement : List Char) (p : Regex.Program) :
    a.substituteRegex content replacement p =
      substitutionBy replacement content (a.occurrence.limit (regexSpans p content)) := by
  have htext : Regex.replaceN p content.toArray (a.occurrence.bound?.getD 0) replacement =
      splice replacement content (a.occurrence.limit (regexSpans p content)) := by
    rw [Regex.replaceN_eq_splice, Occurrence.chosen_eq_limit, Occurrence.map_limit]
    rfl
  have hcount : (a.occurrence.limit (Regex.allMatches p content.toArray)).length =
      (a.occurrence.limit (regexSpans p content)).length := by
    rw [regexSpans, ← Occurrence.map_limit, List.length_map]
  unfold substituteRegex
  simp only [htext, hcount]
  cases a.occurrence.limit (regexSpans p content) with
  | nil => rfl
  | cons span chosen => rfl

section

variable [Regex.SizeLimit] {a : Artifact} {content : String} {old new : Version}
variable {s : Substitution} {found : List Span}

/-! ## Substitutions by spans -/

/-- The spans where an artifact matches a version. -/
def spans (a : Artifact) (text : List Char) (old : Version) :
    Except ReleaseError (List Span) :=
  match a.matcher with
  | .literal => .ok (literalSpans a.search.toList text old.text.toList)
  | .regex =>
    let pattern := regexPattern a.search.toList old.text.toList
    match Regex.compile pattern with
    | .ok p => .ok (regexSpans p text)
    | .error defect => .error (.invalidPattern (String.ofList pattern) defect.message)

/-- A substitution is one by the spans that are found. -/
theorem substitute_eq (a : Artifact) (content : String) (old new : Version) :
    a.substitute content old new = (a.spans content.toList old).map fun found =>
      substitutionBy (expand a.replacement.toList new.text.toList) content.toList
        (a.occurrence.limit found) := by
  unfold substitute spans
  cases a.matcher with
  | literal => rfl
  | regex =>
    cases hc : Regex.compile (regexPattern a.search.toList old.text.toList) with
    | error defect =>
      simp only [hc]
      rfl
    | ok p =>
      simp only [hc, substituteRegex_eq]
      rfl

theorem substitute_eq_none_iff (h : a.spans content.toList old = .ok found) :
    a.substitute content old new = .ok none ↔ found = [] := by
  rw [substitute_eq, h, ← Occurrence.limit_eq_nil_iff (o := a.occurrence)]
  cases hchosen : a.occurrence.limit found with
  | nil => simp [Except.map, substitutionBy, hchosen]
  | cons span chosen => simp [Except.map, substitutionBy, hchosen]

theorem substitute_eq_some_iff (h : a.spans content.toList old = .ok found) :
    a.substitute content old new = .ok (some s) ↔ found ≠ [] ∧
      s = ⟨String.ofList (splice (expand a.replacement.toList new.text.toList) content.toList
        (a.occurrence.limit found)), (a.occurrence.limit found).length⟩ := by
  rw [substitute_eq, h, Ne, ← Occurrence.limit_eq_nil_iff (o := a.occurrence)]
  cases hchosen : a.occurrence.limit found with
  | nil => simp [Except.map, substitutionBy, hchosen]
  | cons span chosen => simp [Except.map, substitutionBy, hchosen, eq_comm]

theorem spans_of_substitute (h : a.substitute content old new = .ok (some s)) :
    ∃ found, a.spans content.toList old = .ok found := by
  rw [substitute_eq] at h
  obtain ⟨found, hfound, -⟩ := map_eq_ok_iff.mp h
  exact ⟨found, hfound⟩

theorem spans_literal (hm : a.matcher = .literal) (text : List Char) (old : Version) :
    a.spans text old = .ok (literalSpans a.search.toList text old.text.toList) := by
  unfold spans
  rw [hm]

theorem exists_compile (hm : a.matcher = .regex) {text : List Char}
    (h : a.spans text old = .ok found) :
    ∃ p, Regex.compile (regexPattern a.search.toList old.text.toList) = .ok p ∧
      found = regexSpans p text := by
  unfold spans at h
  rw [hm] at h
  simp only at h
  split at h
  · rename_i p hp
    exact ⟨p, hp, (Except.ok.inj h).symm⟩
  · exact absurd h (by simp)

/-- Spans that are found lie in the content, in order. -/
theorem spans_ordered {text : List Char} (h : a.spans text old = .ok found) :
    (∀ s ∈ found, s.start ≤ s.stop ∧ s.stop ≤ text.length) ∧
      found.Pairwise fun s t => s.stop ≤ t.start := by
  cases hm : a.matcher with
  | literal =>
    rw [spans_literal hm] at h
    obtain rfl := Except.ok.inj h
    exact ⟨fun s hs => (leftmost_occurrences _ text).bounded s (List.mem_filter.mp hs).1,
      literalSpans_ordered _ text _⟩
  | regex =>
    obtain ⟨p, -, rfl⟩ := exists_compile hm h
    have hleft := leftmost_regexSpans p text
    exact ⟨hleft.bounded, hleft.ordered.imp And.left⟩

/-! ## The pieces -/

/-- The pieces of a content at the matches that are replaced. -/
structure Replaced (a : Artifact) (content : String) (old new : Version) (s : Substitution)
    (c : Pieces) : Prop where
  /-- The content is cut at the matches. -/
  content_eq : content.toList = c.text
  /-- The replacement stands in place of every match, as it is; all else is kept. -/
  text_eq : s.text.toList = c.fill (expand a.replacement.toList new.text.toList)
  /-- The count is the number of matches that are replaced. -/
  count_eq : s.count = c.parts.length
  count_pos : 1 ≤ s.count
  count_first : a.occurrence = .first → s.count = 1
  /-- Every match of a literal is its needle. -/
  literal : a.matcher = .literal →
    ∀ part ∈ c.parts, part.1 = expand a.search.toList old.text.toList
  /-- The matches of a regular expression are its leftmost ones, or the first of them. -/
  regex : a.matcher = .regex → ∃ p,
    Regex.compile (regexPattern a.search.toList old.text.toList) = .ok p ∧
    Leftmost (p.Matches content.toList.toArray) content.toList.length
      (regexSpans p content.toList) ∧
    c.spans = a.occurrence.limit (regexSpans p content.toList)

/-- A content is cut at the spans that are chosen. -/
theorem exists_pieces_limit (h : a.spans content.toList old = .ok found)
    (hs : a.substitute content old new = .ok (some s)) :
    ∃ c : Pieces, content.toList = c.text ∧
      s.text.toList = c.fill (expand a.replacement.toList new.text.toList) ∧
      s.count = c.parts.length ∧ c.spans = a.occurrence.limit found ∧
      c.parts.map Prod.fst = (a.occurrence.limit found).map (Span.of · content.toList) := by
  obtain ⟨hbounds, hordered⟩ := spans_ordered h
  have hsub := a.occurrence.limit_sublist found
  obtain ⟨c, htext, hfill, hspans, hparts⟩ :=
    exists_pieces (fun s hs => hbounds s (hsub.mem hs)) (hordered.sublist hsub)
  obtain ⟨-, rfl⟩ := (substitute_eq_some_iff h).mp hs
  refine ⟨c, htext.symm, by rw [String.toList_ofList, hfill], ?_, hspans, hparts⟩
  rw [← hspans]
  exact Pieces.length_spansFrom c.front.length c.parts

/-- **What a substitution replaces**: matches, one after the other, with the text between them
kept. -/
theorem exists_replaced (h : a.substitute content old new = .ok (some s)) :
    ∃ c, Replaced a content old new s c := by
  obtain ⟨found, hfound⟩ := spans_of_substitute h
  obtain ⟨c, hcontent, htext, hcount, hspans, hparts⟩ := exists_pieces_limit hfound h
  obtain ⟨hne, rfl⟩ := (substitute_eq_some_iff hfound).mp h
  have hpos : 1 ≤ (a.occurrence.limit found).length :=
    List.length_pos_iff.mpr fun hnil => hne (Occurrence.limit_eq_nil_iff.mp hnil)
  refine ⟨c, hcontent, htext, hcount, hpos, fun ho => ?_, fun hm part hpart => ?_, fun hm => ?_⟩
  · have hle : (a.occurrence.limit found).length ≤ 1 := by
      rw [ho]
      exact List.length_take_le 1 found
    exact Nat.le_antisymm hle hpos
  · rw [spans_literal hm] at hfound
    obtain rfl := Except.ok.inj hfound
    have hmem := List.mem_map_of_mem (f := Prod.fst) hpart
    rw [hparts] at hmem
    obtain ⟨span, hspan, heq⟩ := List.mem_map.mp hmem
    rw [← heq]
    exact (mem_literalSpans ((a.occurrence.limit_sublist _).mem hspan)).of_eq
  · obtain ⟨p, hp, rfl⟩ := exists_compile hm hfound
    exact ⟨p, hp, leftmost_regexSpans p content.toList, hspans⟩

end

/-- An artifact with a regular expression, and a replacement with a dollar sign and a backslash. -/
def dollars : Artifact :=
  ⟨"x", "v=\x7bversion\x7d", some "$1\\\x7bversion\x7d", .regex, .all, false⟩

/-- Two matches next to characters of several bytes: the replacement is taken as it is. -/
theorem exists_replaced_dollars :
    dollars.substitute "é v=0.3.1é v=0.3.1" ⟨0, 3, 1⟩ ⟨0, 4, 0⟩ =
      .ok (some ⟨"é $1\\0.4.0é $1\\0.4.0", 2⟩) ∧
    ∃ c, Replaced dollars "é v=0.3.1é v=0.3.1" ⟨0, 3, 1⟩ ⟨0, 4, 0⟩
      ⟨"é $1\\0.4.0é $1\\0.4.0", 2⟩ c := by
  have h : dollars.substitute "é v=0.3.1é v=0.3.1" ⟨0, 3, 1⟩ ⟨0, 4, 0⟩ =
      .ok (some ⟨"é $1\\0.4.0é $1\\0.4.0", 2⟩) :=
    ok_of_toOption (by decide +kernel)
  exact ⟨h, exists_replaced h⟩

end Artifact

end Slipway
