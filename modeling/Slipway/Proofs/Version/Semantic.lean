import Slipway.Proofs.Basic
import Slipway.Proofs.Version.Grammar

/-!
# The text of a semantic version

About `semver::Version::parse`. A semantic version is written as its triple, the identifiers of its
pre-release behind a `-` and those of its build behind a `+`, with dots between identifiers
(`written`). What is read as a semantic version is the text of one whose identifiers follow the
grammar (`WellFormed`), and nothing else (`parse?_eq_some_iff`); so a text names one version, and a
version has one text.
-/

namespace Slipway.SemanticVersion

variable {cs front part : List Char} {rest : Option (List Char)} {sep : Char}
variable {parts : List (List Char)} {ok : List Char → Bool} {v : SemanticVersion}

/-! ## Cutting -/

/-- A text behind the character that begins it, if there is one. -/
def behind (sep : Char) : Option (List Char) → List Char
  | none => []
  | some cs => sep :: cs

theorem cut_append (h : sep ∉ front) (cs : List Char) :
    cut sep (front ++ sep :: cs) = (front, some cs) := by
  unfold cut
  rw [dropWhile_append_cons h, takeWhile_append_cons h]

/-- A text is cut at the first occurrence of the character. -/
theorem cut_eq_iff : cut sep cs = (front, rest) ↔ sep ∉ front ∧ cs = front ++ behind sep rest := by
  constructor
  · intro h
    by_cases hmem : sep ∈ cs
    · obtain ⟨before, after, rfl, hbefore⟩ := List.eq_append_cons_of_mem hmem
      rw [cut_append hbefore] at h
      obtain ⟨rfl, rfl⟩ := Prod.mk.inj h
      exact ⟨hbefore, rfl⟩
    · rw [cut_of_not_mem hmem] at h
      obtain ⟨rfl, rfl⟩ := Prod.mk.inj h
      exact ⟨hmem, (List.append_nil _).symm⟩
  · rintro ⟨hfront, rfl⟩
    cases rest with
    | none =>
      rw [behind, List.append_nil]
      exact cut_of_not_mem hfront
    | some more => exact cut_append hfront more

/-! ## Identifiers -/

/-- Identifiers with dots between them, if there are any. -/
def dotted? : List (List Char) → Option (List Char)
  | [] => none
  | parts => some (['.'].intercalate parts)

theorem dotted?_of_ne_nil (h : parts ≠ []) : dotted? parts = some (['.'].intercalate parts) := by
  cases parts with
  | nil => exact absurd rfl h
  | cons part parts => rfl

theorem splitAtChar_intercalate (hne : parts ≠ []) (h : ∀ part ∈ parts, sep ∉ part) :
    Version.splitAtChar sep ([sep].intercalate parts) = parts := by
  induction parts with
  | nil => exact absurd rfl hne
  | cons part parts ih =>
    have hpart := h part List.mem_cons_self
    cases parts with
    | nil => simpa using Version.splitAtChar_of_not_mem hpart
    | cons next parts =>
      rw [List.intercalate_cons_cons, List.append_assoc, List.singleton_append,
        Version.splitAtChar_append hpart,
        ih (List.cons_ne_nil next parts) fun p hp => h p (List.mem_cons_of_mem part hp)]

/-- The identifiers of a part are read if all of them pass the test. -/
theorem parts?_eq_some_iff (hdot : ∀ part, ok part = true → '.' ∉ part) :
    parts? ok rest = some parts ↔ (∀ part ∈ parts, ok part = true) ∧ rest = dotted? parts := by
  constructor
  · intro h
    cases rest with
    | none =>
      obtain rfl := Option.some.inj h
      exact ⟨fun part hpart => absurd hpart List.not_mem_nil, rfl⟩
    | some cs =>
      simp only [parts?, Option.ite_none_right_eq_some, Option.some.injEq, List.all_eq_true] at h
      obtain ⟨hall, rfl⟩ := h
      rw [dotted?_of_ne_nil (Version.splitAtChar_ne_nil '.' cs), Version.intercalate_splitAtChar]
      exact ⟨hall, rfl⟩
  · rintro ⟨hall, rfl⟩
    cases parts with
    | nil => rfl
    | cons part parts =>
      have hsplit := splitAtChar_intercalate (List.cons_ne_nil part parts) fun p hp =>
        hdot p (hall p hp)
      simp only [dotted?, parts?, hsplit, List.all_eq_true]
      exact if_pos hall

/-- A part consists of the character that begins it, dots and identifiers. -/
theorem mem_behind_dotted? {c : Char} (h : c ∈ behind sep (dotted? parts)) :
    c = sep ∨ c = '.' ∨ ∃ part ∈ parts, c ∈ part := by
  cases parts with
  | nil => exact absurd h List.not_mem_nil
  | cons part parts =>
    rcases List.mem_cons.mp h with h | h
    · exact Or.inl h
    · exact Or.inr (mem_of_mem_intercalate h)

theorem isIdentifierChar_of_isBuildPart {c : Char} (h : isBuildPart part = true) (hc : c ∈ part) :
    isIdentifierChar c = true := by
  rw [isBuildPart, Bool.and_eq_true, List.all_eq_true] at h
  exact h.2 c hc

theorem isBuildPart_of_isPrePart (h : isPrePart part = true) : isBuildPart part = true := by
  rw [isPrePart, Bool.and_eq_true] at h
  exact h.1

/-- A character that no identifier may hold does not stand in one. -/
theorem not_mem_of_isBuildPart {c : Char} (hc : isIdentifierChar c = false)
    (h : isBuildPart part = true) : c ∉ part := by
  intro hm
  rw [isIdentifierChar_of_isBuildPart h hm] at hc
  exact Bool.noConfusion hc

/-! ## Versions -/

/-- The identifiers of a version follow the grammar. -/
structure WellFormed (v : SemanticVersion) : Prop where
  pre : ∀ part ∈ v.pre, isPrePart part = true
  build : ∀ part ∈ v.build, isBuildPart part = true

/-- The text of a semantic version. -/
def written (v : SemanticVersion) : List Char :=
  v.core.text.toList ++ behind '-' (dotted? v.pre) ++ behind '+' (dotted? v.build)

theorem parts?_pre_iff : parts? isPrePart rest = some parts ↔
    (∀ part ∈ parts, isPrePart part = true) ∧ rest = dotted? parts :=
  parts?_eq_some_iff fun _ h => not_mem_of_isBuildPart (by decide) (isBuildPart_of_isPrePart h)

theorem parts?_build_iff : parts? isBuildPart rest = some parts ↔
    (∀ part ∈ parts, isBuildPart part = true) ∧ rest = dotted? parts :=
  parts?_eq_some_iff fun _ h => not_mem_of_isBuildPart (by decide) h

/-- A build begins at the first `+`. -/
theorem WellFormed.not_plus (h : v.WellFormed) :
    '+' ∉ v.core.text.toList ++ behind '-' (dotted? v.pre) := by
  rw [List.mem_append, not_or]
  refine ⟨v.core.not_mem_text (by decide) (by decide), fun hm => ?_⟩
  rcases mem_behind_dotted? hm with hc | hc | ⟨part, hpart, hc⟩
  · exact absurd hc (by decide)
  · exact absurd hc (by decide)
  · exact not_mem_of_isBuildPart (by decide) (isBuildPart_of_isPrePart (h.pre part hpart)) hc

/-- **A text is read as a semantic version** exactly if it is the text of that version. -/
theorem parse?_eq_some_iff : parse? cs = some v ↔ v.WellFormed ∧ cs = v.written := by
  constructor
  · intro h
    unfold parse? at h
    cases hplus : cut '+' cs with
    | mk front build =>
      cases hminus : cut '-' front with
      | mk triple pre =>
        simp only [hplus, hminus, bind, Option.bind_eq_some_iff, pure, Option.some.injEq] at h
        obtain ⟨core, hcore, pre', hpre, build', hbuild, rfl⟩ := h
        rw [parts?_pre_iff] at hpre
        rw [parts?_build_iff] at hbuild
        refine ⟨⟨hpre.1, hbuild.1⟩, ?_⟩
        rw [(cut_eq_iff.mp hplus).2, (cut_eq_iff.mp hminus).2,
          Version.ofTriple?_eq_some_iff.mp hcore, hpre.2, hbuild.2]
        rfl
  · rintro ⟨hv, rfl⟩
    have hplus : cut '+' v.written = (v.core.text.toList ++ behind '-' (dotted? v.pre),
        dotted? v.build) := cut_eq_iff.mpr ⟨hv.not_plus, rfl⟩
    have hminus : cut '-' (v.core.text.toList ++ behind '-' (dotted? v.pre)) =
        (v.core.text.toList, dotted? v.pre) :=
      cut_eq_iff.mpr ⟨v.core.not_mem_text (by decide) (by decide), rfl⟩
    unfold parse?
    simp only [hplus, hminus, Version.ofTriple?_text, parts?_pre_iff.mpr ⟨hv.pre, rfl⟩,
      parts?_build_iff.mpr ⟨hv.build, rfl⟩]
    rfl

end Slipway.SemanticVersion
