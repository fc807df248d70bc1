import Slipway.Proofs.Basic
import Slipway.Proofs.Text.Numeral
import Slipway.Version.Semantic

/-!
# The order of versions

About `semver::Version::cmp`, for `Repository::latest_version_tag` (`keel_git::repository`). Which
of two versions comes first, as rules that do not mention the comparison: `Version.Precedes` for
triples, `PartPrecedes` for identifiers, `SemanticVersion.Precedes` for whole versions. The
comparison follows the rules (`compareCore_eq_lt_iff`, `compare_eq_lt_iff`). It is transitive, and
only equal versions compare equal, so of two different versions exactly one comes first
(`precedes_or_precedes`, `Precedes.not_precedes`).
-/

namespace Slipway

open Std

/-! ## Triples -/

/-- A triple comes before another one: the first component in which they differ is smaller. -/
def Version.Precedes (v w : Version) : Prop :=
  v.major < w.major ∨
    v.major = w.major ∧ (v.minor < w.minor ∨ v.minor = w.minor ∧ v.patch < w.patch)

namespace Version

variable {u v w : Version}

theorem precedes_iff_toNat : v.Precedes w ↔
    v.major.toNat < w.major.toNat ∨ v.major.toNat = w.major.toNat ∧
      (v.minor.toNat < w.minor.toNat ∨
        v.minor.toNat = w.minor.toNat ∧ v.patch.toNat < w.patch.toNat) := by
  unfold Precedes
  simp only [UInt64.lt_iff_toNat_lt, UInt64.toNat_inj]

theorem eq_iff_toNat : v = w ↔ v.major.toNat = w.major.toNat ∧
    v.minor.toNat = w.minor.toNat ∧ v.patch.toNat = w.patch.toNat := by
  simp only [UInt64.toNat_inj]
  constructor
  · rintro rfl
    exact ⟨rfl, rfl, rfl⟩
  · rintro ⟨hmajor, hminor, hpatch⟩
    cases v
    cases w
    congr

theorem Precedes.ne (h : v.Precedes w) : v ≠ w := by
  rw [precedes_iff_toNat] at h
  rw [ne_eq, eq_iff_toNat]
  omega

theorem Precedes.trans (h : u.Precedes v) (h' : v.Precedes w) : u.Precedes w := by
  rw [precedes_iff_toNat] at h h' ⊢
  omega

end Version

namespace SemanticVersion

variable {a b : List Char} {p q : List (List Char)} {u v w : SemanticVersion}

theorem compareCore_eq : compareCore =
    compareLex (compareOn fun v => v.major.toNat)
      (compareLex (compareOn fun v => v.minor.toNat) (compareOn fun v => v.patch.toNat)) := rfl

instance : TransCmp compareCore := compareCore_eq ▸ inferInstance

instance : LawfulEqCmp compareCore where
  eq_of_compare {v w} h := by
    unfold compareCore at h
    simpa only [Ordering.then_eq_eq, Nat.compare_eq_eq, ← Version.eq_iff_toNat] using h

theorem compareCore_eq_lt_iff {v w : Version} : compareCore v w = .lt ↔ v.Precedes w := by
  unfold compareCore
  simp only [Ordering.then_eq_lt, Nat.compare_eq_lt, Nat.compare_eq_eq, Version.precedes_iff_toNat]

/-! ## Texts -/

theorem compareChars_eq : compareChars = List.compareLex (compareOn Char.toNat) := by
  funext a b
  induction a generalizing b with
  | nil => cases b <;> rfl
  | cons c a ih =>
    cases b with
    | nil => rfl
    | cons d b =>
      rw [List.compareLex_cons_cons, ← ih]
      rfl

instance : LawfulEqCmp (compareOn Char.toNat) where
  compare_self := Nat.compare_eq_eq.mpr rfl
  eq_of_compare h := Char.toNat_inj.mp (Nat.compare_eq_eq.mp h)

instance : TransCmp compareChars := compareChars_eq ▸ inferInstance

theorem compareChars_eq_lt_iff :
    compareChars a b = .lt ↔ List.Lex (fun c d => c.toNat < d.toNat) a b := by
  rw [compareChars_eq, compareLex_eq_lt_iff]
  simp only [compareOn, Nat.compare_eq_lt]

/-! ## Identifiers -/

/-- An identifier comes before another one. -/
inductive PartPrecedes : List Char → List Char → Prop
  /-- Numbers are ordered by value. -/
  | value {a b : List Char} (ha : isNumeric a = true) (hb : isNumeric b = true)
      (h : Text.numeralValue a < Text.numeralValue b) : PartPrecedes a b
  /-- Of two numerals of one value, the one with fewer leading zeros comes first. -/
  | zeros {a b : List Char} (ha : isNumeric a = true) (hb : isNumeric b = true)
      (h : Text.numeralValue a = Text.numeralValue b) (hl : a.length < b.length) : PartPrecedes a b
  /-- Numbers come before all other identifiers. -/
  | numeric {a b : List Char} (ha : isNumeric a = true) (hb : isNumeric b = false) :
      PartPrecedes a b
  /-- The others are ordered as texts. -/
  | text {a b : List Char} (ha : isNumeric a = false) (hb : isNumeric b = false)
      (h : List.Lex (fun c d => c.toNat < d.toNat) a b) : PartPrecedes a b

theorem comparePart_numeric (ha : isNumeric a = true) (hb : isNumeric b = true) :
    comparePart a b = compareNumerals a b := by
  simp only [comparePart, ha, hb]

theorem comparePart_text (ha : isNumeric a = false) (hb : isNumeric b = false) :
    comparePart a b = compareChars a b := by
  simp only [comparePart, ha, hb]

theorem comparePart_numeric_text (ha : isNumeric a = true) (hb : isNumeric b = false) :
    comparePart a b = .lt := by
  simp only [comparePart, ha, hb]

theorem comparePart_text_numeric (ha : isNumeric a = false) (hb : isNumeric b = true) :
    comparePart a b = .gt := by
  simp only [comparePart, ha, hb]

theorem compareNumerals_eq : compareNumerals =
    compareLex (compareOn Text.numeralValue) (compareOn List.length) := rfl

instance : TransCmp compareNumerals := compareNumerals_eq ▸ inferInstance

instance : OrientedCmp comparePart where
  eq_swap {a b} := by
    cases ha : isNumeric a with
    | true =>
      cases hb : isNumeric b with
      | true =>
        rw [comparePart_numeric ha hb, comparePart_numeric hb ha]
        exact OrientedCmp.eq_swap
      | false =>
        rw [comparePart_numeric_text ha hb, comparePart_text_numeric hb ha]
        rfl
    | false =>
      cases hb : isNumeric b with
      | true =>
        rw [comparePart_text_numeric ha hb, comparePart_numeric_text hb ha]
        rfl
      | false =>
        rw [comparePart_text ha hb, comparePart_text hb ha]
        exact OrientedCmp.eq_swap

/-- What does not come after a number is one, and what no text comes after is a text. -/
theorem isNumeric_of_isLE (h : (comparePart a b).isLE = true) (hb : isNumeric b = true) :
    isNumeric a = true := by
  cases ha : isNumeric a with
  | true => rfl
  | false =>
    rw [comparePart_text_numeric ha hb] at h
    exact absurd h (by decide)

instance : TransCmp comparePart where
  isLE_trans {a b c} hab hbc := by
    cases hc : isNumeric c with
    | true =>
      have hb := isNumeric_of_isLE hbc hc
      have ha := isNumeric_of_isLE hab hb
      rw [comparePart_numeric ha hb] at hab
      rw [comparePart_numeric hb hc] at hbc
      rw [comparePart_numeric ha hc]
      exact TransCmp.isLE_trans hab hbc
    | false =>
      cases ha : isNumeric a with
      | true =>
        rw [comparePart_numeric_text ha hc]
        rfl
      | false =>
        have hb : isNumeric b = false := by
          rw [← Bool.not_eq_true]
          intro hb
          rw [isNumeric_of_isLE hab hb] at ha
          exact Bool.noConfusion ha
        rw [comparePart_text ha hb] at hab
        rw [comparePart_text hb hc] at hbc
        rw [comparePart_text ha hc]
        exact TransCmp.isLE_trans hab hbc

instance : LawfulEqCmp comparePart where
  compare_self := ReflCmp.compare_self
  eq_of_compare {a b} h := by
    cases ha : isNumeric a with
    | true =>
      cases hb : isNumeric b with
      | true =>
        rw [comparePart_numeric ha hb, compareNumerals, Ordering.then_eq_eq, Nat.compare_eq_eq,
          Nat.compare_eq_eq] at h
        exact Text.eq_of_numeralValue ha hb h.1 h.2
      | false =>
        rw [comparePart_numeric_text ha hb] at h
        exact absurd h (by decide)
    | false =>
      cases hb : isNumeric b with
      | true =>
        rw [comparePart_text_numeric ha hb] at h
        exact absurd h (by decide)
      | false =>
        rw [comparePart_text ha hb, compareChars_eq] at h
        exact eq_of_compareLex h

theorem comparePart_eq_lt_iff : comparePart a b = .lt ↔ PartPrecedes a b := by
  constructor
  · intro h
    cases ha : isNumeric a with
    | true =>
      cases hb : isNumeric b with
      | true =>
        rw [comparePart_numeric ha hb, compareNumerals, Ordering.then_eq_lt, Nat.compare_eq_lt,
          Nat.compare_eq_eq, Nat.compare_eq_lt] at h
        rcases h with h | ⟨h, hl⟩
        · exact .value ha hb h
        · exact .zeros ha hb h hl
      | false => exact .numeric ha hb
    | false =>
      cases hb : isNumeric b with
      | true =>
        rw [comparePart_text_numeric ha hb] at h
        exact absurd h (by decide)
      | false =>
        rw [comparePart_text ha hb] at h
        exact .text ha hb (compareChars_eq_lt_iff.mp h)
  · intro h
    cases h with
    | value ha hb h =>
      rw [comparePart_numeric ha hb, compareNumerals, Ordering.then_eq_lt, Nat.compare_eq_lt]
      exact Or.inl h
    | zeros ha hb h hl =>
      rw [comparePart_numeric ha hb, compareNumerals, Ordering.then_eq_lt, Nat.compare_eq_eq,
        Nat.compare_eq_lt (a := a.length)]
      exact Or.inr ⟨h, hl⟩
    | numeric ha hb => exact comparePart_numeric_text ha hb
    | text ha hb h =>
      rw [comparePart_text ha hb]
      exact compareChars_eq_lt_iff.mpr h

/-! ## Pre-releases and builds -/

theorem compareParts_eq : compareParts = List.compareLex comparePart := by
  funext p q
  induction p generalizing q with
  | nil => cases q <;> rfl
  | cons a p ih =>
    cases q with
    | nil => rfl
    | cons b q =>
      rw [List.compareLex_cons_cons, ← ih]
      rfl

instance : TransCmp compareParts := compareParts_eq ▸ inferInstance

instance : LawfulEqCmp compareParts where
  compare_self := ReflCmp.compare_self
  eq_of_compare h := eq_of_compareLex (compareParts_eq ▸ h)

theorem compareParts_eq_lt_iff : compareParts p q = .lt ↔ List.Lex PartPrecedes p q := by
  rw [compareParts_eq, compareLex_eq_lt_iff]
  simp only [comparePart_eq_lt_iff]

/-- A pre-release comes before another one; the release itself, which has no identifiers, comes
after all of them. -/
def PrePrecedes (p q : List (List Char)) : Prop :=
  p ≠ [] ∧ (q = [] ∨ List.Lex PartPrecedes p q)

/-- The releases come last. -/
theorem comparePre_eq : comparePre =
    compareLex (compareOn fun p => if p.isEmpty then 1 else 0) compareParts := by
  funext p q
  cases p with
  | nil => cases q <;> rfl
  | cons a p => cases q <;> rfl

instance : TransCmp comparePre := comparePre_eq ▸ inferInstance

instance : LawfulEqCmp comparePre where
  compare_self := ReflCmp.compare_self
  eq_of_compare {p q} h := by
    rw [comparePre_eq, compareLex_eq_eq] at h
    exact LawfulEqCmp.eq_of_compare h.2

theorem comparePre_eq_lt_iff : comparePre p q = .lt ↔ PrePrecedes p q := by
  unfold PrePrecedes
  cases p with
  | nil => cases q <;> simp [comparePre]
  | cons a p =>
    cases q with
    | nil => simp [comparePre]
    | cons b q => simp [comparePre, compareParts_eq_lt_iff]

/-! ## Versions -/

/-- A version comes before another one: the triples decide first, then the pre-releases, and the
builds last. -/
def Precedes (v w : SemanticVersion) : Prop :=
  v.core.Precedes w.core ∨ v.core = w.core ∧
    (PrePrecedes v.pre w.pre ∨ v.pre = w.pre ∧ List.Lex PartPrecedes v.build w.build)

theorem compare_eq_lt_iff : compare v w = .lt ↔ v.Precedes w := by
  unfold compare Precedes
  rw [Ordering.then_eq_lt, Ordering.then_eq_lt, compareCore_eq_lt_iff, comparePre_eq_lt_iff,
    compareParts_eq_lt_iff, LawfulEqCmp.compare_eq_iff_eq, LawfulEqCmp.compare_eq_iff_eq]

instance : TransCmp compare :=
  have := transCmp_on compareCore core
  have := transCmp_on comparePre pre
  have := transCmp_on compareParts build
  inferInstanceAs (TransCmp (compareLex
    (fun v w : SemanticVersion => compareCore v.core w.core)
    (compareLex (fun v w => comparePre v.pre w.pre) fun v w => compareParts v.build w.build)))

instance : LawfulEqCmp compare where
  compare_self := ReflCmp.compare_self
  eq_of_compare {v w} h := by
    unfold compare at h
    rw [Ordering.then_eq_eq, Ordering.then_eq_eq, LawfulEqCmp.compare_eq_iff_eq,
      LawfulEqCmp.compare_eq_iff_eq, LawfulEqCmp.compare_eq_iff_eq] at h
    obtain ⟨hcore, hpre, hbuild⟩ := h
    cases v
    cases w
    congr

theorem Precedes.trans (h : u.Precedes v) (h' : v.Precedes w) : u.Precedes w := by
  rw [← compare_eq_lt_iff] at h h' ⊢
  exact TransCmp.lt_trans h h'

theorem Precedes.not_precedes (h : v.Precedes w) : ¬ w.Precedes v := by
  rw [← compare_eq_lt_iff] at h ⊢
  rw [OrientedCmp.gt_of_lt h]
  decide

/-- **Of two different versions one comes first.** -/
theorem precedes_or_precedes (h : v ≠ w) : v.Precedes w ∨ w.Precedes v := by
  rw [← compare_eq_lt_iff, ← compare_eq_lt_iff]
  cases hc : compare v w with
  | lt => exact Or.inl rfl
  | eq => exact absurd (LawfulEqCmp.eq_of_compare hc) h
  | gt => exact Or.inr (OrientedCmp.lt_of_gt hc)

/-- A version is another one or comes before it. -/
def AtMost (v w : SemanticVersion) : Prop := v = w ∨ v.Precedes w

theorem AtMost.trans (h : u.AtMost v) (h' : v.AtMost w) : u.AtMost w := by
  rcases h with rfl | h
  · exact h'
  · rcases h' with rfl | h'
    · exact Or.inr h
    · exact Or.inr (h.trans h')

theorem atMost_of_not_precedes (h : ¬ v.Precedes w) : w.AtMost v := by
  by_cases heq : w = v
  · exact Or.inl heq
  · exact Or.inr ((precedes_or_precedes heq).resolve_right h)

end SemanticVersion

end Slipway
