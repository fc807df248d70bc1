import Slipway.Error
import Slipway.Proofs.Basic
import Slipway.Proofs.Text.Blank
import Slipway.Proofs.Text.Numeral

/-!
# The text of a version

About `VersionManager::parse` (`keel_core::version`). The text of a version consists of digits and
dots (`isDigit_or_of_mem_text`), and its parts between the dots are the numerals of its components
(`splitAtChar_text`). Between blanks, it is the only text that is read as that version
(`parse?_eq_some_iff`), so it is read back (`parse?_text`), and versions of the same text are the
same (`text_injective`).
-/

namespace Slipway.Version

variable {part : List Char} {v w : Version} {c : Char}

theorem toList_text (v : Version) : v.text.toList = Nat.toDigits 10 v.major.toNat ++
    '.' :: (Nat.toDigits 10 v.minor.toNat ++ '.' :: Nat.toDigits 10 v.patch.toNat) := by
  simp [text, toString]

theorem text_ne_nil (v : Version) : v.text.toList ≠ [] := by
  rw [toList_text]
  simp

theorem isDigit_or_of_mem_text (h : c ∈ v.text.toList) : c.isDigit = true ∨ c = '.' := by
  have hdigit : ∀ {n : Nat}, c ∈ Nat.toDigits 10 n → c.isDigit = true :=
    fun h => Nat.isDigit_of_mem_toDigits (by decide) (by decide) h
  rw [toList_text] at h
  simp only [List.mem_append, List.mem_cons] at h
  rcases h with h | h | h | h | h
  · exact Or.inl (hdigit h)
  · exact Or.inr h
  · exact Or.inl (hdigit h)
  · exact Or.inr h
  · exact Or.inl (hdigit h)

/-- A character that is neither a digit nor a dot does not stand in the text of a version. -/
theorem not_mem_text (v : Version) (hd : c.isDigit = false) (hp : c ≠ '.') :
    c ∉ v.text.toList := by
  intro h
  rcases isDigit_or_of_mem_text h with h | h
  · rw [hd] at h
    exact absurd h (by decide)
  · exact hp h

/-! ## The parts between the dots -/

theorem splitAtChar_of_not_mem {sep : Char} (h : sep ∉ part) : splitAtChar sep part = [part] := by
  induction part with
  | nil => rfl
  | cons c part ih =>
    rw [List.mem_cons, not_or] at h
    rw [splitAtChar, if_neg (Ne.symm h.1), ih h.2]

theorem splitAtChar_append {sep : Char} (h : sep ∉ part) (rest : List Char) :
    splitAtChar sep (part ++ sep :: rest) = part :: splitAtChar sep rest := by
  induction part with
  | nil => exact if_pos rfl
  | cons c part ih =>
    rw [List.mem_cons, not_or] at h
    rw [List.cons_append, splitAtChar, if_neg (Ne.symm h.1), ih h.2]

theorem splitAtChar_ne_nil (sep : Char) (cs : List Char) : splitAtChar sep cs ≠ [] := by
  cases cs with
  | nil => exact List.cons_ne_nil _ _
  | cons c cs =>
    unfold splitAtChar
    split
    · exact List.cons_ne_nil _ _
    · split <;> exact List.cons_ne_nil _ _

/-- The parts of a text make it up again. -/
theorem intercalate_splitAtChar (sep : Char) (cs : List Char) :
    [sep].intercalate (splitAtChar sep cs) = cs := by
  induction cs with
  | nil => rfl
  | cons c cs ih =>
    obtain ⟨part, parts, hparts⟩ := List.exists_cons_of_ne_nil (splitAtChar_ne_nil sep cs)
    rw [hparts] at ih
    rw [splitAtChar, hparts]
    by_cases hc : c = sep
    · rw [if_pos hc, List.intercalate_cons_cons, ih, hc]
      rfl
    · rw [if_neg hc, intercalate_cons_append, ih]

theorem splitAtChar_text (v : Version) : splitAtChar '.' v.text.toList =
    [Nat.toDigits 10 v.major.toNat, Nat.toDigits 10 v.minor.toNat,
      Nat.toDigits 10 v.patch.toNat] := by
  have hdot : ∀ n : Nat, '.' ∉ Nat.toDigits 10 n := fun n h =>
    absurd (Nat.isDigit_of_mem_toDigits (by decide) (by decide) h) (by decide)
  rw [toList_text, splitAtChar_append (hdot _), splitAtChar_append (hdot _),
    splitAtChar_of_not_mem (hdot _)]

/-! ## Reading the text back -/

theorem component?_toDigits (n : UInt64) : component? (Nat.toDigits 10 n.toNat) = some n := by
  have hdigits : (Nat.toDigits 10 n.toNat).all Text.isDigit = true := by
    rw [List.all_eq_true]
    intro c hc
    have hdigit : c.isDigit = true := Nat.isDigit_of_mem_toDigits (by decide) (by decide) hc
    exact hdigit
  have hzero : Nat.toDigits 10 n.toNat = ['0'] ∨ (Nat.toDigits 10 n.toNat).head? ≠ some '0' := by
    by_cases h : n.toNat = 0
    · rw [h]
      exact Or.inl (Nat.toDigits_zero 10)
    · exact Or.inr (Text.head?_toDigits h)
  unfold component?
  rw [if_pos ⟨Nat.toDigits_ne_nil, hdigits, hzero⟩]
  simp [Text.numeralValue_toDigits, n.toNat_lt_size]

/-- A component is read from the numeral that it is printed as. -/
theorem component?_eq_some_iff {n : UInt64} :
    component? part = some n ↔ part = Nat.toDigits 10 n.toNat := by
  refine ⟨fun h => ?_, fun h => h ▸ component?_toDigits n⟩
  unfold component? at h
  split at h
  · rename_i hnumeral
    split at h
    · rw [← Option.some.inj h, UInt64.toNat_ofNatLT,
        Text.toDigits_numeralValue hnumeral.1 hnumeral.2.1 hnumeral.2.2]
    · exact absurd h (by simp)
  · exact absurd h (by simp)

theorem ofTriple?_text (v : Version) : ofTriple? v.text.toList = some v := by
  unfold ofTriple?
  rw [splitAtChar_text]
  simp [component?_toDigits]

theorem ofTriple?_eq_some_iff {cs : List Char} : ofTriple? cs = some v ↔ cs = v.text.toList := by
  refine ⟨fun h => ?_, fun h => h ▸ ofTriple?_text v⟩
  unfold ofTriple? at h
  split at h
  · rename_i major minor patch hparts
    simp only [bind, Option.bind_eq_some_iff] at h
    obtain ⟨x, hmajor, y, hminor, z, hpatch, hv⟩ := h
    obtain rfl := Option.some.inj hv
    rw [← intercalate_splitAtChar '.' cs, hparts, component?_eq_some_iff.mp hmajor,
      component?_eq_some_iff.mp hminor, component?_eq_some_iff.mp hpatch, toList_text]
    simp
  · exact absurd h (by simp)

theorem isBlank_of_mem_text (h : c ∈ v.text.toList) : Text.isBlank c = false := by
  rcases isDigit_or_of_mem_text h with hdigit | rfl
  · exact Text.isBlank_of_isDigit hdigit
  · decide

theorem parse?_eq_some_iff {text : String} :
    parse? text = some v ↔ Text.trim text.toList = v.text.toList :=
  ofTriple?_eq_some_iff

/-- **The text of a version is read back.** -/
theorem parse?_text (v : Version) : parse? v.text = some v :=
  parse?_eq_some_iff.mpr (Text.trim_of_forall fun _ => isBlank_of_mem_text)

/-- Versions of the same text are the same. -/
theorem text_injective (h : v.text = w.text) : v = w :=
  Option.some.inj ((parse?_text v).symm.trans (h ▸ parse?_text w))

theorem parse_eq_ok_iff {text : String} : parse text = .ok v ↔ parse? text = some v := by
  unfold parse
  cases parse? text with
  | none => simp
  | some v' => simp

/-- What is read consists of digits and dots, and of blanks around them. -/
theorem mem_of_parse? {text : String} (h : parse? text = some v) (hc : c ∈ text.toList) :
    Text.isBlank c = true ∨ Text.isDigit c = true ∨ c = '.' := by
  by_cases hb : Text.isBlank c = true
  · exact Or.inl hb
  · have htrim := Text.mem_trim hc (Bool.not_eq_true _ ▸ hb)
    rw [parse?_eq_some_iff.mp h] at htrim
    exact Or.inr (isDigit_or_of_mem_text htrim)

/-- A version is not the one that follows it. -/
theorem bump?_ne {kind : BumpKind} (h : v.bump? kind = some w) : v ≠ w := by
  have hnext : ∀ {m n : UInt64}, next? m = some n → m ≠ n := by
    rintro m n hm rfl
    unfold next? at hm
    split at hm
    · have hn := congrArg UInt64.toNat (Option.some.inj hm)
      rw [UInt64.toNat_ofNatLT] at hn
      omega
    · exact absurd hm (by simp)
  rintro rfl
  cases kind with
  | major =>
    obtain ⟨n, hn, hv⟩ := Option.map_eq_some_iff.mp h
    exact hnext hn (congrArg major hv).symm
  | minor =>
    obtain ⟨n, hn, hv⟩ := Option.map_eq_some_iff.mp h
    exact hnext hn (congrArg minor hv).symm
  | patch =>
    obtain ⟨n, hn, hv⟩ := Option.map_eq_some_iff.mp h
    exact hnext hn (congrArg patch hv).symm

end Slipway.Version
