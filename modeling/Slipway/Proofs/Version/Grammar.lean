import Slipway.Proofs.Version.Text
import Slipway.Version.Semantic

/-!
# The grammar of versions

About `VersionManager::parse` (`keel_core::version`). A version is written as three numerals with
dots between them (`Dotted`), where a numeral has no leading zeros (`Numeral`). `Version.parse`
reads what the grammar gives, with blanks around it, and nothing else; the version it reads is shown
as the text without the blanks, and a text that it refuses is told as it is (`parse_grammar`).

The grammar of semantic versions is larger: it has pre-release and build parts. A version is read
where the larger grammar reads it without these parts (`SemanticVersion.parse?_eq_core_iff`).
-/

namespace Slipway.SemanticVersion

variable {cs : List Char} {rest : Option (List Char)} {sep : Char}

/-! ## Triples among the semantic versions -/

theorem cut_of_not_mem (h : sep ∉ cs) : cut sep cs = (cs, none) := by
  unfold cut
  rw [dropWhile_of_not_mem h]

theorem fst_cut_of_none (h : (cut sep cs).2 = none) : (cut sep cs).1 = cs := by
  unfold cut at h ⊢
  split
  · rfl
  · rename_i hend
    rw [hend] at h
    cases h

/-- Only a part that is missing has no identifiers. -/
theorem eq_none_of_parts? {ok : List Char → Bool} (h : parts? ok rest = some []) : rest = none := by
  cases rest with
  | none => rfl
  | some cs =>
    simp only [parts?, Option.ite_none_right_eq_some, Option.some.injEq] at h
    exact absurd h.2 (Version.splitAtChar_ne_nil '.' cs)

/-- The triples among the semantic versions are those without pre-release and build parts. -/
theorem parse?_eq_core_iff {v : Version} :
    parse? cs = some ⟨v, [], []⟩ ↔ Version.ofTriple? cs = some v := by
  constructor
  · intro h
    unfold parse? at h
    simp only [bind, Option.bind_eq_some_iff, pure, Option.some.injEq, mk.injEq] at h
    obtain ⟨core, hcore, pre, hpre, build, hbuild, rfl, rfl, rfl⟩ := h
    have hfront := fst_cut_of_none (eq_none_of_parts? hbuild)
    rwa [fst_cut_of_none (eq_none_of_parts? hpre), hfront] at hcore
  · intro h
    have htext := Version.ofTriple?_eq_some_iff.mp h
    have hplus : '+' ∉ cs := htext ▸ v.not_mem_text (by decide) (by decide)
    have hminus : '-' ∉ cs := htext ▸ v.not_mem_text (by decide) (by decide)
    unfold parse?
    simp only [cut_of_not_mem hplus, cut_of_not_mem hminus, h]
    rfl

end Slipway.SemanticVersion

namespace Slipway.Version

variable {cs : List Char} {n : Nat} {v : Version}

/-! ## Numerals -/

/-- A decimal numeral without leading zeros, and its value. -/
inductive Numeral : List Char → Nat → Prop
  /-- A digit. -/
  | digit {d : Nat} (hd : d < 10) : Numeral [Nat.digitChar d] d
  /-- A numeral other than zero that is continued by a digit. -/
  | snoc {cs : List Char} {n d : Nat} (front : Numeral cs n) (hn : 0 < n) (hd : d < 10) :
    Numeral (cs ++ [Nat.digitChar d]) (10 * n + d)

theorem Numeral.eq_toDigits (h : Numeral cs n) : cs = Nat.toDigits 10 n := by
  induction h with
  | digit hd => exact (Nat.toDigits_of_lt_base hd).symm
  | snoc front hn hd ih => rw [Text.toDigits_snoc hn hd, ih]

/-- Every number has a numeral. -/
theorem Numeral.toDigits (n : Nat) : Numeral (Nat.toDigits 10 n) n := by
  induction n using Nat.strongRecOn with
  | ind n ih =>
    by_cases hn : n < 10
    · rw [Nat.toDigits_of_lt_base hn]
      exact .digit hn
    · have hsplit : 10 * (n / 10) + n % 10 = n := Nat.div_add_mod n 10
      have hsnoc : Numeral (Nat.toDigits 10 (n / 10) ++ [Nat.digitChar (n % 10)])
          (10 * (n / 10) + n % 10) :=
        .snoc (ih (n / 10) (by omega)) (by omega) (Nat.mod_lt n (by decide))
      rw [← Text.toDigits_snoc (by omega) (Nat.mod_lt n (by decide)), hsplit] at hsnoc
      exact hsnoc

/-! ## Triples -/

/-- Three numerals with dots between them, and their values. -/
inductive Dotted : List Char → Nat → Nat → Nat → Prop
  | mk {as bs cs : List Char} {x y z : Nat} (major : Numeral as x) (minor : Numeral bs y)
    (patch : Numeral cs z) : Dotted (as ++ '.' :: (bs ++ '.' :: cs)) x y z

/-- A text of the grammar: three numerals, all below `2 ^ 64`, with dots between them. -/
def Grammatical (cs : List Char) : Prop :=
  ∃ x y z, Dotted cs x y z ∧ x < UInt64.size ∧ y < UInt64.size ∧ z < UInt64.size

theorem dotted_iff {x y z : Nat} : Dotted cs x y z ↔
    cs = Nat.toDigits 10 x ++ '.' :: (Nat.toDigits 10 y ++ '.' :: Nat.toDigits 10 z) := by
  constructor
  · rintro ⟨major, minor, patch⟩
    rw [major.eq_toDigits, minor.eq_toDigits, patch.eq_toDigits]
  · rintro rfl
    exact ⟨Numeral.toDigits x, Numeral.toDigits y, Numeral.toDigits z⟩

/-- The text of a version is the only one that the grammar gives for its components. -/
theorem dotted_toNat_iff :
    Dotted cs v.major.toNat v.minor.toNat v.patch.toNat ↔ cs = v.text.toList := by
  rw [dotted_iff, toList_text]

theorem grammatical_iff : Grammatical cs ↔ ∃ v : Version, cs = v.text.toList := by
  constructor
  · rintro ⟨x, y, z, h, hx, hy, hz⟩
    refine ⟨⟨.ofNatLT x hx, .ofNatLT y hy, .ofNatLT z hz⟩, dotted_toNat_iff.mp ?_⟩
    simpa only [UInt64.toNat_ofNatLT] using h
  · rintro ⟨v, h⟩
    exact ⟨_, _, _, dotted_toNat_iff.mpr h, v.major.toNat_lt_size, v.minor.toNat_lt_size,
      v.patch.toNat_lt_size⟩

/-! ## Reading -/

theorem parse_eq_ok_iff_trim {s : String} :
    parse s = .ok v ↔ Text.trim s.toList = v.text.toList :=
  parse_eq_ok_iff.trans parse?_eq_some_iff

/-- The blanks around the text of a version do not matter. -/
theorem parse_eq_ok_iff_padded {s : String} : parse s = .ok v ↔
    ∃ front back, Text.blank front = true ∧ Text.blank back = true ∧
      s.toList = front ++ (v.text.toList ++ back) := by
  rw [parse_eq_ok_iff_trim]
  constructor
  · intro h
    obtain ⟨front, back, hfront, hback, hs⟩ := Text.exists_append_trim s.toList
    exact ⟨front, back, hfront, hback, h ▸ hs⟩
  · rintro ⟨front, back, hfront, hback, hs⟩
    rw [hs]
    exact Text.trim_append_of_blank hfront hback (fun _ => isBlank_of_mem_text) (text_ne_nil v)

theorem parse_eq_error {s : String} (h : ∀ v, parse s ≠ .ok v) :
    parse s = .error (.invalidVersion s) := by
  unfold parse at h ⊢
  cases hs : parse? s with
  | none => rfl
  | some v => exact absurd (by rw [hs]) (h v)

/-- How the texts of the grammar, and all others, are read as versions. -/
structure ReadByGrammar (s : String) : Prop where
  /-- A text is read if it belongs to the grammar between its blanks. -/
  ok_iff : (∃ v, parse s = .ok v) ↔ Grammatical (Text.trim s.toList)
  /-- The components are the values of the numerals. -/
  value : ∀ v, parse s = .ok v ↔
    Dotted (Text.trim s.toList) v.major.toNat v.minor.toNat v.patch.toNat
  /-- The grammar of semantic versions reads the same version there, without further parts. -/
  semantic : ∀ v, parse s = .ok v ↔
    SemanticVersion.parse? (Text.trim s.toList) = some ⟨v, [], []⟩
  /-- The version is shown as the text between the blanks. -/
  shown : ∀ v, parse s = .ok v → v.text = String.ofList (Text.trim s.toList)
  /-- What stands around the text of the version is blank, and any blanks may stand there. -/
  padded : ∀ v, parse s = .ok v ↔
    ∃ front back, Text.blank front = true ∧ Text.blank back = true ∧
      s.toList = front ++ (v.text.toList ++ back)
  /-- Any other text is refused, and told with its blanks. -/
  refused : ¬ Grammatical (Text.trim s.toList) → parse s = .error (.invalidVersion s)

theorem exists_parse_eq_ok_iff {s : String} :
    (∃ v, parse s = .ok v) ↔ Grammatical (Text.trim s.toList) := by
  rw [grammatical_iff]
  exact exists_congr fun v => parse_eq_ok_iff_trim

theorem readByGrammar (s : String) : ReadByGrammar s where
  ok_iff := exists_parse_eq_ok_iff
  value v := by rw [parse_eq_ok_iff_trim, dotted_toNat_iff]
  semantic v := by
    rw [parse_eq_ok_iff_trim, SemanticVersion.parse?_eq_core_iff, ofTriple?_eq_some_iff]
  shown v h := by rw [parse_eq_ok_iff_trim.mp h, String.ofList_toList]
  padded v := parse_eq_ok_iff_padded
  refused h := parse_eq_error fun v hv => h (exists_parse_eq_ok_iff.mp ⟨v, hv⟩)

/-- **Exactly the grammar is read**, and the text of every version is read back. -/
theorem parse_grammar : (∀ s : String, ReadByGrammar s) ∧ ∀ v : Version, parse v.text = .ok v :=
  ⟨readByGrammar, fun v => parse_eq_ok_iff.mpr (parse?_text v)⟩

end Slipway.Version
