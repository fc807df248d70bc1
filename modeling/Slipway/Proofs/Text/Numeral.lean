import Slipway.Text.Numeral

/-!
# Printed numbers

A number that is filled with zeros consists of digits, and its value can be read back
(`numeralValue_padded`). The other way round, a numeral without leading zeros is the one that its
value is printed as (`toDigits_numeralValue`), and a numeral with leading zeros is told by its value
and its length (`eq_of_numeralValue`).
-/

namespace Slipway.Text

variable {cs : List Char} {c : Char}

/-! ## Numbers filled with zeros -/

theorem toList_padded (width n : Nat) : ∃ k, (padded width n).toList =
    List.replicate k '0' ++ Nat.toDigits 10 n := by
  refine ⟨width - (toString n).length, ?_⟩
  have hpush : ∀ k, ("".pushn '0' k).toList = List.replicate k '0' := by
    intro k
    rw [String.pushn_eq_repeat_push]
    induction k with
    | zero => rfl
    | succ k ih => rw [Nat.repeat, String.toList_push, ih, List.replicate_succ']
  unfold padded
  rw [String.toList_append, hpush, Nat.toString_eq_repr, Nat.toList_repr]

theorem numeralValue_toDigits (n : Nat) : numeralValue (Nat.toDigits 10 n) = n := by
  show Nat.ofDigitChars 10 _ 0 = n
  rw [Nat.ofDigitChars_toDigits (by decide) (by decide)]

/-- Filling a numeral with zeros keeps its value. -/
theorem numeralValue_padded (width n : Nat) : numeralValue (padded width n).toList = n := by
  obtain ⟨k, hk⟩ := toList_padded width n
  show Nat.ofDigitChars 10 _ 0 = n
  rw [hk, Nat.ofDigitChars_append, Nat.ofDigitChars_replicate_zero, Nat.mul_zero,
    Nat.ofDigitChars_toDigits (by decide) (by decide)]

theorem isDigit_of_mem_padded {width n : Nat} {c : Char} (h : c ∈ (padded width n).toList) :
    c.isDigit = true := by
  obtain ⟨k, hk⟩ := toList_padded width n
  rw [hk, List.mem_append] at h
  rcases h with h | h
  · rw [(List.mem_replicate.mp h).2]
    decide
  · exact Nat.isDigit_of_mem_toDigits (by decide) (by decide) h

theorem exists_padded_cons (width n : Nat) :
    ∃ c cs, (padded width n).toList = c :: cs ∧ c.isDigit = true := by
  obtain ⟨k, hk⟩ := toList_padded width n
  cases hp : (padded width n).toList with
  | nil =>
    rw [hp] at hk
    exact absurd (List.append_eq_nil_iff.mp hk.symm).2 Nat.toDigits_ne_nil
  | cons c cs => exact ⟨c, cs, rfl, isDigit_of_mem_padded (by rw [hp]; exact List.mem_cons_self)⟩

/-! ## Numerals without leading zeros -/

theorem digitChar_of_isDigit (h : isDigit c = true) :
    c.toNat - '0'.toNat < 10 ∧ Nat.digitChar (c.toNat - '0'.toNat) = c := by
  have hdigit : 48 ≤ c.toNat ∧ c.toNat ≤ 57 := by
    simpa [isDigit, Char.le_def, UInt32.le_iff_toNat_le] using h
  have hzero : '0'.toNat = 48 := rfl
  rw [hzero]
  have hlt : c.toNat - 48 < 10 := by omega
  refine ⟨hlt, Char.toNat_inj.mp ?_⟩
  rw [Nat.toNat_digitChar_of_lt_ten hlt]
  omega

/-- A numeral that is continued by one digit. -/
theorem toDigits_snoc {n d : Nat} (hn : 0 < n) (hd : d < 10) :
    Nat.toDigits 10 (10 * n + d) = Nat.toDigits 10 n ++ [Nat.digitChar d] := by
  rw [Nat.toDigits_of_base_le (by decide) (by omega), Nat.mul_add_div (by decide),
    Nat.div_eq_of_lt hd, Nat.mul_add_mod, Nat.mod_eq_of_lt hd, Nat.add_zero]

/-- Digits that are read after a number other than zero stand behind its numeral. -/
theorem toDigits_foldl (hdigits : cs.all isDigit = true) {n : Nat} (hn : 0 < n) :
    Nat.toDigits 10 (cs.foldl (fun n c => 10 * n + (c.toNat - '0'.toNat)) n) =
      Nat.toDigits 10 n ++ cs := by
  induction cs generalizing n with
  | nil => exact (List.append_nil _).symm
  | cons c cs ih =>
    rw [List.all_cons, Bool.and_eq_true] at hdigits
    obtain ⟨hlt, hchar⟩ := digitChar_of_isDigit hdigits.1
    rw [List.foldl_cons, ih hdigits.2 (by omega), toDigits_snoc hn hlt, hchar, List.append_assoc,
      List.singleton_append]

/-- A numeral without leading zeros is the one that its value is printed as. -/
theorem toDigits_numeralValue (hne : cs ≠ []) (hdigits : cs.all isDigit = true)
    (hzero : cs = ['0'] ∨ cs.head? ≠ some '0') : Nat.toDigits 10 (numeralValue cs) = cs := by
  rcases hzero with rfl | hzero
  · rfl
  · cases cs with
    | nil => exact absurd rfl hne
    | cons c cs =>
      rw [List.all_cons, Bool.and_eq_true] at hdigits
      obtain ⟨hlt, hchar⟩ := digitChar_of_isDigit hdigits.1
      have hpos : 0 < c.toNat - '0'.toNat := by
        refine Nat.pos_of_ne_zero fun hc => hzero ?_
        rw [hc] at hchar
        rw [List.head?_cons, ← hchar]
        rfl
      have hfirst : 10 * 0 + (c.toNat - '0'.toNat) = c.toNat - '0'.toNat := by omega
      unfold numeralValue
      rw [List.foldl_cons, hfirst, toDigits_foldl hdigits.2 hpos, Nat.toDigits_of_lt_base hlt,
        hchar, List.singleton_append]

/-- Only zero is printed with a zero at its start. -/
theorem head?_toDigits {n : Nat} (h : n ≠ 0) : (Nat.toDigits 10 n).head? ≠ some '0' := by
  induction n using Nat.strongRecOn with
  | ind n ih =>
    by_cases hn : n < 10
    · rw [Nat.toDigits_of_lt_base hn]
      intro hz
      have hnat := congrArg Char.toNat (Option.some.inj hz)
      rw [Nat.toNat_digitChar_of_lt_ten hn, show '0'.toNat = 48 from rfl] at hnat
      omega
    · have hfront := ih (n / 10) (by omega) (by omega)
      rw [Nat.toDigits_of_base_le (by decide) (by omega), List.head?_append]
      cases hd : Nat.toDigits 10 (n / 10) with
      | nil => exact absurd hd Nat.toDigits_ne_nil
      | cons c cs =>
        rw [hd] at hfront
        exact hfront

/-! ## Numerals of one length -/

/-- Digits of one length that lead two numbers to the same one are the same, and so are the
numbers. -/
theorem eq_of_foldl_digits {ds : List Char} {m n : Nat} (hc : cs.all isDigit = true)
    (hd : ds.all isDigit = true) (hl : cs.length = ds.length)
    (h : cs.foldl (fun n c => 10 * n + (c.toNat - '0'.toNat)) m =
      ds.foldl (fun n c => 10 * n + (c.toNat - '0'.toNat)) n) : m = n ∧ cs = ds := by
  induction cs generalizing ds m n with
  | nil =>
    obtain rfl := List.length_eq_zero_iff.mp hl.symm
    exact ⟨h, rfl⟩
  | cons c cs ih =>
    cases ds with
    | nil => exact absurd hl (by simp)
    | cons d ds =>
      rw [List.all_cons, Bool.and_eq_true] at hc hd
      obtain ⟨hstep, rfl⟩ := ih hc.2 hd.2 (Nat.succ.inj hl) h
      obtain ⟨hltc, hcharc⟩ := digitChar_of_isDigit hc.1
      obtain ⟨hltd, hchard⟩ := digitChar_of_isDigit hd.1
      have hread : 10 * m + (c.toNat - '0'.toNat) = 10 * n + (d.toNat - '0'.toNat) := hstep
      have hdigit : c.toNat - '0'.toNat = d.toNat - '0'.toNat := by omega
      refine ⟨by omega, ?_⟩
      rw [← hcharc, hdigit, hchard]

/-- Numerals of one value and one length are the same. -/
theorem eq_of_numeralValue {ds : List Char} (hc : cs.all isDigit = true)
    (hd : ds.all isDigit = true) (h : numeralValue cs = numeralValue ds)
    (hl : cs.length = ds.length) : cs = ds :=
  (eq_of_foldl_digits hc hd hl h).2

end Slipway.Text
