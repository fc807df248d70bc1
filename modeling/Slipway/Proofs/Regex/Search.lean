import Slipway.Proofs.Text.Span
import Slipway.Regex.Search

/-!
# What a search finds

About `Regex::find_iter` and `Regex::replacen` of the crate `regex`. A program matches a part of a
text if its instructions lead from where it starts to where it accepts (`Program.Matches`). A search
gives up ways that come to a spot where another way has been: nothing is missed by that, because
what was tried leads only to what was tried, or is still to be tried (`Pending`).

* `explore_some`, `explore_none`: a search that finds a way, and one that finds none.
* `matchFrom?_finds`: the first match is a match, and none starts before it.
* `leftmost_allMatches`: all matches, from left to right without overlap.
* `replaceN_eq_splice`: which of them are replaced.
-/

namespace Slipway.Regex

open Text

/-- A spot of a search: an address and a position. -/
abbrev Spot := Nat × Nat

/-- Where a way stands. -/
def Way.spot (w : Way) : Spot := (w.address, w.position)

namespace Program

/-- One instruction leads from a spot to another one. -/
def Step (p : Program) (text : Subject) (s t : Spot) : Prop :=
  ∃ i, p.code[s.1]? = some i ∧ ∃ w ∈ i.follow text ⟨s.1, s.2, []⟩, w.spot = t

/-- Instructions lead from a spot to another one. -/
inductive Runs (p : Program) (text : Subject) : Spot → Spot → Prop
  | here (s : Spot) : Runs p text s s
  | step {s t u : Spot} : p.Step text s t → Runs p text t u → Runs p text s u

/-- A program matches the part of a text from one position up to another. -/
def Matches (p : Program) (text : Subject) (i j : Nat) : Prop :=
  i ≤ text.size ∧ ∃ a, p.Runs text (p.start, i) (a, j) ∧ p.code[a]? = some .accept

end Program

namespace Tried

/-- The bit of a spot. -/
def key (tried : Tried) (s : Spot) : Nat := s.1 * tried.width + s.2

/-- A spot was tried, or lies outside of the program. -/
def Has (tried : Tried) (s : Spot) : Prop := tried.bits.getD (tried.key s) true = true

instance (tried : Tried) (s : Spot) : Decidable (tried.Has s) :=
  inferInstanceAs (Decidable (_ = true))

/-- Marks a spot as tried. -/
def mark (tried : Tried) (s : Spot) : Tried :=
  { tried with bits := tried.bits.setIfInBounds (tried.key s) true }

/-- The number of spots that were not tried. -/
def left (tried : Tried) : Nat := tried.bits.toList.count false

end Tried

variable {p : Program} {text : Subject} {i : Instruction} {w : Way} {ways : List Way}
variable {tried tried' : Tried} {s t : Spot} {fuel : Nat}

/-! ## Steps -/

/-- Where an instruction leads does not depend on the marks. -/
theorem follow_spot (i : Instruction) (w : Way) :
    (i.follow text w).map Way.spot = (i.follow text ⟨w.address, w.position, []⟩).map Way.spot := by
  cases i with
  | take set next =>
    simp only [Instruction.follow]
    split
    · split <;> rfl
    · rfl
  | test a next =>
    simp only [Instruction.follow]
    split <;> rfl
  | mark slot next => rfl
  | fork preferred other => rfl
  | accept => rfl

theorem step_iff (hi : p.code[w.address]? = some i) :
    p.Step text w.spot t ↔ ∃ w' ∈ i.follow text w, w'.spot = t := by
  have hspots : (∃ w' ∈ i.follow text w, w'.spot = t) ↔
      ∃ w' ∈ i.follow text ⟨w.address, w.position, []⟩, w'.spot = t := by
    rw [← List.mem_map, ← List.mem_map, follow_spot]
  rw [hspots]
  constructor
  · rintro ⟨i', hi', hstep⟩
    obtain rfl : i = i' := Option.some.inj (hi.symm.trans hi')
    exact hstep
  · exact fun hstep => ⟨i, hi, hstep⟩

/-- An instruction stays in the text, and does not go back. -/
theorem Program.Step.position (h : p.Step text s t) :
    s.2 ≤ t.2 ∧ (s.2 ≤ text.size → t.2 ≤ text.size) := by
  obtain ⟨i, -, w, hw, rfl⟩ := h
  cases i with
  | take set next =>
    simp only [Instruction.follow] at hw
    split at hw
    · rename_i c hc
      split at hw
      · rw [List.mem_singleton.mp hw]
        obtain ⟨hlt, -⟩ := Array.getElem?_eq_some_iff.mp hc
        exact ⟨Nat.le_succ _, fun _ => hlt⟩
      · exact absurd hw List.not_mem_nil
    · exact absurd hw List.not_mem_nil
  | test a next =>
    simp only [Instruction.follow] at hw
    split at hw
    · rw [List.mem_singleton.mp hw]
      exact ⟨Nat.le_refl _, id⟩
    · exact absurd hw List.not_mem_nil
  | mark slot next =>
    rw [List.mem_singleton.mp hw]
    exact ⟨Nat.le_refl _, id⟩
  | fork preferred other =>
    rcases List.mem_cons.mp hw with rfl | hw
    · exact ⟨Nat.le_refl _, id⟩
    · rw [List.mem_singleton.mp hw]
      exact ⟨Nat.le_refl _, id⟩
  | accept => exact absurd hw List.not_mem_nil

theorem Program.Runs.position (h : p.Runs text s t) :
    s.2 ≤ t.2 ∧ (s.2 ≤ text.size → t.2 ≤ text.size) := by
  induction h with
  | here s => exact ⟨Nat.le_refl _, id⟩
  | step hstep _ ih =>
    obtain ⟨hle, hin⟩ := hstep.position
    exact ⟨Nat.le_trans hle ih.1, fun h => ih.2 (hin h)⟩

theorem Program.Matches.bounds {i j : Nat} (h : p.Matches text i j) : i ≤ j ∧ j ≤ text.size := by
  obtain ⟨hi, a, hruns, -⟩ := h
  exact ⟨hruns.position.1, hruns.position.2 hi⟩

/-! ## One way at a time -/

theorem explore_tried (h : tried.Has w.spot) :
    explore p text (fuel + 1) (w :: ways) tried = explore p text fuel ways tried :=
  if_pos h

theorem explore_accept (h : ¬ tried.Has w.spot) (hi : p.code[w.address]? = some .accept) :
    explore p text (fuel + 1) (w :: ways) tried = (some w, tried.mark w.spot) := by
  show (if tried.Has w.spot then _ else _) = _
  rw [if_neg h, hi]
  rfl

theorem explore_follow (h : ¬ tried.Has w.spot) (hi : p.code[w.address]? = some i)
    (hne : i ≠ .accept) : explore p text (fuel + 1) (w :: ways) tried =
      explore p text fuel (i.follow text w ++ ways) (tried.mark w.spot) := by
  show (if tried.Has w.spot then _ else _) = _
  rw [if_neg h, hi]
  cases i with
  | accept => exact absurd rfl hne
  | _ => rfl

/-! ## What was tried -/

/-- What is still to be tried, next to what was. -/
structure Pending (p : Program) (text : Subject) (ways : List Way) (tried : Tried) : Prop where
  width : tried.width = text.size + 1
  size : tried.bits.size = p.code.size * tried.width
  inside : ∀ w ∈ ways, w.position ≤ text.size
  /-- What was tried does not accept. -/
  barren : ∀ s : Spot, s.2 ≤ text.size → tried.Has s → p.code[s.1]? ≠ some .accept
  /-- What was tried leads to what was tried, or is still to be. -/
  closed : ∀ s t : Spot, s.2 ≤ text.size → tried.Has s → p.Step text s t →
    tried.Has t ∨ ∃ w ∈ ways, w.spot = t

theorem Tried.key_inj (hs : s.2 < tried.width) (ht : t.2 < tried.width)
    (h : tried.key s = tried.key t) : s = t := by
  have haddress (u : Spot) (hu : u.2 < tried.width) : tried.key u / tried.width = u.1 := by
    rw [key, Nat.add_comm, Nat.add_mul_div_right _ _ (Nat.zero_lt_of_lt hu), Nat.div_eq_of_lt hu,
      Nat.zero_add]
  have hposition (u : Spot) (hu : u.2 < tried.width) : tried.key u % tried.width = u.2 := by
    rw [key, Nat.add_comm, Nat.add_mul_mod_self_right, Nat.mod_eq_of_lt hu]
  exact Prod.ext (by rw [← haddress s hs, h, haddress t ht])
    (by rw [← hposition s hs, h, hposition t ht])

theorem Tried.has_mark_iff :
    (tried.mark s).Has t ↔ tried.key s = tried.key t ∨ tried.Has t := by
  show (tried.bits.setIfInBounds (tried.key s) true).getD (tried.key t) true = true ↔ _
  rw [Array.getD_eq_getD_getElem?, Array.getElem?_setIfInBounds, Has, Array.getD_eq_getD_getElem?]
  by_cases he : tried.key s = tried.key t
  · rw [if_pos he]
    split <;> simp [he]
  · rw [if_neg he]
    exact ⟨Or.inr, fun h => h.resolve_left he⟩

theorem Tried.has_mark (h : tried.Has t) : (tried.mark s).Has t := has_mark_iff.mpr (Or.inr h)

theorem Tried.has_mark_self (tried : Tried) (s : Spot) : (tried.mark s).Has s :=
  has_mark_iff.mpr (Or.inl rfl)

/-- The bit of a spot that was not tried is one of those that are kept. -/
theorem Tried.key_lt (h : ¬ tried.Has s) :
    ∃ hlt : tried.key s < tried.bits.size, tried.bits[tried.key s] = false := by
  unfold Has at h
  rw [Array.getD_eq_getD_getElem?] at h
  by_cases hlt : tried.key s < tried.bits.size
  · refine ⟨hlt, ?_⟩
    rw [Array.getElem?_eq_getElem hlt] at h
    simpa using h
  · rw [Array.getElem?_eq_none (by omega)] at h
    exact absurd rfl h

theorem Tried.left_mark (h : ¬ tried.Has s) : (tried.mark s).left + 1 = tried.left := by
  obtain ⟨hlt, hbit⟩ := key_lt h
  have hmem : false ∈ tried.bits.toList := by
    rw [← hbit]
    exact Array.getElem_mem_toList hlt
  have hpos : 0 < tried.bits.toList.count false := List.count_pos_iff.mpr hmem
  have hset : (tried.mark s).left = tried.left - 1 := by
    unfold left mark
    rw [Array.toList_setIfInBounds, List.count_set (by simpa using hlt)]
    simp [hbit]
  rw [hset, left]
  omega

namespace Pending

theorem address_lt (h : Pending p text ways tried) (hnot : ¬ tried.Has s) :
    s.1 < p.code.size := by
  obtain ⟨hlt, -⟩ := Tried.key_lt hnot
  rw [h.size, Tried.key] at hlt
  refine Nat.lt_of_mul_lt_mul_right (a := tried.width) ?_
  omega

theorem drop_tried (h : Pending p text (w :: ways) tried) (hw : tried.Has w.spot) :
    Pending p text ways tried where
  width := h.width
  size := h.size
  inside w' hw' := h.inside w' (List.mem_cons_of_mem w hw')
  barren := h.barren
  closed s t hs hhas hstep := by
    rcases h.closed s t hs hhas hstep with ht | ⟨w', hw', rfl⟩
    · exact Or.inl ht
    · rcases List.mem_cons.mp hw' with rfl | hw'
      · exact Or.inl hw
      · exact Or.inr ⟨w', hw', rfl⟩

/-- A way is replaced by those that its instruction leads to. -/
theorem follow (h : Pending p text (w :: ways) tried) (hi : p.code[w.address]? = some i)
    (hne : i ≠ .accept) : Pending p text (i.follow text w ++ ways) (tried.mark w.spot) := by
  have hw : w.position ≤ text.size := h.inside w List.mem_cons_self
  have hback {s : Spot} (hs : s.2 ≤ text.size) (hhas : (tried.mark w.spot).Has s) :
      s = w.spot ∨ tried.Has s :=
    (Tried.has_mark_iff.mp hhas).imp_left fun he => Tried.key_inj
      (by rw [h.width]; exact Nat.lt_succ_of_le hs)
      (by rw [h.width]; exact Nat.lt_succ_of_le hw) he.symm
  refine ⟨h.width, by simpa [Tried.mark] using h.size, ?_, ?_, ?_⟩
  · intro w' hw'
    rcases List.mem_append.mp hw' with hw' | hw'
    · exact ((step_iff hi).mpr ⟨w', hw', rfl⟩).position.2 hw
    · exact h.inside w' (List.mem_cons_of_mem w hw')
  · intro s hs hhas
    rcases hback hs hhas with rfl | hhas
    · rw [show w.spot.1 = w.address from rfl, hi]
      exact fun he => hne (Option.some.inj he)
    · exact h.barren s hs hhas
  · intro s t hs hhas hstep
    rcases hback hs hhas with rfl | hhas
    · obtain ⟨w', hw', rfl⟩ := (step_iff hi).mp hstep
      exact Or.inr ⟨w', List.mem_append_left _ hw', rfl⟩
    · rcases h.closed s t hs hhas hstep with ht | ⟨w', hw', rfl⟩
      · exact Or.inl (Tried.has_mark ht)
      · rcases List.mem_cons.mp hw' with rfl | hw'
        · exact Or.inl (Tried.has_mark_self tried _)
        · exact Or.inr ⟨w', List.mem_append_right _ hw', rfl⟩

theorem cons (h : Pending p text [] tried) (hw : w.position ≤ text.size) :
    Pending p text [w] tried where
  width := h.width
  size := h.size
  inside w' hw' := by
    rw [List.mem_singleton.mp hw']
    exact hw
  barren := h.barren
  closed s t hs hhas hstep := by
    rcases h.closed s t hs hhas hstep with ht | ⟨w', hw', -⟩
    · exact Or.inl ht
    · exact absurd hw' List.not_mem_nil

/-- From what was tried, nothing accepts, if nothing is left to be tried. -/
theorem not_accept (h : Pending p text [] tried) (hs : s.2 ≤ text.size) (hhas : tried.Has s)
    (hruns : p.Runs text s t) : p.code[t.1]? ≠ some .accept := by
  induction hruns with
  | here s => exact h.barren s hs hhas
  | step hstep _ ih =>
    rcases h.closed _ _ hs hhas hstep with ht | ⟨w, hw, -⟩
    · exact ih (hstep.position.2 hs) ht
    · exact absurd hw List.not_mem_nil

theorem start (p : Program) (text : Subject) :
    Pending p text [] (Tried.start p.code.size (text.size + 1)) := by
  have hout (s : Spot) (hs : s.2 ≤ text.size)
      (hhas : (Tried.start p.code.size (text.size + 1)).Has s) : p.code[s.1]? = none := by
    refine Array.getElem?_eq_none (Nat.le_of_not_lt fun hlt => ?_)
    have hkey : s.1 * (text.size + 1) + s.2 < p.code.size * (text.size + 1) :=
      calc s.1 * (text.size + 1) + s.2
        _ < s.1 * (text.size + 1) + (text.size + 1) :=
          Nat.add_lt_add_left (Nat.lt_succ_of_le hs) _
        _ = (s.1 + 1) * (text.size + 1) := (Nat.succ_mul _ _).symm
        _ ≤ p.code.size * (text.size + 1) := Nat.mul_le_mul_right _ hlt
    unfold Tried.Has Tried.key Tried.start at hhas
    rw [Array.getD_eq_getD_getElem?, Array.getElem?_replicate, if_pos hkey] at hhas
    exact absurd hhas (by simp)
  refine ⟨rfl, by simp [Tried.start], fun w hw => absurd hw List.not_mem_nil, ?_, ?_⟩
  · intro s hs hhas
    rw [hout s hs hhas]
    simp
  · rintro s t hs hhas ⟨i, hi, -⟩
    rw [hout s hs hhas] at hi
    exact absurd hi (by simp)

end Pending

/-! ## Searching from one position -/

theorem length_follow_le (text : Subject) (i : Instruction) (w : Way) :
    (i.follow text w).length ≤ 2 := by
  cases i <;> simp only [Instruction.follow] <;> repeat' split
  all_goals simp

/-- **A search that finds a way**: it accepts, and one of the ways that were to be tried leads
there. -/
theorem explore_some (h : (explore p text fuel ways tried).1 = some w) :
    (∃ w₀ ∈ ways, p.Runs text w₀.spot w.spot) ∧ p.code[w.address]? = some .accept := by
  fun_induction explore p text fuel ways tried with
  | case1 => exact absurd h (by simp)
  | case2 => exact absurd h (by simp)
  | case3 fuel w₁ ways tried key hhas ih =>
    obtain ⟨⟨w₀, hw₀, hruns⟩, haccept⟩ := ih h
    exact ⟨⟨w₀, List.mem_cons_of_mem _ hw₀, hruns⟩, haccept⟩
  | case4 fuel w₁ ways tried key hhas tried' hi ih =>
    obtain ⟨⟨w₀, hw₀, hruns⟩, haccept⟩ := ih h
    exact ⟨⟨w₀, List.mem_cons_of_mem _ hw₀, hruns⟩, haccept⟩
  | case5 fuel w₁ ways tried key hhas tried' hi =>
    obtain rfl := Option.some.inj h
    exact ⟨⟨w₁, List.mem_cons_self, .here _⟩, hi⟩
  | case6 fuel w₁ ways tried key hhas tried' i hne hi ih =>
    obtain ⟨⟨w₀, hw₀, hruns⟩, haccept⟩ := ih h
    refine ⟨?_, haccept⟩
    rcases List.mem_append.mp hw₀ with hw₀ | hw₀
    · exact ⟨w₁, List.mem_cons_self, .step ((step_iff hi).mpr ⟨w₀, hw₀, rfl⟩) hruns⟩
    · exact ⟨w₀, List.mem_cons_of_mem _ hw₀, hruns⟩

/-- **A search that finds no way** has tried all of them. -/
theorem explore_none (hp : Pending p text ways tried)
    (hfuel : ways.length + 2 * tried.left ≤ fuel)
    (h : explore p text fuel ways tried = (none, tried')) :
    Pending p text [] tried' ∧ (∀ w ∈ ways, tried'.Has w.spot) ∧
      ∀ s, tried.Has s → tried'.Has s := by
  induction fuel generalizing ways tried with
  | zero =>
    obtain rfl : ways = [] := List.eq_nil_of_length_eq_zero (by omega)
    obtain rfl : tried = tried' := (Prod.mk.inj h).2
    exact ⟨hp, fun w hw => absurd hw List.not_mem_nil, fun _ => id⟩
  | succ fuel ih =>
    cases ways with
    | nil =>
      obtain rfl : tried = tried' := (Prod.mk.inj h).2
      exact ⟨hp, fun w hw => absurd hw List.not_mem_nil, fun _ => id⟩
    | cons w ways =>
      rw [List.length_cons] at hfuel
      by_cases hhas : tried.Has w.spot
      · rw [explore_tried hhas] at h
        obtain ⟨hp', hall, hkept⟩ := ih (hp.drop_tried hhas) (by omega) h
        refine ⟨hp', fun w' hw' => ?_, hkept⟩
        rcases List.mem_cons.mp hw' with rfl | hw'
        · exact hkept _ hhas
        · exact hall w' hw'
      · obtain ⟨i, hi⟩ : ∃ i, p.code[w.address]? = some i :=
          ⟨_, Array.getElem?_eq_getElem (hp.address_lt hhas)⟩
        by_cases hne : i = .accept
        · rw [explore_accept hhas (hne ▸ hi)] at h
          exact absurd (Prod.mk.inj h).1 (by simp)
        · rw [explore_follow hhas hi hne] at h
          -- the spot is marked, which pays for the two ways that may take its place
          have hleft := Tried.left_mark hhas
          have hlen := length_follow_le text i w
          obtain ⟨hp', hall, hkept⟩ := ih (hp.follow hi hne)
            (by rw [List.length_append]; omega) h
          refine ⟨hp', fun w' hw' => ?_, fun s hs => hkept s (Tried.has_mark hs)⟩
          rcases List.mem_cons.mp hw' with rfl | hw'
          · exact hkept _ (Tried.has_mark_self tried _)
          · exact hall w' (List.mem_append_right _ hw')

/-! ## Searching from a position on -/

theorem Tried.left_le (tried : Tried) : tried.left ≤ tried.bits.size := by
  rw [left, ← Array.length_toList]
  exact List.count_le_length

theorem scan_finds {count start : Nat} (hp : Pending p text [] tried)
    (hcount : start + count = text.size + 1) :
    (∀ m, scan p text count start tried = some m →
      start ≤ m.start ∧ p.Matches text m.start m.stop) ∧
    ∀ i j, start ≤ i → (∀ m, scan p text count start tried = some m → i < m.start) →
      ¬ p.Matches text i j := by
  induction count generalizing start tried with
  | zero =>
    refine ⟨fun m hm => absurd hm (by simp [scan]), fun i j hi _ hmatch => ?_⟩
    have hle := hmatch.1
    omega
  | succ count ih =>
    have hin : start ≤ text.size := by omega
    have hfuel : [(⟨p.start, start, []⟩ : Way)].length + 2 * tried.left ≤
        3 * tried.bits.size + 3 := by
      have hle := tried.left_le
      rw [List.length_singleton]
      omega
    unfold scan
    cases hexplore : explore p text (3 * tried.bits.size + 3) [⟨p.start, start, []⟩] tried with
    | mk found tried' =>
      cases found with
      | some w =>
        obtain ⟨⟨w₀, hw₀, hruns⟩, haccept⟩ :=
          explore_some (congrArg Prod.fst hexplore : (explore _ _ _ _ _).1 = some w)
        rw [List.mem_singleton.mp hw₀] at hruns
        refine ⟨fun m hm => ?_, fun i j hi hlt => ?_⟩
        · obtain rfl := Option.some.inj hm
          exact ⟨Nat.le_refl _, hin, w.address, hruns, haccept⟩
        · exact absurd (hlt _ rfl) (Nat.not_lt_of_le hi)
      | none =>
        obtain ⟨hp', hall, -⟩ := explore_none (hp.cons hin) hfuel hexplore
        have hcount' : start + 1 + count = text.size + 1 := by omega
        obtain ⟨hsome, hnone⟩ := ih hp' hcount'
        refine ⟨fun m hm => (hsome m hm).imp_left Nat.le_of_succ_le, fun i j hi hlt hmatch => ?_⟩
        rcases Nat.eq_or_lt_of_le hi with rfl | hlate
        · obtain ⟨-, a, hruns, haccept⟩ := hmatch
          exact hp'.not_accept hin (hall _ (List.mem_singleton_self _)) hruns haccept
        · exact hnone i j hlate hlt hmatch

/-- **The first match** from a position on: it is a match, and none starts before it. If there is no
first match, there is none at all. -/
theorem matchFrom?_finds {start : Nat} (hstart : start ≤ text.size) :
    (∀ m, matchFrom? p text start = some m → start ≤ m.start ∧ p.Matches text m.start m.stop) ∧
    ∀ i j, start ≤ i → (∀ m, matchFrom? p text start = some m → i < m.start) →
      ¬ p.Matches text i j :=
  scan_finds (Pending.start p text) (by omega)

/-! ## All matches -/

/-- The span of a match. -/
def Match.span (m : Match) : Span := ⟨m.start, m.stop⟩

/-- What a search finds from a position on, after a match that stopped at `last`. -/
structure Found (p : Program) (text : Subject) (start : Nat) (last : Option Nat)
    (found : List Match) : Prop where
  sound : ∀ m ∈ found, start ≤ m.start ∧ p.Matches text m.start m.stop ∧
    ∀ l, last = some l → l < m.stop
  ordered : found.Pairwise fun m n => m.stop ≤ n.start ∧ m.stop < n.stop
  covering : ∀ i j, start ≤ i → p.Matches text i j →
    (∃ m ∈ found, m.start ≤ i ∧ (i < m.stop ∨ (i = m.stop ∧ p.Matches text i i))) ∨
      (last = some i ∧ p.Matches text i i)

section Found

variable {start : Nat} {last : Option Nat} {found : List Match} {m : Match}

theorem found_nil (h : ∀ i j, start ≤ i → ¬ p.Matches text i j) : Found p text start last [] :=
  ⟨fun _ hm => absurd hm List.not_mem_nil, .nil, fun i j hi hmatch => absurd hmatch (h i j hi)⟩

/-- An empty match does not count where the match before it stopped. -/
theorem Found.skip (h : Found p text (start + 1) last found) (hlast : last = some start)
    (hempty : p.Matches text start start) : Found p text start last found where
  sound m hm := (h.sound m hm).imp_left Nat.le_of_succ_le
  ordered := h.ordered
  covering i j hi hij := by
    rcases Nat.eq_or_lt_of_le hi with rfl | hlate
    · exact Or.inr ⟨hlast, hempty⟩
    · exact h.covering i j hlate hij

/-- The first match comes before those that are found where it stops. -/
theorem Found.cons (h : Found p text m.stop (some m.stop) found) (hle : start ≤ m.start)
    (hmatch : p.Matches text m.start m.stop)
    (hfirst : ∀ i j, start ≤ i → i < m.start → ¬ p.Matches text i j)
    (hnew : ∀ l, last = some l → l < m.stop) : Found p text start last (m :: found) where
  sound n hn := by
    rcases List.mem_cons.mp hn with rfl | hn
    · exact ⟨hle, hmatch, hnew⟩
    · obtain ⟨hafter, hmatch', hlater⟩ := h.sound n hn
      have hstop := hmatch.bounds.1
      exact ⟨by omega, hmatch', fun l hl => Nat.lt_trans (hnew l hl) (hlater _ rfl)⟩
  ordered := List.pairwise_cons.mpr
    ⟨fun n hn => ⟨(h.sound n hn).1, (h.sound n hn).2.2 _ rfl⟩, h.ordered⟩
  covering i j hi hij := by
    refine Or.inl ?_
    by_cases hearly : i < m.start
    · exact absurd hij (hfirst i j hi hearly)
    · by_cases hinside : i < m.stop
      · exact ⟨m, List.mem_cons_self, by omega, Or.inl hinside⟩
      · rcases h.covering i j (by omega) hij with ⟨n, hn, hcovered⟩ | ⟨hhere, hempty⟩
        · exact ⟨n, List.mem_cons_of_mem m hn, hcovered⟩
        · exact ⟨m, List.mem_cons_self, by omega, Or.inr ⟨(Option.some.inj hhere).symm, hempty⟩⟩

theorem matchesFrom_found
    (hfuel : 2 * (text.size + 1 - start) + (if last = some start then 0 else 1) ≤ fuel)
    (hlast : ∀ l, last = some l → l ≤ start) :
    Found p text start last (matchesFrom p text fuel start last) := by
  induction fuel generalizing start last with
  | zero =>
    refine found_nil fun i j hi hmatch => ?_
    have hle := hmatch.1
    omega
  | succ fuel ih =>
    by_cases hend : text.size < start
    · rw [matchesFrom, if_pos hend]
      refine found_nil fun i j hi hmatch => ?_
      have hle := hmatch.1
      omega
    · obtain ⟨hsome, hnone⟩ := matchFrom?_finds (p := p) (Nat.le_of_not_lt hend)
      rw [matchesFrom, if_neg hend]
      cases hfirst : matchFrom? p text start with
      | none => exact found_nil fun i j hi => hnone i j hi fun m hm =>
          absurd (hfirst ▸ hm) (by simp)
      | some m =>
        obtain ⟨hle, hmatch⟩ := hsome m hfirst
        have hstop := hmatch.bounds.1
        by_cases hskip : m.start = m.stop ∧ last = some m.stop
        · simp only [if_pos hskip]
          have hhere : m.start = start := by
            have hl := hlast _ hskip.2
            omega
          have hempty : p.Matches text start start := by
            rw [← hskip.1, hhere] at hmatch
            exact hmatch
          exact (ih (by split at hfuel <;> split <;> omega)
            fun l hl => Nat.le_succ_of_le (hlast l hl)).skip
              (by rw [hskip.2, ← hskip.1, hhere]) hempty
        · simp only [if_neg hskip]
          have hnew : ∀ l, last = some l → l < m.stop := by
            intro l hl
            have hl' := hlast l hl
            refine Nat.lt_of_le_of_ne (by omega) ?_
            rintro rfl
            exact hskip ⟨by omega, hl⟩
          -- a match that is empty uses up the one search that a new position still has
          have hfuel' : 2 * (text.size + 1 - m.stop) +
              (if some m.stop = some m.stop then 0 else 1) ≤ fuel := by
            rw [if_pos rfl]
            by_cases hlong : start < m.stop
            · split at hfuel <;> omega
            · have hflag : last ≠ some start := fun hl => hlong (hnew start hl)
              rw [if_neg hflag] at hfuel
              omega
          refine (ih hfuel' fun l hl => Nat.le_of_eq (Option.some.inj hl).symm).cons hle hmatch ?_
            hnew
          intro i j hi hearly
          refine hnone i j hi fun n hn => ?_
          rw [← Option.some.inj (hfirst.symm.trans hn)]
          exact hearly

end Found

/-- **All matches** are found from left to right, without overlap, and each as far left as it can
be. -/
theorem leftmost_allMatches (p : Program) (text : Subject) :
    Leftmost (p.Matches text) text.size ((allMatches p text).map Match.span) := by
  have h : Found p text 0 none (allMatches p text) :=
    matchesFrom_found (by rw [if_neg (by simp)]; omega) fun l hl => absurd hl (by simp)
  refine ⟨fun s hs => ?_, fun s hs => ?_, List.pairwise_map.mpr h.ordered, fun i j hij => ?_⟩
  · obtain ⟨m, hm, rfl⟩ := List.mem_map.mp hs
    exact (h.sound m hm).2.1
  · obtain ⟨m, hm, rfl⟩ := List.mem_map.mp hs
    exact (h.sound m hm).2.1.bounds
  · rcases h.covering i j (Nat.zero_le i) hij with ⟨m, hm, hcovered⟩ | ⟨hnone, -⟩
    · exact ⟨m.span, List.mem_map_of_mem hm, hcovered⟩
    · exact absurd hnone (by simp)

/-! ## Replacing -/

variable {replacement : List Char} {found : List Match} {limit i last : Nat}

/-- The matches that are replaced from number `i` on. -/
def chosen (limit i : Nat) (found : List Match) : List Match :=
  if limit = 0 then found else found.take (limit - i)

theorem chosen_nil : chosen limit i [] = [] := by simp [chosen]

/-- The loop ends with the match of number `limit`. -/
theorem chosen_cons_last (h : 0 < limit ∧ limit - 1 ≤ i) (hi : limit = 0 ∨ i < limit) (m : Match) :
    chosen limit i (m :: found) = [m] := by
  have hone : limit - i = 1 := by omega
  rw [chosen, if_neg (by omega), hone]
  rfl

theorem chosen_cons (h : ¬ (0 < limit ∧ limit - 1 ≤ i)) (m : Match) :
    chosen limit i (m :: found) = m :: chosen limit (i + 1) found := by
  unfold chosen
  by_cases hzero : limit = 0
  · rw [if_pos hzero, if_pos hzero]
  · have hmore : limit - i = limit - (i + 1) + 1 := by omega
    rw [if_neg hzero, if_neg hzero, hmore, List.take_succ_cons]

theorem toList_extract_size (text : Subject) (start : Nat) :
    (text.extract start text.size).toList = text.toList.drop start := by
  rw [Array.toList_extract, List.extract_eq_take_drop, ← Array.length_toList]
  exact List.take_of_length_le (Nat.le_of_eq List.length_drop)

/-- The loop writes the replacement over the matches that are replaced. -/
theorem replaceFrom_eq (hi : limit = 0 ∨ i < limit) (hlast : ∀ m ∈ found, last ≤ m.stop)
    (hordered : found.Pairwise fun m n => m.stop ≤ n.stop) :
    replaceFrom limit replacement text i last found =
      spliceFrom replacement last (text.toList.drop last)
        ((chosen limit i found).map Match.span) := by
  induction found generalizing i last with
  | nil => rw [replaceFrom, chosen_nil, toList_extract_size, List.map_nil, spliceFrom]
  | cons m found ih =>
    obtain ⟨hnext, hrest⟩ := List.pairwise_cons.mp hordered
    have hstop : last + (m.stop - last) = m.stop :=
      Nat.add_sub_cancel' (hlast m List.mem_cons_self)
    have hfront : (text.extract last m.start).toList =
        (text.toList.drop last).take (m.start - last) := by
      rw [Array.toList_extract, List.extract_eq_take_drop]
    by_cases hend : 0 < limit ∧ limit - 1 ≤ i
    · rw [replaceFrom, if_pos hend, chosen_cons_last hend hi, List.map_singleton, spliceFrom,
        spliceFrom, List.drop_drop, toList_extract_size, hfront]
      simp only [Match.span, hstop]
    · rw [replaceFrom, if_neg hend, chosen_cons hend, List.map_cons, spliceFrom, List.drop_drop,
        ih (by omega) hnext hrest, hfront]
      simp only [Match.span, hstop]

/-- **Replacing by a second search** writes the replacement over the same matches. -/
theorem replaceN_eq_splice (p : Program) (text : Subject) (limit : Nat) (replacement : List Char) :
    replaceN p text limit replacement =
      splice replacement text.toList ((chosen limit 0 (allMatches p text)).map Match.span) := by
  have hordered := List.pairwise_map.mp (leftmost_allMatches p text).ordered
  exact replaceFrom_eq (Nat.eq_zero_or_pos limit) (fun m _ => Nat.zero_le m.stop)
    (hordered.imp fun h => Nat.le_of_lt h.2)

end Slipway.Regex
