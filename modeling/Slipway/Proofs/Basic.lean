import Mathlib.Data.List.Basic

/-!
# Lists, results and orders

General facts about lists, about computations that may fail and about comparisons. Nothing here
mentions a definition of this library.

* `map_eq_ok_iff`, `map_eq_error_iff`, `mapM_congr`, `mapM_eq_ok`: results under a map.
* `exists_split`, `append_cons_cases`: a list around one of its elements.
* `takeWhile_append_cons`, `dropWhile_append_cons`: a list cut where an element first occurs.
* `compareLex_eq_lt_iff`: comparing lists is the lexicographic order.
-/

namespace Slipway

/-! ## Results -/

section Results

variable {ε α β : Type}

theorem ok_of_toOption {x : Except ε α} {a : α} (h : x.toOption = some a) : x = .ok a := by
  cases x with
  | error e => exact absurd h (by simp [Except.toOption])
  | ok b => rw [Option.some.inj h]

theorem pair_of_fst {x : α × β} {a : α} (h : x.1 = a) : x = (a, x.2) := Prod.ext h rfl

theorem map_eq_ok_iff {x : Except ε α} {f : α → β} {b : β} :
    x.map f = .ok b ↔ ∃ a, x = .ok a ∧ f a = b := by
  cases x with
  | error err => simp [Except.map]
  | ok a => simp [Except.map]

theorem map_eq_error_iff {x : Except ε α} {f : α → β} {err : ε} :
    x.map f = .error err ↔ x = .error err := by
  cases x with
  | error err' => simp [Except.map]
  | ok a => simp [Except.map]

theorem mapM_congr {g g' : α → Except ε β} {xs : List α} (h : ∀ x ∈ xs, g x = g' x) :
    xs.mapM g = xs.mapM g' := by
  induction xs with
  | nil => rfl
  | cons x xs ih =>
    rw [List.mapM_cons, List.mapM_cons, h x List.mem_cons_self,
      ih fun y hy => h y (List.mem_cons_of_mem x hy)]

theorem mapM_eq_ok {g : α → Except ε β} {xs : List α} {ys : List β} (h : xs.mapM g = .ok ys) :
    ys.length = xs.length ∧
      ∀ (i : Nat) (x : α) (y : β), xs[i]? = some x → ys[i]? = some y → g x = .ok y := by
  induction xs generalizing ys with
  | nil =>
    rw [List.mapM_nil] at h
    rw [← Except.ok.inj h]
    simp
  | cons x xs ih =>
    rw [List.mapM_cons] at h
    cases hx : g x with
    | error e =>
      rw [hx] at h
      exact absurd h (by simp [bind, Except.bind])
    | ok y =>
      cases hxs : xs.mapM g with
      | error e =>
        rw [hx, hxs] at h
        exact absurd h (by simp [bind, Except.bind])
      | ok ys' =>
        rw [hx, hxs] at h
        rw [← Except.ok.inj h]
        obtain ⟨hlen, hall⟩ := ih hxs
        refine ⟨by simp [hlen], fun i x' y' hx' hy' => ?_⟩
        cases i with
        | zero =>
          rw [← Option.some.inj hx', ← Option.some.inj hy']
          exact hx
        | succ i => exact hall i x' y' hx' hy'

end Results

/-! ## Lists -/

section Lists

variable {α : Type} {xs : List α} {x : α} {i : Nat}

theorem eq_take_cons_drop (h : xs[i]? = some x) : xs = xs.take i ++ x :: xs.drop (i + 1) := by
  obtain ⟨hi, rfl⟩ := List.getElem?_eq_some_iff.mp h
  rw [← List.drop_eq_getElem_cons hi, List.take_append_drop]

theorem of_drop_eq_cons {rest : List α} (h : xs.drop i = x :: rest) :
    i < xs.length ∧ xs.drop (i + 1) = rest := by
  refine ⟨?_, by rw [← List.tail_drop, h, List.tail_cons]⟩
  have hlen := congrArg List.length h
  rw [List.length_drop, List.length_cons] at hlen
  omega

/-- A list around the element at a position, with the positions of the others. -/
theorem exists_split (h : xs[i]? = some x) :
    ∃ front back, xs = front ++ x :: back ∧ (∀ y ∈ front, ∃ j, j < i ∧ xs[j]? = some y) ∧
      ∀ y ∈ back, ∃ j, i < j ∧ xs[j]? = some y := by
  refine ⟨xs.take i, xs.drop (i + 1), eq_take_cons_drop h, fun y hy => ?_, fun y hy => ?_⟩
  · obtain ⟨j, hj⟩ := List.getElem?_of_mem hy
    rw [List.getElem?_take] at hj
    split at hj
    · exact ⟨j, by assumption, hj⟩
    · exact absurd hj (by simp)
  · obtain ⟨j, hj⟩ := List.getElem?_of_mem hy
    rw [List.getElem?_drop] at hj
    exact ⟨_, by omega, hj⟩

/-- An element that is not in the middle of a list is in the front or in the back. -/
theorem append_cons_cases {front back above block below : List α}
    (h : front ++ x :: back = above ++ (block ++ below)) (hx : x ∉ block) :
    (∃ m, above = front ++ x :: m ∧ back = m ++ (block ++ below)) ∨
      ∃ m, front = above ++ (block ++ m) ∧ below = m ++ x :: back := by
  induction above generalizing front with
  | cons a above ih =>
    cases front with
    | nil =>
      obtain ⟨rfl, rfl⟩ := List.cons.inj h
      exact Or.inl ⟨above, rfl, rfl⟩
    | cons b front =>
      obtain ⟨rfl, hrest⟩ := List.cons.inj h
      rcases ih hrest with ⟨m, rfl, rfl⟩ | ⟨m, rfl, rfl⟩
      · exact Or.inl ⟨m, rfl, rfl⟩
      · exact Or.inr ⟨m, rfl, rfl⟩
  | nil =>
    refine Or.inr ?_
    induction block generalizing front with
    | nil => exact ⟨front, rfl, h.symm⟩
    | cons b block ih =>
      rw [List.mem_cons, not_or] at hx
      cases front with
      | nil => exact absurd (List.cons.inj h).1 hx.1
      | cons a front =>
        obtain ⟨rfl, hrest⟩ := List.cons.inj h
        obtain ⟨m, rfl, rfl⟩ := ih hx.2 hrest
        exact ⟨m, rfl, rfl⟩

theorem dropWhile_of_forall {p : α → Bool} (h : ∀ y ∈ xs, p y = false) : xs.dropWhile p = xs := by
  cases xs with
  | nil => rfl
  | cons y ys => rw [List.dropWhile_cons_of_neg (by simp [h y List.mem_cons_self])]

/-- A list up to the first occurrence of an element, which the front does not hold. -/
theorem takeWhile_append_of_not_mem [DecidableEq α] (h : x ∉ xs) (more : List α) :
    (xs ++ more).takeWhile (· ≠ x) = xs ++ more.takeWhile (· ≠ x) :=
  List.takeWhile_append_of_pos fun _ hy => decide_eq_true fun he => h (he ▸ hy)

theorem dropWhile_append_of_not_mem [DecidableEq α] (h : x ∉ xs) (more : List α) :
    (xs ++ more).dropWhile (· ≠ x) = more.dropWhile (· ≠ x) :=
  List.dropWhile_append_of_pos fun _ hy => decide_eq_true fun he => h (he ▸ hy)

theorem takeWhile_append_cons [DecidableEq α] (h : x ∉ xs) (more : List α) :
    (xs ++ x :: more).takeWhile (· ≠ x) = xs := by
  rw [takeWhile_append_of_not_mem h, List.takeWhile_cons_of_neg (by simp), List.append_nil]

theorem dropWhile_append_cons [DecidableEq α] (h : x ∉ xs) (more : List α) :
    (xs ++ x :: more).dropWhile (· ≠ x) = x :: more := by
  rw [dropWhile_append_of_not_mem h, List.dropWhile_cons_of_neg (by simp)]

theorem dropWhile_of_not_mem [DecidableEq α] (h : x ∉ xs) : xs.dropWhile (· ≠ x) = [] := by
  have hdrop := dropWhile_append_of_not_mem h []
  rwa [List.append_nil] at hdrop

theorem mem_dropWhile {p : α → Bool} (hx : x ∈ xs) (hp : p x = false) : x ∈ xs.dropWhile p := by
  rw [← List.takeWhile_append_dropWhile (p := p) (l := xs), List.mem_append] at hx
  refine hx.resolve_left fun hfront => ?_
  rw [List.all_eq_true.mp List.all_takeWhile x hfront] at hp
  exact absurd hp (by decide)

theorem intercalate_cons_append (sep : List α) (y : α) (part : List α) (parts : List (List α)) :
    sep.intercalate ((y :: part) :: parts) = y :: sep.intercalate (part :: parts) := by
  cases parts with
  | nil => simp
  | cons next parts => simp [List.intercalate_cons_cons]

theorem mem_of_mem_intercalate {sep : α} {parts : List (List α)}
    (h : x ∈ [sep].intercalate parts) : x = sep ∨ ∃ part ∈ parts, x ∈ part := by
  induction parts with
  | nil => exact absurd h List.not_mem_nil
  | cons part parts ih =>
    have hrest : (x = sep ∨ ∃ p ∈ parts, x ∈ p) → x = sep ∨ ∃ p ∈ part :: parts, x ∈ p :=
      Or.imp_right fun ⟨p, hp, hx⟩ => ⟨p, List.mem_cons_of_mem part hp, hx⟩
    cases parts with
    | nil => exact Or.inr ⟨part, List.mem_cons_self, by simpa using h⟩
    | cons next parts =>
      rw [List.intercalate_cons_cons, List.mem_append, List.mem_append, List.mem_singleton] at h
      rcases h with (h | h) | h
      · exact Or.inr ⟨part, List.mem_cons_self, h⟩
      · exact Or.inl h
      · exact hrest (ih h)

end Lists

/-! ## Orders -/

section Orders

open Std

variable {α β : Type} {cmp : α → α → Ordering} {l m : List α}

theorem eq_of_compareLex [LawfulEqCmp cmp] (h : List.compareLex cmp l m = .eq) : l = m := by
  induction l generalizing m with
  | nil => exact (List.compareLex_nil_left_eq_eq.mp h).symm
  | cons x l ih =>
    cases m with
    | nil => exact List.compareLex_nil_right_eq_eq.mp h
    | cons y m =>
      rw [List.compareLex_cons_cons, Ordering.then_eq_eq] at h
      rw [LawfulEqCmp.eq_of_compare h.1, ih h.2]

/-- Lists are compared at the first position where they differ, or else by their lengths. -/
theorem compareLex_eq_lt_iff [LawfulEqCmp cmp] :
    List.compareLex cmp l m = .lt ↔ List.Lex (fun x y => cmp x y = .lt) l m := by
  induction l generalizing m with
  | nil =>
    cases m with
    | nil => simp [List.compareLex_nil_nil]
    | cons y m => simp [List.compareLex_nil_cons]
  | cons x l ih =>
    cases m with
    | nil => simp [List.compareLex_cons_nil]
    | cons y m =>
      rw [List.compareLex_cons_cons, Ordering.then_eq_lt, LawfulEqCmp.compare_eq_iff_eq, ih]
      constructor
      · rintro (h | ⟨rfl, h⟩)
        · exact .rel h
        · exact .cons h
      · rintro (_ | h | h)
        · exact Or.inl h
        · exact Or.inr ⟨rfl, h⟩

/-- A transitive comparison of what is read off the elements. -/
theorem transCmp_on (cmp : β → β → Ordering) [TransCmp cmp] (f : α → β) :
    TransCmp fun x y => cmp (f x) (f y) where
  eq_swap := OrientedCmp.eq_swap
  isLE_trans := TransCmp.isLE_trans

end Orders

end Slipway
