import Slipway.Proofs.Basic
import Slipway.Proofs.Disk.Path

/-!
# Looking up paths

`Disk.Leads` says that a path can be walked: the system accepts it and its way consists of
directories. A path that can be walked leads to `Path.place`, so looking it up is looking at that
place (`resolve_eq_ok_iff`, `lookup_eq_ok_iff`, `pathExists_iff`, `isDirectory_iff`).
-/

namespace Slipway.Disk

variable {d d' : Disk} {path : String} {p q : Place} {e : Entry}

/-! ## What stands at a place -/

@[simp] theorem at?_nil (d : Disk) : d.at? [] = some .directory := rfl

theorem at?_of_ne_nil (h : p ≠ []) : d.at? p = (d.entries.find? fun e => e.1 = p).map Prod.snd :=
  if_neg h

theorem find?_filter_of_imp {keep : Place × Entry → Bool} (l : List (Place × Entry))
    (h : ∀ x : Place × Entry, x.1 = p → keep x = true) :
    (l.filter keep).find? (fun e => e.1 = p) = l.find? fun e => e.1 = p := by
  rw [List.find?_filter]
  congr 1
  funext x
  by_cases hx : x.1 = p
  · simp [hx, h x hx]
  · simp [hx]

theorem find?_filter_eq_none {keep : Place × Entry → Bool} (l : List (Place × Entry))
    (h : ∀ x : Place × Entry, x.1 = p → keep x = false) :
    (l.filter keep).find? (fun e => e.1 = p) = none := by
  rw [List.find?_eq_none]
  intro x hx hxp
  have hk := (List.mem_filter.mp hx).2
  rw [h x (by simpa using hxp)] at hk
  exact Bool.false_ne_true hk

theorem at?_put (d : Disk) (p : Place) (e : Entry) (q : Place) :
    (d.put p e).at? q = if q ≠ [] ∧ q = p then some e else d.at? q := by
  by_cases hq : q = []
  · simp [hq]
  · rw [at?_of_ne_nil hq]
    by_cases hp : q = p
    · subst hp
      simp [put, hq]
    · have hp' : ¬ p = q := fun h => hp h.symm
      rw [if_neg (fun h => hp h.2), at?_of_ne_nil hq]
      unfold put
      simp only
      rw [List.find?_cons_of_neg (by simpa using hp'), find?_filter_of_imp]
      intro x hx
      simpa [hx] using hp

theorem at?_put_self (hp : p ≠ []) : (d.put p e).at? p = some e := by
  rw [at?_put, if_pos ⟨hp, rfl⟩]

theorem at?_put_of_ne (h : q ≠ p) : (d.put p e).at? q = d.at? q := by
  rw [at?_put, if_neg fun h' => h h'.2]

theorem at?_cut (d : Disk) (p q : Place) :
    (d.cut p).at? q = if q ≠ [] ∧ p <+: q then none else d.at? q := by
  by_cases hq : q = []
  · simp [hq]
  · rw [at?_of_ne_nil hq]
    unfold cut
    by_cases hp : p <+: q
    · rw [if_pos ⟨hq, hp⟩, find?_filter_eq_none, Option.map_none]
      intro x hx
      simpa [hx] using hp
    · rw [if_neg (fun h => hp h.2), at?_of_ne_nil hq, find?_filter_of_imp]
      intro x hx
      rw [hx, Bool.not_eq_true', ← Bool.not_eq_true, List.isPrefixOf_iff_prefix]
      exact hp

theorem at?_clear (d : Disk) (p q : Place) :
    (d.clear p).at? q = if q ≠ [] ∧ q ≠ p ∧ p <+: q then none else d.at? q := by
  by_cases hq : q = []
  · simp [hq]
  · rw [at?_of_ne_nil hq]
    unfold clear
    by_cases hp : q ≠ p ∧ p <+: q
    · rw [if_pos ⟨hq, hp⟩, find?_filter_eq_none, Option.map_none]
      intro x hx
      simpa [hx] using hp
    · rw [if_neg (fun h => hp h.2), at?_of_ne_nil hq, find?_filter_of_imp]
      intro x hx
      by_cases hqp : q = p
      · simp [hx, hqp]
      · simpa [hx, hqp] using fun h => hp ⟨hqp, h⟩

/-! ## Walking -/

/-- The system accepts a path, and what it leads through are directories. -/
structure Leads (d : Disk) (path : String) : Prop where
  valid : Path.Valid path
  way : ∀ q ∈ Path.way path, d.at? q = some .directory

theorem walk_eq_ok_iff (d : Disk) (names : List String) (here p : Place) :
    d.walk here names = .ok p ↔
      p = Path.follow here names ∧ (∀ q ∈ Path.through here names, d.at? q = some .directory) ∧
        ∀ n ∈ names, n.utf8ByteSize ≤ maxName := by
  induction names generalizing here with
  | nil => simp [walk, Path.follow, Path.through, eq_comm]
  | cons name names ih =>
    have hstep : (∀ q ∈ Path.through here (name :: names), d.at? q = some .directory) ↔
        d.at? here = some .directory ∧
          ∀ q ∈ Path.through (Path.next here name) names, d.at? q = some .directory := by
      simp [Path.through]
    have hfollow : Path.follow here (name :: names) = Path.follow (Path.next here name) names := rfl
    rw [hstep, hfollow, List.forall_mem_cons]
    unfold walk
    cases hh : d.at? here with
    | none => simp
    | some x =>
      cases x with
      | file c => simp
      | directory =>
        simp only [true_and]
        by_cases h1 : Path.Idle name
        · have hs : name.utf8ByteSize ≤ maxName := by rcases h1 with rfl | rfl <;> decide
          rw [if_pos (show name = "" ∨ name = "." from h1), ih, Path.next_idle h1]
          simp [hs]
        · rw [if_neg (show ¬ (name = "" ∨ name = ".") from h1)]
          by_cases h2 : name = ".."
          · have hs : name.utf8ByteSize ≤ maxName := by rw [h2]; decide
            have hn : Path.next here name = here.dropLast := by
              unfold Path.next
              rw [if_neg h1, if_pos h2]
            rw [if_pos h2, ih, hn]
            simp [hs]
          · have hn : Path.next here name = here ++ [name] := by
              unfold Path.next
              rw [if_neg h1, if_neg h2]
            rw [if_neg h2]
            by_cases h3 : maxName < name.utf8ByteSize
            · rw [if_pos h3]
              simp only [reduceCtorEq, false_iff]
              rintro ⟨-, -, h, -⟩
              omega
            · rw [if_neg h3, ih, hn]
              simp [Nat.le_of_not_lt h3]

/-- **A path that can be walked leads to its place.** -/
theorem resolve_eq_ok_iff : d.resolve path = .ok p ↔ d.Leads path ∧ p = Path.place path := by
  unfold resolve
  by_cases h1 : path = ""
  · rw [if_pos h1]
    simp only [reduceCtorEq, false_iff]
    exact fun h => h.1.valid.nonempty h1
  · rw [if_neg h1]
    by_cases h2 : path.toList.contains '\x00' = true
    · rw [if_pos h2]
      simp only [reduceCtorEq, false_iff]
      intro h
      rw [h.1.valid.noNul] at h2
      exact Bool.false_ne_true h2
    · rw [if_neg h2, walk_eq_ok_iff]
      constructor
      · rintro ⟨hp, hw, hs⟩
        exact ⟨⟨⟨h1, by simpa using h2, hs⟩, hw⟩, hp⟩
      · rintro ⟨h, hp⟩
        exact ⟨hp, h.way, h.valid.short⟩

theorem Leads.resolve (h : d.Leads path) : d.resolve path = .ok (Path.place path) :=
  resolve_eq_ok_iff.mpr ⟨h, rfl⟩

/-- An operation that resolves its path first works on the place that the path leads to. -/
theorem resolve_bind_eq_ok_iff {α : Type} {f : Place → Except DiskError α} {a : α} :
    (d.resolve path >>= f) = .ok a ↔ d.Leads path ∧ f (Path.place path) = .ok a := by
  cases hr : d.resolve path with
  | error err =>
    refine ⟨fun h => absurd h (by simp [bind, Except.bind]), fun h => ?_⟩
    rw [h.1.resolve] at hr
    exact absurd hr (by simp)
  | ok p =>
    obtain ⟨hl, rfl⟩ := resolve_eq_ok_iff.mp hr
    exact ⟨fun h => ⟨hl, h⟩, And.right⟩

theorem lookup_eq_ok_iff :
    d.lookup path = .ok e ↔ d.Leads path ∧ d.at? (Path.place path) = some e := by
  unfold lookup
  rw [resolve_bind_eq_ok_iff]
  cases d.at? (Path.place path) with
  | none => simp [throw, throwThe, MonadExceptOf.throw]
  | some x => simp [pure, Except.pure]

theorem pathExists_iff :
    d.pathExists path = true ↔ d.Leads path ∧ d.at? (Path.place path) ≠ none := by
  unfold pathExists
  cases h : d.lookup path with
  | ok e =>
    obtain ⟨hl, ha⟩ := lookup_eq_ok_iff.mp h
    simp [Except.toOption, hl, ha]
  | error err =>
    simp only [Except.toOption, Option.isSome_none, Bool.false_eq_true, false_iff]
    rintro ⟨hl, ha⟩
    obtain ⟨e, he⟩ := Option.ne_none_iff_exists'.mp ha
    rw [lookup_eq_ok_iff.mpr ⟨hl, he⟩] at h
    exact absurd h (by simp)

theorem isDirectory_iff :
    d.isDirectory path = true ↔ d.Leads path ∧ d.at? (Path.place path) = some .directory := by
  rw [← lookup_eq_ok_iff]
  unfold isDirectory
  split
  · rename_i h
    simp [h]
  · rename_i h
    simp only [Bool.false_eq_true, false_iff]
    exact h

theorem pathExists_of_isDirectory (h : d.isDirectory path = true) : d.pathExists path = true := by
  obtain ⟨hl, hat⟩ := isDirectory_iff.mp h
  exact pathExists_iff.mpr ⟨hl, by rw [hat]; exact Option.some_ne_none _⟩

theorem Leads.mono (h : d.Leads path)
    (hd : ∀ q ∈ Path.way path, d.at? q = some .directory → d'.at? q = some .directory) :
    d'.Leads path :=
  ⟨h.valid, fun q hq => hd q hq (h.way q hq)⟩

/-- A path of a file does not end in a slash. -/
theorem Leads.noSlash (h : d.Leads path) (hp : d.at? (Path.place path) ≠ some .directory) :
    path.toList.getLast? ≠ some '/' :=
  fun hs => hp (h.way _ (Path.place_mem_way_of_slash hs))

/-- A directory that can be looked up has directories above it. -/
theorem isDirectory_parent {up : String} (h : Path.parent? path = some up) (hu : up ≠ "")
    (hd : d.isDirectory path = true) : d.isDirectory up = true := by
  rw [isDirectory_iff] at hd ⊢
  obtain ⟨hl, hp⟩ := hd
  have key : ∀ q, q = Path.place up ∨ q ∈ Path.way up → d.at? q = some .directory := by
    intro q hq
    rcases Path.mem_way_of_parent h hq with rfl | hq
    · exact hp
    · exact hl.way q hq
  exact ⟨⟨hl.valid.parent h hu, fun q hq => key q (Or.inr hq)⟩, key _ (Or.inl rfl)⟩

/-! ## Below a directory -/

variable {base name : String}

theorem leads_join_iff (hb : base ≠ "") (hn : Path.Plain name) :
    d.Leads (Path.join base name) ↔ d.isDirectory base = true ∧
      name.toList.contains '\x00' = false ∧ name.utf8ByteSize ≤ maxName := by
  rw [isDirectory_iff]
  constructor
  · rintro ⟨hv, hw⟩
    obtain ⟨hv, hz, hs⟩ := (Path.valid_join_iff hb hn).mp hv
    obtain ⟨hw, hp⟩ := (Path.forall_mem_way_join hb hn).mp hw
    exact ⟨⟨⟨hv, hw⟩, hp⟩, hz, hs⟩
  · rintro ⟨⟨⟨hv, hw⟩, hp⟩, hz, hs⟩
    exact ⟨(Path.valid_join_iff hb hn).mpr ⟨hv, hz, hs⟩,
      (Path.forall_mem_way_join hb hn).mpr ⟨hw, hp⟩⟩

end Slipway.Disk
