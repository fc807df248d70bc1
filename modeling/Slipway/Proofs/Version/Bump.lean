import Slipway.Config.Schema
import Slipway.Proofs.Version.Precedence
import Slipway.Proofs.Version.Text

/-!
# Versions under bumps

About `VersionManager::bump` (`keel_core::version`). A bump fails exactly if its component is the
greatest number of 64 bits. Otherwise it leads to the least version above the one it starts from,
among those that are clear below the component (`LeastAbove`). So versions that are bumped one after
the other, with any kinds and past bumps that fail, only climb: none of them comes twice, and
neither does a tag (`bumps_climb`).
-/

namespace Slipway.Version

variable {v w : Version} {m n : UInt64} {kind : BumpKind} {kinds : List BumpKind}

/-! ## One component -/

theorem next?_eq_some_iff : next? m = some n ↔ n.toNat = m.toNat + 1 := by
  unfold next?
  constructor
  · intro h
    split at h
    · rw [← Option.some.inj h, UInt64.toNat_ofNatLT]
    · exact absurd h (by simp)
  · intro h
    have hlt : m.toNat + 1 < UInt64.size := h ▸ n.toNat_lt_size
    rw [dif_pos hlt, Option.some.injEq, ← UInt64.toNat_inj, UInt64.toNat_ofNatLT, h]

theorem next?_eq_none_iff : next? m = none ↔ m.toNat = UInt64.size - 1 := by
  have hlt := m.toNat_lt_size
  unfold next?
  split
  · simp only [reduceCtorEq, false_iff]
    omega
  · simp only [true_iff]
    omega

/-! ## One bump -/

/-- The component that a bump increments. -/
def component (v : Version) : BumpKind → UInt64
  | .patch => v.patch
  | .minor => v.minor
  | .major => v.major

/-- The components below the one that a bump increments are zero. -/
def ClearBelow : BumpKind → Version → Prop
  | .patch, _ => True
  | .minor, v => v.patch = 0
  | .major, v => v.minor = 0 ∧ v.patch = 0

/-- The least version that comes after another one, among those that are clear below a component. -/
structure LeastAbove (kind : BumpKind) (v w : Version) : Prop where
  above : v.Precedes w
  clear : ClearBelow kind w
  least : ∀ u, v.Precedes u → ClearBelow kind u → u = w ∨ w.Precedes u

theorem bump?_eq_none_iff : v.bump? kind = none ↔ (v.component kind).toNat = UInt64.size - 1 := by
  cases kind <;> exact Option.map_eq_none_iff.trans next?_eq_none_iff

/-- What a bump does to the components. -/
theorem toNat_of_bump? (h : v.bump? kind = some w) :
    match kind with
    | .patch => w.major.toNat = v.major.toNat ∧ w.minor.toNat = v.minor.toNat ∧
        w.patch.toNat = v.patch.toNat + 1
    | .minor => w.major.toNat = v.major.toNat ∧ w.minor.toNat = v.minor.toNat + 1 ∧
        w.patch.toNat = 0
    | .major => w.major.toNat = v.major.toNat + 1 ∧ w.minor.toNat = 0 ∧ w.patch.toNat = 0 := by
  cases kind with
  | patch =>
    obtain ⟨n, hn, rfl⟩ := Option.map_eq_some_iff.mp h
    exact ⟨rfl, rfl, next?_eq_some_iff.mp hn⟩
  | minor =>
    obtain ⟨n, hn, rfl⟩ := Option.map_eq_some_iff.mp h
    exact ⟨rfl, next?_eq_some_iff.mp hn, rfl⟩
  | major =>
    obtain ⟨n, hn, rfl⟩ := Option.map_eq_some_iff.mp h
    exact ⟨next?_eq_some_iff.mp hn, rfl, rfl⟩

theorem precedes_of_bump? (h : v.bump? kind = some w) : v.Precedes w := by
  have hw := toNat_of_bump? h
  rw [precedes_iff_toNat]
  cases kind with
  | patch => omega
  | minor => omega
  | major => omega

/-- **A bump leads to the least version above** that is clear below the bumped component. -/
theorem leastAbove_of_bump? (h : v.bump? kind = some w) : LeastAbove kind v w := by
  have hw := toNat_of_bump? h
  refine ⟨precedes_of_bump? h, ?_, fun u hu hclear => ?_⟩
  · cases kind with
    | patch => trivial
    | minor => exact UInt64.toNat_inj.mp hw.2.2
    | major => exact ⟨UInt64.toNat_inj.mp hw.2.1, UInt64.toNat_inj.mp hw.2.2⟩
  · rw [precedes_iff_toNat] at hu ⊢
    rw [eq_iff_toNat]
    cases kind with
    | patch => omega
    | minor =>
      have hpatch : u.patch.toNat = 0 := congrArg UInt64.toNat hclear
      omega
    | major =>
      have hminor : u.minor.toNat = 0 := congrArg UInt64.toNat hclear.1
      have hpatch : u.patch.toNat = 0 := congrArg UInt64.toNat hclear.2
      omega

theorem bump_eq_ok_iff : v.bump kind = .ok w ↔ v.bump? kind = some w := by
  unfold bump
  cases v.bump? kind with
  | none => simp
  | some w' => simp

theorem bump_of_none (h : v.bump? kind = none) :
    v.bump kind = .error (.versionOverflow v kind) := by
  unfold bump
  rw [h]

/-- How a bump ends. -/
structure Climbs (v : Version) (kind : BumpKind) : Prop where
  /-- It fails where its component cannot grow. -/
  fails : (v.component kind).toNat = UInt64.size - 1 →
    v.bump kind = .error (.versionOverflow v kind)
  /-- It leads to the least version above otherwise. -/
  grows : (v.component kind).toNat ≠ UInt64.size - 1 →
    ∃ w, v.bump kind = .ok w ∧ LeastAbove kind v w

theorem climbs (v : Version) (kind : BumpKind) : Climbs v kind where
  fails h := bump_of_none (bump?_eq_none_iff.mpr h)
  grows h := by
    obtain ⟨w, hw⟩ := Option.ne_none_iff_exists'.mp (mt bump?_eq_none_iff.mp h)
    exact ⟨w, bump_eq_ok_iff.mpr hw, leastAbove_of_bump? hw⟩

/-! ## Bumps one after the other -/

/-- The versions that bumps of the given kinds lead to, each from the last one that was reached. A
bump that fails leads to none, and the next one starts from the same version. -/
def bumps (v : Version) : List BumpKind → List Version
  | [] => []
  | kind :: kinds =>
    match v.bump kind with
    | .ok w => w :: w.bumps kinds
    | .error _ => v.bumps kinds

/-- The versions that are reached all come after the first one. -/
theorem precedes_of_mem_bumps (h : w ∈ v.bumps kinds) : v.Precedes w := by
  induction kinds generalizing v with
  | nil => exact absurd h List.not_mem_nil
  | cons kind kinds ih =>
    unfold bumps at h
    split at h
    · rename_i next hnext
      have hup := precedes_of_bump? (bump_eq_ok_iff.mp hnext)
      rcases List.mem_cons.mp h with rfl | h
      · exact hup
      · exact hup.trans (ih h)
    · exact ih h

theorem pairwise_bumps (v : Version) (kinds : List BumpKind) :
    (v :: v.bumps kinds).Pairwise Precedes := by
  refine List.pairwise_cons.mpr ⟨fun w => precedes_of_mem_bumps, ?_⟩
  induction kinds generalizing v with
  | nil => exact List.Pairwise.nil
  | cons kind kinds ih =>
    unfold bumps
    split
    · rename_i next _
      exact List.pairwise_cons.mpr ⟨fun w => precedes_of_mem_bumps, ih next⟩
    · exact ih v

/-- Tags with one prefix differ as their versions do. -/
theorem tagName_text_injective {c : Config} (h : c.tagName v.text = c.tagName w.text) : v = w :=
  text_injective (String.append_right_inj _ |>.mp h)

/-- **Bumps climb strictly.** Each one fails only where its component cannot grow, and else leads to
the least version above; so no version comes twice, nor does the tag of one. -/
theorem bumps_climb :
    (∀ (v : Version) (kind : BumpKind), Climbs v kind) ∧
      ∀ (v : Version) (kinds : List BumpKind),
        (v :: v.bumps kinds).Pairwise Precedes ∧ (v :: v.bumps kinds).Nodup ∧
          ∀ c : Config, ((v :: v.bumps kinds).map fun w => c.tagName w.text).Nodup := by
  refine ⟨climbs, fun v kinds => ?_⟩
  have hclimb := pairwise_bumps v kinds
  refine ⟨hclimb, hclimb.imp Precedes.ne, fun c => ?_⟩
  rw [List.nodup_iff_pairwise_ne, List.pairwise_map]
  exact hclimb.imp fun h htag => h.ne (tagName_text_injective htag)

/-- A bump that fails is passed over. -/
example : bumps ⟨0, 18446744073709551615, 3⟩ [.minor, .patch, .major] =
    [⟨0, 18446744073709551615, 4⟩, ⟨1, 0, 0⟩] := by decide

end Slipway.Version
