import Slipway.Proofs.Artifact.Substitute
import Slipway.Proofs.Version.Precedence
import Slipway.Proofs.Version.Semantic
import Slipway.Repository

/-!
# The latest tag

About `Repository::latest_version_tag` (`keel_git::repository`). Tags that name a version after a
prefix (`Names`) are ordered as their versions are. A version has one text, so no two different tags
name the same one; the latest tag is therefore the only one that all others come before
(`latestVersionTag?_eq_some_iff`), in whatever order the tags are listed
(`latestVersionTag?_latest`).
-/

namespace Slipway.Repository

open Std SemanticVersion

variable {r : Repository} {tagPrefix tag tag' : String} {tags tags' : List String}
variable {v w : SemanticVersion} {t u : String × SemanticVersion}
variable {ts : List (String × SemanticVersion)}

/-! ## Tags that name a version -/

/-- A tag consists of the prefix and the text of a semantic version. -/
def Names (tagPrefix tag : String) (v : SemanticVersion) : Prop :=
  v.WellFormed ∧ tag.toList = tagPrefix.toList ++ v.written

theorem tagVersion?_eq_some_iff : tagVersion? tagPrefix tag = some v ↔ Names tagPrefix tag v := by
  unfold tagVersion? Names
  constructor
  · intro h
    obtain ⟨text, htext, hv⟩ := Option.bind_eq_some_iff.mp h
    rw [Text.after?_eq_some_iff] at htext
    rw [SemanticVersion.parse?_eq_some_iff] at hv
    rw [htext, hv.2]
    exact ⟨hv.1, rfl⟩
  · rintro ⟨hv, htext⟩
    rw [Text.after?_eq_some_iff.mpr htext, Option.bind_some]
    exact SemanticVersion.parse?_eq_some_iff.mpr ⟨hv, rfl⟩

/-- A version is named by one tag. -/
theorem Names.tag_unique (h : Names tagPrefix tag v) (h' : Names tagPrefix tag' v) : tag = tag' :=
  String.toList_inj.mp (h.2.trans h'.2.symm)

theorem mem_versionTags_iff :
    (tag, v) ∈ versionTags tagPrefix tags ↔ tag ∈ tags ∧ Names tagPrefix tag v := by
  unfold versionTags
  rw [List.mem_filterMap, ← tagVersion?_eq_some_iff]
  constructor
  · rintro ⟨tag', hmem, h⟩
    obtain ⟨w, hw, heq⟩ := Option.map_eq_some_iff.mp h
    obtain ⟨rfl, rfl⟩ := Prod.mk.inj heq
    exact ⟨hmem, hw⟩
  · rintro ⟨hmem, h⟩
    exact ⟨tag, hmem, by rw [h, Option.map_some]⟩

/-! ## The greatest version -/

theorem greater_eq_or (t u : String × SemanticVersion) : greater t u = t ∨ greater t u = u := by
  unfold greater
  split
  · exact Or.inr rfl
  · exact Or.inl rfl

theorem atMost_greater_left (t u : String × SemanticVersion) : t.2.AtMost (greater t u).2 := by
  unfold greater
  split
  · rename_i h
    exact Or.inr (compare_eq_lt_iff.mp h)
  · exact Or.inl rfl

theorem atMost_greater_right (t u : String × SemanticVersion) : u.2.AtMost (greater t u).2 := by
  unfold greater
  split
  · exact Or.inl rfl
  · rename_i h
    exact atMost_of_not_precedes (mt compare_eq_lt_iff.mpr h)

/-- The greatest version of a list is one of it, and none of it comes after. -/
theorem foldl_greater (t : String × SemanticVersion) (ts : List (String × SemanticVersion)) :
    ts.foldl greater t ∈ t :: ts ∧ ∀ u ∈ t :: ts, u.2.AtMost (ts.foldl greater t).2 := by
  induction ts generalizing t with
  | nil =>
    refine ⟨List.mem_cons_self, fun u hu => ?_⟩
    rw [List.mem_singleton.mp hu]
    exact Or.inl rfl
  | cons next ts ih =>
    obtain ⟨hmem, hle⟩ := ih (greater t next)
    have hbest := hle (greater t next) List.mem_cons_self
    rw [List.foldl_cons]
    constructor
    · rcases List.mem_cons.mp hmem with h | h
      · rw [h]
        rcases greater_eq_or t next with h | h
        · rw [h]
          exact List.mem_cons_self
        · rw [h]
          exact List.mem_cons_of_mem t List.mem_cons_self
      · exact List.mem_cons_of_mem t (List.mem_cons_of_mem next h)
    · intro u hu
      rcases List.mem_cons.mp hu with rfl | hu
      · exact (atMost_greater_left u next).trans hbest
      · rcases List.mem_cons.mp hu with rfl | hu
        · exact (atMost_greater_right t u).trans hbest
        · exact hle u (List.mem_cons_of_mem _ hu)

/-- The tag that is found has the greatest version. -/
theorem latestOf?_eq_some (h : latestOf? ts = some t) : t ∈ ts ∧ ∀ u ∈ ts, u.2.AtMost t.2 := by
  cases ts with
  | nil => exact absurd h (by simp [latestOf?])
  | cons first ts =>
    obtain rfl := Option.some.inj h
    exact foldl_greater first ts

theorem latestOf?_eq_none_iff : latestOf? ts = none ↔ ts = [] := by
  cases ts with
  | nil => simp [latestOf?]
  | cons first ts => simp [latestOf?]

/-! ## The latest tag -/

/-- The latest tag of a list: it names a version, and all other tags that do name earlier ones. -/
def IsLatest (tagPrefix : String) (tags : List String) (tag : String) : Prop :=
  tag ∈ tags ∧ ∃ v, Names tagPrefix tag v ∧
    ∀ tag' ∈ tags, ∀ w, Names tagPrefix tag' w → tag' = tag ∨ w.Precedes v

theorem IsLatest.unique (h : IsLatest tagPrefix tags tag) (h' : IsLatest tagPrefix tags tag') :
    tag = tag' := by
  obtain ⟨hmem, v, hv, hbest⟩ := h
  obtain ⟨hmem', w, hw, hbest'⟩ := h'
  rcases hbest tag' hmem' w hw with heq | hvw
  · exact heq.symm
  · rcases hbest' tag hmem v hv with heq | hwv
    · exact heq
    · exact absurd hwv hvw.not_precedes

theorem isLatest_of_latestVersionTag? (h : r.latestVersionTag? tagPrefix = some tag) :
    IsLatest tagPrefix r.tags tag := by
  obtain ⟨⟨tag, v⟩, hlatest, rfl⟩ := Option.map_eq_some_iff.mp h
  obtain ⟨hmem, hbest⟩ := latestOf?_eq_some hlatest
  obtain ⟨htag, hv⟩ := mem_versionTags_iff.mp hmem
  refine ⟨htag, v, hv, fun tag' htag' w hw => ?_⟩
  rcases hbest (tag', w) (mem_versionTags_iff.mpr ⟨htag', hw⟩) with heq | hbefore
  · obtain rfl : w = v := heq
    exact Or.inl (hw.tag_unique hv)
  · exact Or.inr hbefore

theorem latestVersionTag?_eq_none_iff :
    r.latestVersionTag? tagPrefix = none ↔ ∀ tag ∈ r.tags, ∀ v, ¬ Names tagPrefix tag v := by
  unfold latestVersionTag?
  rw [Option.map_eq_none_iff, latestOf?_eq_none_iff, List.eq_nil_iff_forall_not_mem]
  constructor
  · exact fun h tag htag v hv => h (tag, v) (mem_versionTags_iff.mpr ⟨htag, hv⟩)
  · rintro h ⟨tag, v⟩ hmem
    obtain ⟨htag, hv⟩ := mem_versionTags_iff.mp hmem
    exact h tag htag v hv

theorem latestVersionTag?_eq_some_iff :
    r.latestVersionTag? tagPrefix = some tag ↔ IsLatest tagPrefix r.tags tag := by
  refine ⟨isLatest_of_latestVersionTag?, fun h => ?_⟩
  cases hfound : r.latestVersionTag? tagPrefix with
  | none =>
    obtain ⟨hmem, v, hv, -⟩ := h
    exact absurd hv (latestVersionTag?_eq_none_iff.mp hfound tag hmem v)
  | some tag' => rw [h.unique (isLatest_of_latestVersionTag? hfound)]

theorem isLatest_congr (h : ∀ t, t ∈ tags ↔ t ∈ tags') :
    IsLatest tagPrefix tags tag ↔ IsLatest tagPrefix tags' tag := by
  unfold IsLatest
  simp only [h]

/-- **The latest tag is the greatest one**, whatever the order. There is none exactly if no tag
names a version; otherwise it is the tag whose version all others come before, and it depends on
the tags but not on how they are listed. -/
theorem latestVersionTag?_latest (r : Repository) (tagPrefix : String) :
    (r.latestVersionTag? tagPrefix = none ↔ ∀ tag ∈ r.tags, ∀ v, ¬ Names tagPrefix tag v) ∧
      (∀ tag, r.latestVersionTag? tagPrefix = some tag ↔ IsLatest tagPrefix r.tags tag) ∧
      ∀ tags, r.tags.Perm tags →
        { r with tags := tags }.latestVersionTag? tagPrefix = r.latestVersionTag? tagPrefix := by
  refine ⟨latestVersionTag?_eq_none_iff, fun tag => latestVersionTag?_eq_some_iff,
    fun tags hperm => Option.ext fun tag => ?_⟩
  rw [latestVersionTag?_eq_some_iff, latestVersionTag?_eq_some_iff]
  exact isLatest_congr fun t => hperm.mem_iff.symm

/-- A number comes before a word, and both before the release. -/
example : (Repository.latestVersionTag? ⟨[], ["v2.0.0-9", "v2.0.0-rc", "v1.10.0", "v1.9.0"], [], []⟩
    "v") = some "v2.0.0-rc" := by decide +kernel

end Slipway.Repository
