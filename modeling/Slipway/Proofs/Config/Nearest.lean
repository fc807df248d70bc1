import Slipway.Config.Load
import Slipway.Proofs.Disk.Above
import Slipway.Proofs.Disk.Lookup

/-!
# The nearest configuration

About `find_and_load_config_from` (`keel_config::loader`). Looking for the configuration of a
directory goes up from it (`Path.Ancestor`) and stops at the first directory that holds the file,
its `Nearest` one. What that file gives is the result, whether it can be used or not (`LoadsFrom`);
the files further up are not looked at. Without any file the result names the one that was missing
from the directory itself (`find_nearest`).
-/

namespace Slipway.Config

open Slipway.Path

variable {disk disk' : Disk} {start dir path field reason : String} {c : Config} {e : ConfigError}

/-! ## The nearest directory -/

/-- A directory holds a configuration file. -/
def Holds (disk : Disk) (dir : String) : Prop := disk.pathExists (join dir fileName) = true

/-- The first directory on the way up that holds a configuration file. -/
inductive Nearest (disk : Disk) : (start dir : String) → Prop
  /-- The directory itself. -/
  | here {start : String} (h : Holds disk start) : Nearest disk start start
  /-- Without a file in it, the nearest one to the directory above. -/
  | up {start up dir : String} (hnone : ¬ Holds disk start) (hup : parent? start = some up)
      (h : Nearest disk up dir) : Nearest disk start dir

theorem Nearest.ancestor (h : Nearest disk start dir) : Ancestor start dir := by
  induction h with
  | here h => exact .self
  | up _ hup _ ih => exact .up hup ih

theorem Nearest.holds (h : Nearest disk start dir) : Holds disk dir := by
  induction h with
  | here h => exact h
  | up _ _ _ ih => exact ih

theorem nearest?_of_nearest (h : Nearest disk start dir) :
    nearest? disk (start :: above start) = some dir := by
  unfold nearest?
  induction h with
  | here h => exact List.find?_cons_of_pos h
  | @up start up dir hnone hup _ ih =>
    have hskip : (start :: above start).find? (fun dir => disk.pathExists (join dir fileName)) =
        (above start).find? fun dir => disk.pathExists (join dir fileName) :=
      List.find?_cons_of_neg hnone
    rw [hskip, above_of_some hup, ih]

theorem nearest?_eq_none_iff : nearest? disk (start :: above start) = none ↔
    ∀ dir, Ancestor start dir → ¬ Holds disk dir := by
  unfold nearest?
  rw [List.find?_eq_none]
  simp only [mem_above_iff]
  rfl

/-- Where some directory on the way up holds the file, one of them is the nearest. -/
theorem exists_nearest (h : Ancestor start dir) (hd : Holds disk dir) :
    ∃ near, Nearest disk start near := by
  induction h with
  | self => exact ⟨_, .here hd⟩
  | @up start up dir hup _ ih =>
    by_cases hs : Holds disk start
    · exact ⟨start, .here hs⟩
    · obtain ⟨near, hnear⟩ := ih hd
      exact ⟨near, .up hs hup hnear⟩

theorem Nearest.unique (h : Nearest disk start dir) {other : String}
    (h' : Nearest disk start other) : dir = other :=
  Option.some.inj ((nearest?_of_nearest h).symm.trans (nearest?_of_nearest h'))

/-! ## The file that is found -/

/-- The file at a path holds a configuration that can be used. -/
def Accepts (disk : Disk) (path : String) (c : Config) : Prop :=
  ∃ text, disk.readText path = .ok text ∧ ofText? text = some c ∧ c.problems = []

/-- Why the file at a path cannot be used. -/
inductive Rejects (disk : Disk) (path : String) : ConfigError → Prop
  /-- It cannot be read. -/
  | unreadable {cause : DiskError} (h : disk.readText path = .error cause) :
      Rejects disk path (.unreadable path cause)
  /-- It is no text of a configuration. -/
  | unparsable {text : String} (h : disk.readText path = .ok text) (htext : ofText? text = none) :
      Rejects disk path (.unparsable path unparsableReason)
  /-- It holds a configuration with a problem; the first one is told. -/
  | invalid {text field reason : String} {c : Config} {more : List ConfigError}
      (h : disk.readText path = .ok text) (htext : ofText? text = some c)
      (hc : c.problems = .invalid field reason :: more) : Rejects disk path (.invalid field reason)

theorem exists_of_mem_problemIf {condition : Bool} (h : e ∈ problemIf condition field reason) :
    ∃ field reason, e = .invalid field reason := by
  unfold problemIf at h
  split at h
  · exact ⟨field, reason, List.mem_singleton.mp h⟩
  · exact absurd h List.not_mem_nil

/-- Every problem is told by the field that has it. -/
theorem exists_of_mem_problems (h : e ∈ c.problems) :
    ∃ field reason, e = .invalid field reason := by
  unfold problems at h
  simp only [List.mem_append] at h
  rcases h with (((((h | h) | h) | h) | h) | h) | h
  case inl.inl.inr =>
    -- the problems of the artifacts, three for each
    obtain ⟨ps, hps, hp⟩ := List.mem_flatten.mp h
    obtain ⟨i, hi, rfl⟩ := List.mem_mapIdx.mp hps
    unfold artifactProblems at hp
    simp only [List.mem_append] at hp
    rcases hp with (hp | hp) | hp
    all_goals exact exists_of_mem_problemIf hp
  all_goals exact exists_of_mem_problemIf h

theorem load_of_accepts (hp : disk.pathExists path = true) (h : Accepts disk path c) :
    load disk path = .ok c := by
  obtain ⟨text, hread, htext, hc⟩ := h
  unfold load
  simp only [hp, hread, htext, validate_eq_ok_iff.mpr hc]
  rfl

theorem load_of_rejects (hp : disk.pathExists path = true) (h : Rejects disk path e) :
    load disk path = .error e := by
  unfold load
  cases h with
  | unreadable h => simp only [hp, h]; rfl
  | unparsable h htext => simp only [hp, h, htext]; rfl
  | invalid h htext hc =>
    simp only [hp, h, htext, validate, hc]
    rfl

/-- A file is either accepted or rejected. -/
theorem accepts_or_rejects (disk : Disk) (path : String) :
    (∃ c, Accepts disk path c) ∨ ∃ e, Rejects disk path e := by
  cases hread : disk.readText path with
  | error cause => exact Or.inr ⟨_, .unreadable hread⟩
  | ok text =>
    cases htext : ofText? text with
    | none => exact Or.inr ⟨_, .unparsable hread htext⟩
    | some c =>
      cases hc : c.problems with
      | nil => exact Or.inl ⟨c, text, hread, htext, hc⟩
      | cons problem more =>
        have hmem : problem ∈ c.problems := hc ▸ List.mem_cons_self
        obtain ⟨field, reason, rfl⟩ := exists_of_mem_problems hmem
        exact Or.inr ⟨_, .invalid hread htext hc⟩

theorem load_eq_ok_iff (hp : disk.pathExists path = true) :
    load disk path = .ok c ↔ Accepts disk path c := by
  refine ⟨fun h => ?_, load_of_accepts hp⟩
  rcases accepts_or_rejects disk path with ⟨c', hc⟩ | ⟨e, he⟩
  · rw [load_of_accepts hp hc] at h
    exact Except.ok.inj h ▸ hc
  · rw [load_of_rejects hp he] at h
    exact absurd h (by simp)

theorem load_eq_error_iff (hp : disk.pathExists path = true) :
    load disk path = .error e ↔ Rejects disk path e := by
  refine ⟨fun h => ?_, load_of_rejects hp⟩
  rcases accepts_or_rejects disk path with ⟨c, hc⟩ | ⟨e', he⟩
  · rw [load_of_accepts hp hc] at h
    exact absurd h (by simp)
  · rw [load_of_rejects hp he] at h
    exact Except.error.inj h ▸ he

/-! ## The result -/

theorem find_of_nearest (h : Nearest disk start dir) :
    find disk start = (load disk (join dir fileName)).map fun c => (dir, c) := by
  unfold find
  rw [nearest?_of_nearest h]

theorem load_congr (hp : disk.pathExists path = true) (hp' : disk'.pathExists path = true)
    (h : disk'.readText path = disk.readText path) : load disk' path = load disk path := by
  unfold load
  rw [hp, hp', h]

/-- The result comes from the file in one directory, and from nothing else. -/
structure LoadsFrom (disk : Disk) (start dir : String) : Prop where
  /-- The directory and the configuration are given if the file can be used. -/
  ok_iff : ∀ root c, find disk start = .ok (root, c) ↔
    root = dir ∧ Accepts disk (join dir fileName) c
  /-- Otherwise the error of that file is given. -/
  error_iff : ∀ e, find disk start = .error e ↔ Rejects disk (join dir fileName) e
  /-- A disk on which the directory is the nearest one, too, and its file reads the same gives the
  same result. -/
  alone : ∀ disk', Nearest disk' start dir →
    disk'.readText (join dir fileName) = disk.readText (join dir fileName) →
      find disk' start = find disk start

theorem loadsFrom_of_nearest (h : Nearest disk start dir) : LoadsFrom disk start dir where
  ok_iff root c := by
    rw [find_of_nearest h, map_eq_ok_iff]
    constructor
    · rintro ⟨c', hload, heq⟩
      obtain ⟨rfl, rfl⟩ := Prod.mk.inj heq
      exact ⟨rfl, (load_eq_ok_iff h.holds).mp hload⟩
    · rintro ⟨rfl, hc⟩
      exact ⟨c, load_of_accepts h.holds hc, rfl⟩
  error_iff e := by
    rw [find_of_nearest h, map_eq_error_iff]
    exact load_eq_error_iff h.holds
  alone disk' h' hread := by
    rw [find_of_nearest h, find_of_nearest h', load_congr h.holds h'.holds hread]

/-- How the configuration of a directory is found. -/
structure FoundUpwards (disk : Disk) (start : String) : Prop where
  /-- The way up has an end. It passes the directories with the first parts of the path, one for
  each number of parts, and they are absolute if the path is. -/
  ends : ∃ dirs : List String, dirs.map parts = (parts start).inits.reverse ∧
    (∀ dir, dir ∈ dirs ↔ Ancestor start dir) ∧ ∀ dir ∈ dirs, isAbsolute dir = isAbsolute start
  /-- If one of them holds a configuration file, exactly one is the nearest. -/
  nearest : (∃ dir, Ancestor start dir ∧ Holds disk dir) ↔ ∃! dir, Nearest disk start dir
  /-- The nearest one decides. -/
  decides : ∀ dir, Nearest disk start dir → LoadsFrom disk start dir
  /-- If there is none, the file is missing from the directory itself. -/
  missing : (∀ dir, Ancestor start dir → ¬ Holds disk dir) →
    find disk start = .error (.notFound (join start fileName))

/-- **The nearest configuration wins**, from every directory and on every disk. -/
theorem find_nearest (disk : Disk) (start : String) : FoundUpwards disk start where
  ends := ⟨start :: above start, map_parts_above start, fun _ => mem_above_iff,
    fun _ hdir => (mem_above_iff.mp hdir).isAbsolute⟩
  nearest := by
    constructor
    · rintro ⟨dir, hdir, hholds⟩
      obtain ⟨near, hnear⟩ := exists_nearest hdir hholds
      exact ⟨near, hnear, fun other hother => hother.unique hnear⟩
    · rintro ⟨near, hnear, -⟩
      exact ⟨near, hnear.ancestor, hnear.holds⟩
  decides dir h := loadsFrom_of_nearest h
  missing h := by
    unfold find
    rw [nearest?_eq_none_iff.mpr h]

end Slipway.Config
