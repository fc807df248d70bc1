import Mathlib.Data.List.Infix
import Slipway.Proofs.Disk.Below

/-!
# The directories above a path

The path above a path has its parts, but for the last one (`parts_of_parent`); a path without parts
has none above it (`parent?_eq_none_iff`). So a walk upwards comes to its end (`induction_up`). It
passes the paths that have the first parts of the one it starts from, one for each number of parts
(`map_parts_above`), and these are all the paths above (`mem_above_iff`).
-/

namespace Slipway.Path

variable {path up start dir : String} {back front last : List Char} {fuel : Nat}

/-! ## The end of a path -/

/-- A path, given backwards, that ends in a part that counts, or is the root, or is empty. A lone
`.` counts. -/
inductive Ended : List Char → Prop
  | empty : Ended []
  | root : Ended ['/']
  | part {c : Char} {rest : List Char} (hc : c ≠ '/') (hdot : c = '.' → rest.head? ≠ some '/') :
      Ended (c :: rest)

theorem ended_cutEnd (h : back.length ≤ fuel) : Ended (cutEnd fuel back) := by
  induction fuel generalizing back with
  | zero =>
    rw [List.length_eq_zero_iff.mp (Nat.le_zero.mp h)]
    exact .empty
  | succ fuel ih =>
    unfold cutEnd
    split
    · exact .root
    · exact ih (by simpa using h)
    · exact ih (by simpa using h)
    · rename_i hroot hslash hdot
      cases back with
      | nil => exact .empty
      | cons c rest =>
        refine .part (fun hc => hslash rest (by rw [hc])) fun hc hrest => ?_
        obtain ⟨more, rfl⟩ : ∃ more, rest = '/' :: more := by
          cases rest with
          | nil => exact absurd hrest (by simp)
          | cons d more => exact ⟨more, by rw [Option.some.inj hrest]⟩
        exact hdot more (by rw [hc])

/-! ## The last name -/

/-- A text without slashes, or one that is cut behind its last slash. -/
theorem cut_last (cs : List Char) :
    ('/' ∉ cs ∧ cs.reverse.dropWhile (· ≠ '/') = []) ∨
      ∃ front last, cs = front ++ '/' :: last ∧ '/' ∉ last ∧
        cs.reverse.dropWhile (· ≠ '/') = (front ++ ['/']).reverse := by
  by_cases hmem : '/' ∈ cs.reverse
  · obtain ⟨back, rest, hcs, hback⟩ := List.eq_append_cons_of_mem hmem
    refine Or.inr ⟨rest.reverse, back.reverse, ?_, by simpa using hback, ?_⟩
    · rw [← List.reverse_reverse cs, hcs, List.reverse_append, List.reverse_cons,
        List.append_assoc, List.singleton_append]
    · rw [hcs, dropWhile_append_cons hback]
      simp
  · exact Or.inl ⟨by simpa using hmem, dropWhile_of_not_mem hmem⟩

theorem isAbsolute_of_noSlash (h : '/' ∉ path.toList) : isAbsolute path = false := by
  unfold isAbsolute
  cases hp : path.toList with
  | nil => rfl
  | cons c cs =>
    rw [hp, List.mem_cons, not_or] at h
    simpa using Ne.symm h.1

/-- A path without slashes is its only part. -/
theorem parts_of_noSlash (h : '/' ∉ path.toList) (hne : path ≠ "") : parts path = [path] := by
  have habs : isAbsolute path = false := isAbsolute_of_noSlash h
  have hnames : names path = [path] := by
    unfold names
    rw [splitSlash_of_not_mem h, List.map_singleton, String.ofList_toList]
  rw [parts_eq]
  unfold lead counted
  rw [hnames, habs]
  by_cases hdot : path = "."
  · rw [hdot]
    decide
  · simp [hdot, hne]

/-- What stands behind a slash does not decide whether a path is absolute. -/
theorem isAbsolute_of_slash (front last : List Char) :
    isAbsolute (String.ofList (front ++ '/' :: last)) =
      isAbsolute (String.ofList (front ++ ['/'])) := by
  unfold isAbsolute
  rw [String.toList_ofList, String.toList_ofList]
  cases front <;> rfl

/-- A name behind a slash is the last part. -/
theorem parts_of_slash (hlast : '/' ∉ last) (hne : last ≠ []) (hdot : last ≠ ['.']) :
    parts (String.ofList (front ++ '/' :: last)) =
      parts (String.ofList (front ++ ['/'])) ++ [String.ofList last] := by
  have hnames : ∀ more, names (String.ofList (front ++ '/' :: more)) =
      (splitSlash front).map String.ofList ++ (splitSlash more).map String.ofList := by
    intro more
    unfold names
    rw [String.toList_ofList, splitSlash_append, List.map_append]
  have hhead : ∀ more, (names (String.ofList (front ++ '/' :: more))).head? =
      ((splitSlash front).map String.ofList).head? := by
    intro more
    rw [hnames]
    exact List.head?_append_of_ne_nil _ fun h => splitSlash_ne_nil front (List.map_eq_nil_iff.mp h)
  have habs := isAbsolute_of_slash front last
  have hlead : lead (String.ofList (front ++ '/' :: last)) =
      lead (String.ofList (front ++ ['/'])) := by
    unfold lead
    rw [habs, hhead, hhead]
  have hcounted : counted (String.ofList (front ++ '/' :: last)) =
      counted (String.ofList (front ++ ['/'])) ++ [String.ofList last] := by
    have hcounts : String.ofList last ≠ "" ∧ String.ofList last ≠ "." := by
      refine ⟨fun h => hne ?_, fun h => hdot ?_⟩
      · simpa using congrArg String.toList h
      · simpa using congrArg String.toList h
    have hname : countedIn last = [String.ofList last] := by
      unfold countedIn
      rw [splitSlash_of_not_mem hlast, List.map_singleton,
        List.filter_cons_of_pos (by simpa using hcounts), List.filter_nil]
    show countedIn (String.ofList _).toList = countedIn (String.ofList _).toList ++ _
    rw [String.toList_ofList, String.toList_ofList, countedIn_append, countedIn_append,
      countedIn_nil, List.append_nil, hname]
  rw [parts_eq, parts_eq, hlead, hcounted, List.append_assoc]

/-! ## The path above -/

theorem parent?_eq_none_iff : parent? path = none ↔ parts path = [] := by
  unfold parent?
  split
  · rename_i h
    simp [h]
  · rename_i h
    simp [h]

/-- The path above, as the text says it. -/
theorem parent?_eq_some (h : parent? path = some up) : parts path ≠ [] ∧
    up = trimmed (String.ofList
      ((trimmed path).toList.reverse.dropWhile (· ≠ '/')).reverse) := by
  unfold parent? at h
  split at h
  · exact absurd h (by simp)
  · rename_i hparts
    refine ⟨hparts, ?_⟩
    rw [← Option.some.inj h]
    unfold trimmed
    simp

/-- A path that ends in a part, and what stands before that part. -/
theorem parts_of_ended (hend : Ended path.toList.reverse) (hne : parts path ≠ [])
    (hdir : dir = String.ofList (path.toList.reverse.dropWhile (· ≠ '/')).reverse) :
    isAbsolute dir = isAbsolute path ∧ ∃ last, parts path = parts dir ++ [last] := by
  have hnonempty : path ≠ "" := by
    rintro rfl
    exact hne rfl
  rcases cut_last path.toList with ⟨hslash, hdrop⟩ | ⟨front, last, ht, hlast, hdrop⟩
  · rw [hdrop] at hdir
    rw [hdir, isAbsolute_of_noSlash hslash, parts_of_noSlash hslash hnonempty]
    exact ⟨rfl, path, rfl⟩
  · rw [hdrop, List.reverse_reverse] at hdir
    have hpath : path = String.ofList (front ++ '/' :: last) := by
      rw [← ht, String.ofList_toList]
    rw [ht, List.reverse_append, List.reverse_cons, List.append_assoc,
      List.singleton_append] at hend
    have hroot : last ≠ [] := by
      rintro rfl
      generalize hback : front.reverse = back at hend
      cases hend with
      | root =>
        rw [hpath, List.reverse_eq_nil_iff.mp hback] at hne
        exact hne (by decide)
      | part hc _ => exact hc rfl
    have hdot : last ≠ ['.'] := by
      rintro rfl
      cases hend with
      | part _ hdot => exact hdot rfl rfl
    rw [hdir, hpath]
    exact ⟨(isAbsolute_of_slash front last).symm, String.ofList last,
      parts_of_slash hlast hroot hdot⟩

/-- **The path above has all parts but the last one.** -/
theorem parts_of_parent (h : parent? path = some up) :
    isAbsolute up = isAbsolute path ∧ ∃ last, parts path = parts up ++ [last] := by
  obtain ⟨hne, rfl⟩ := parent?_eq_some h
  obtain ⟨habs, hparts⟩ := same_iff.mp (same_trimmed path)
  obtain ⟨habs', hparts'⟩ := same_iff.mp (same_trimmed (String.ofList
    ((trimmed path).toList.reverse.dropWhile (· ≠ '/')).reverse))
  have hend : Ended (trimmed path).toList.reverse := by
    unfold trimmed
    rw [String.toList_ofList, List.reverse_reverse]
    exact ended_cutEnd (Nat.le_refl _)
  have hne' : parts (trimmed path) ≠ [] := by rwa [hparts]
  obtain ⟨hdir, last, hlast⟩ := parts_of_ended hend hne' rfl
  exact ⟨habs'.trans (hdir.trans habs), last, by rw [← hparts, hlast, hparts']⟩

/-- Each step upwards leaves one part behind. -/
theorem length_parts_of_parent (h : parent? path = some up) :
    (parts path).length = (parts up).length + 1 := by
  obtain ⟨-, last, hparts⟩ := parts_of_parent h
  rw [hparts, List.length_append]
  rfl

/-! ## The way up -/

/-- **A walk upwards comes to an end**: what holds at the top, and of a path if it holds of the one
above, holds of every path. -/
theorem induction_up {motive : String → Prop}
    (top : ∀ path, parent? path = none → motive path)
    (step : ∀ path up, parent? path = some up → motive up → motive path) (path : String) :
    motive path := by
  generalize hn : (parts path).length = n
  induction n generalizing path with
  | zero => exact top path (parent?_eq_none_iff.mpr (List.length_eq_zero_iff.mp hn))
  | succ n ih =>
    cases hup : parent? path with
    | none => exact top path hup
    | some up =>
      have hlength := length_parts_of_parent hup
      exact step path up hup (ih up (by omega))

/-- A path, and those above it. -/
inductive Ancestor : (path dir : String) → Prop
  /-- The path itself. -/
  | self {path : String} : Ancestor path path
  /-- The path above it, and those above that. -/
  | up {path up dir : String} (hup : parent? path = some up) (h : Ancestor up dir) :
      Ancestor path dir

theorem above_of_none (h : parent? path = none) : above path = [] := by
  unfold above
  rw [parent?_eq_none_iff.mp h]
  rfl

/-- The steps that a walk upwards is given suffice. -/
theorem above_of_some (h : parent? path = some up) : above path = up :: above up := by
  unfold above
  rw [length_parts_of_parent h, above.go, h]

/-- A walk upwards has one stop for each number of first parts, the most parts first. -/
theorem map_parts_above (path : String) :
    (path :: above path).map parts = (parts path).inits.reverse := by
  induction path using induction_up with
  | top path h =>
    rw [above_of_none h, List.map_singleton, parent?_eq_none_iff.mp h]
    rfl
  | step path up h ih =>
    obtain ⟨-, last, hparts⟩ := parts_of_parent h
    rw [above_of_some h, List.map_cons, ih, hparts]
    simp

/-- **A walk upwards passes every path above.** -/
theorem mem_above_iff : dir ∈ path :: above path ↔ Ancestor path dir := by
  constructor
  · intro h
    induction path using induction_up with
    | top path htop =>
      rw [above_of_none htop] at h
      rw [List.mem_singleton.mp h]
      exact .self
    | step path up hup ih =>
      rcases List.mem_cons.mp h with rfl | h
      · exact .self
      · rw [above_of_some hup] at h
        exact .up hup (ih h)
  · intro h
    induction h with
    | self => exact List.mem_cons_self
    | up hup _ ih =>
      rw [above_of_some hup]
      exact List.mem_cons_of_mem _ ih

theorem Ancestor.isAbsolute (h : Ancestor path dir) : isAbsolute dir = isAbsolute path := by
  induction h with
  | self => rfl
  | up hup _ ih => exact ih.trans (parts_of_parent hup).1

end Slipway.Path
