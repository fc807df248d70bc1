import Mathlib.Data.List.Basic
import Slipway.Proofs.Disk.Lookup

/-!
# Paths below a base, and their spellings

A relative path that is joined to a base lies below it, and what is left of it can be joined to the
base again.

* `exists_below?_join`: a path that was joined to a base lies below it.
* `same_join_of_below?`: what is left of a path below a base, joined to it, is the path again.
* `Disk.pathExists_of_same`: of two spellings of a path, one that ends in a name exists whenever the
  other one does. A path that ends in a slash or a `.` has to lead to a directory, so the converse
  fails.
-/

namespace Slipway.Path

variable {base path rel r a b : String} {cs : List Char}

/-! ## Parts -/

/-- What stands before the names of a path that count: a leading `.`, if there is one. -/
def lead (path : String) : List String :=
  if !isAbsolute path ∧ (names path).head? = some "." then ["."] else []

theorem parts_eq (path : String) : parts path = lead path ++ counted path := by
  show (if !isAbsolute path ∧ (names path).head? = some "." then "." :: counted path
    else counted path) = _
  unfold lead
  split <;> rfl

theorem lead_cases (path : String) : lead path = [] ∨ lead path = ["."] := by
  unfold lead
  split
  · exact Or.inr rfl
  · exact Or.inl rfl

theorem ne_dot_of_mem_counted {n : String} (h : n ∈ counted path) : n ≠ "." := by
  have hn := (List.mem_filter.mp h).2
  simp only [ne_eq, decide_eq_true_eq] at hn
  exact hn.2

theorem countP_parts (path : String) : (parts path).countP (· ≠ ".") = (counted path).length := by
  have hlead : (lead path).countP (· ≠ ".") = 0 := by
    rcases lead_cases path with h | h
    · rw [h]
      rfl
    · rw [h]
      rfl
  rw [parts_eq, List.countP_append, hlead, Nat.zero_add, List.countP_eq_length]
  exact fun n hn => by simpa using ne_dot_of_mem_counted hn

/-- The first name of a text that does not begin with a slash is not empty. -/
theorem exists_splitSlash_cons {c : Char} (h : c ≠ '/') (cs : List Char) :
    ∃ part parts, splitSlash (c :: cs) = (c :: part) :: parts := by
  unfold splitSlash
  rw [if_neg h]
  cases hs : splitSlash cs with
  | nil => exact absurd hs (splitSlash_ne_nil cs)
  | cons part parts => exact ⟨part, parts, rfl⟩

/-- A relative path that is not empty has a part, if only a leading `.`. -/
theorem lead_of_counted (h : isAbsolute path = false) (hne : path ≠ "") (hc : counted path = []) :
    lead path = ["."] := by
  cases ht : path.toList with
  | nil => exact absurd (String.toList_inj.mp ht) hne
  | cons c rest =>
    have hc' : c ≠ '/' := by
      unfold isAbsolute at h
      simpa [ht] using h
    obtain ⟨part, parts, hsplit⟩ := exists_splitSlash_cons hc' rest
    have hnames : names path = String.ofList (c :: part) :: parts.map String.ofList := by
      unfold names
      rw [ht, hsplit, List.map_cons]
    have hfirst : String.ofList (c :: part) ∉ counted path := by simp [hc]
    unfold counted at hfirst
    rw [List.mem_filter, hnames] at hfirst
    simp only [List.mem_cons, true_or, true_and, decide_eq_true_eq] at hfirst
    rcases (idle_iff _).mpr hfirst with he | he
    · exact absurd (congrArg String.toList he) (by simp)
    · unfold lead
      rw [hnames, he]
      exact if_pos ⟨by simp [h], rfl⟩

/-! ## Joining -/

theorem isAbsolute_join (hb : base ≠ "") (hr : isAbsolute rel = false) :
    isAbsolute (join base rel) = isAbsolute base := by
  have hne : base.toList ≠ [] := fun h => hb (String.toList_inj.mp h)
  have hhead : ∀ back : List Char, (base.toList ++ back).head? = base.toList.head? := fun _ =>
    List.head?_append_of_ne_nil _ hne
  unfold join
  rw [if_neg (by simp [hr, hb])]
  split
  · unfold isAbsolute
    rw [String.toList_append, hhead]
  · unfold isAbsolute
    rw [String.toList_append, String.toList_append, List.append_assoc, hhead]

/-- **A joined path has the parts of the base**, and then the names of the relative path. -/
theorem parts_join (hb : base ≠ "") (hr : isAbsolute rel = false) :
    parts (join base rel) = parts base ++ counted rel := by
  obtain ⟨front, idle, hbase, hfront, hidle, hjoin⟩ := exists_names_join hb hr
  obtain ⟨first, rest, rfl⟩ := List.exists_cons_of_ne_nil hfront
  have hlead : lead (join base rel) = lead base := by
    unfold lead
    rw [isAbsolute_join hb hr, hjoin, hbase]
    rfl
  have hnone : idle.filter (fun n => n ≠ "" ∧ n ≠ ".") = [] :=
    List.filter_eq_nil_iff.mpr fun n hn => by simp [hidle n hn]
  have hcounted : counted (join base rel) = counted base ++ counted rel := by
    unfold counted
    rw [hjoin, hbase, List.filter_append, List.filter_append, hnone, List.append_nil]
  rw [parts_eq, parts_eq, hlead, hcounted, List.append_assoc]

/-- Two spellings of a relative path are two spellings of it below a base. -/
theorem same_join (ha : isAbsolute a = false) (hb : isAbsolute b = false) (h : same a b = true)
    (base : String) : same (join base a) (join base b) = true := by
  by_cases hbase : base = ""
  · unfold join
    rw [if_pos (Or.inr hbase), if_pos (Or.inr hbase)]
    exact h
  · rw [same_iff] at h ⊢
    rw [isAbsolute_join hbase ha, isAbsolute_join hbase hb, parts_join hbase ha,
      parts_join hbase hb, counted_eq_of_same (same_iff.mpr h)]
    exact ⟨rfl, rfl⟩

/-! ## Cutting the end -/

/-- Cutting the end of a path keeps how it begins. -/
theorem head?_cutEnd (fuel : Nat) (back : List Char) :
    (cutEnd fuel back).reverse.head? = back.reverse.head? ∧
      (splitSlash (cutEnd fuel back).reverse).head? = (splitSlash back.reverse).head? := by
  induction fuel generalizing back with
  | zero => exact ⟨rfl, rfl⟩
  | succ fuel ih =>
    unfold cutEnd
    split
    · exact ⟨rfl, rfl⟩
    · rename_i rest hne
      have hrest : rest.reverse ≠ [] := fun h => hne (by rw [List.reverse_eq_nil_iff.mp h])
      rw [(ih rest).1, (ih rest).2, List.reverse_cons, List.head?_append_of_ne_nil _ hrest,
        splitSlash_append, List.head?_append_of_ne_nil _ (splitSlash_ne_nil _)]
      exact ⟨rfl, rfl⟩
    · rename_i rest
      rw [(ih _).1, (ih _).2, List.reverse_cons, List.reverse_cons, List.reverse_cons,
        List.append_assoc]
      show (rest.reverse ++ '/' :: []).head? = (rest.reverse ++ '/' :: ['.']).head? ∧
        (splitSlash (rest.reverse ++ '/' :: [])).head? =
          (splitSlash (rest.reverse ++ '/' :: ['.'])).head?
      rw [splitSlash_append, splitSlash_append, List.head?_append_of_ne_nil _ (splitSlash_ne_nil _),
        List.head?_append_of_ne_nil _ (splitSlash_ne_nil _)]
      refine ⟨?_, rfl⟩
      cases rest.reverse with
      | nil => rfl
      | cons c cs => rfl
    · exact ⟨rfl, rfl⟩

theorem counted_trimmed (path : String) : counted (trimmed path) = counted path := by
  have h := countedIn_cutEnd path.toList.reverse.length path.toList.reverse
  rw [List.reverse_reverse] at h
  show countedIn (trimmed path).toList = countedIn path.toList
  unfold trimmed
  rw [String.toList_ofList, h]

theorem isAbsolute_trimmed (path : String) : isAbsolute (trimmed path) = isAbsolute path := by
  have h := (head?_cutEnd path.toList.reverse.length path.toList.reverse).1
  rw [List.reverse_reverse] at h
  unfold isAbsolute trimmed
  rw [String.toList_ofList, h]

/-- A path without slashes and `.` parts at its end is a spelling of the path. -/
theorem same_trimmed (path : String) : same (trimmed path) path = true := by
  have h := (head?_cutEnd path.toList.reverse.length path.toList.reverse).2
  rw [List.reverse_reverse] at h
  have hhead : (names (trimmed path)).head? = (names path).head? := by
    unfold names trimmed
    rw [List.head?_map, List.head?_map, String.toList_ofList, h]
  have hlead : lead (trimmed path) = lead path := by
    unfold lead
    rw [isAbsolute_trimmed, hhead]
  rw [same_iff, parts_eq, parts_eq path, hlead, counted_trimmed, isAbsolute_trimmed]
  exact ⟨rfl, rfl⟩

/-! ## Dropping the first parts -/

/-- Dropping parts drops that many of the names that count. -/
theorem filter_dropParts (n : Nat) (parts : List (List Char)) :
    ((dropParts n parts).map String.ofList).filter (fun n => n ≠ "" ∧ n ≠ ".") =
      ((parts.map String.ofList).filter fun n => n ≠ "" ∧ n ≠ ".").drop n := by
  induction parts generalizing n with
  | nil => simp [dropParts]
  | cons name parts ih =>
    unfold dropParts
    by_cases hidle : name = [] ∨ name = ['.']
    · rw [if_pos hidle, ih, List.map_cons, List.filter_cons_of_neg]
      rcases hidle with rfl | rfl <;> decide
    · have hcounts : String.ofList name ≠ "" ∧ String.ofList name ≠ "." := by
        rw [not_or] at hidle
        refine ⟨fun h => hidle.1 ?_, fun h => hidle.2 ?_⟩
        · simpa using congrArg String.toList h
        · simpa using congrArg String.toList h
      rw [if_neg hidle, List.map_cons, List.filter_cons_of_pos (by simpa using hcounts)]
      cases n with
      | zero =>
        rw [List.drop_zero]
        show ((name :: parts).map String.ofList).filter _ = _
        rw [List.map_cons, List.filter_cons_of_pos (by simpa using hcounts)]
      | succ n =>
        rw [List.drop_succ_cons]
        exact ih n

/-- What remains begins with a name that counts. -/
theorem ne_nil_of_head?_dropParts (n : Nat) (parts : List (List Char)) {name : List Char}
    (h : (dropParts n parts).head? = some name) : name ≠ [] := by
  induction parts generalizing n with
  | nil => exact absurd h (by simp [dropParts])
  | cons first parts ih =>
    unfold dropParts at h
    by_cases hidle : first = [] ∨ first = ['.']
    · rw [if_pos hidle] at h
      exact ih n h
    · rw [if_neg hidle] at h
      cases n with
      | zero =>
        rw [← Option.some.inj h]
        exact (not_or.mp hidle).1
      | succ n => exact ih n h

theorem dropParts_subset (n : Nat) (parts : List (List Char)) : dropParts n parts ⊆ parts := by
  induction parts generalizing n with
  | nil => simp [dropParts]
  | cons first parts ih =>
    have hrest : ∀ n, dropParts n parts ⊆ first :: parts := fun n =>
      List.Subset.trans (ih n) (List.subset_cons_self first parts)
    unfold dropParts
    split
    · exact hrest n
    · cases n with
      | zero => exact List.Subset.refl _
      | succ n => exact hrest n

theorem joinSlash_cons_cons (a b : List Char) (parts : List (List Char)) :
    joinSlash (a :: b :: parts) = a ++ '/' :: joinSlash (b :: parts) := by
  simp [joinSlash, List.intercalate]

/-- Names that are joined by slashes can be split again. -/
theorem splitSlash_joinSlash {parts : List (List Char)} (hne : parts ≠ [])
    (h : ∀ p ∈ parts, '/' ∉ p) : splitSlash (joinSlash parts) = parts := by
  induction parts with
  | nil => exact absurd rfl hne
  | cons a parts ih =>
    have ha := splitSlash_of_not_mem (h a List.mem_cons_self)
    cases parts with
    | nil => simpa [joinSlash, List.intercalate] using ha
    | cons b parts =>
      rw [joinSlash_cons_cons, splitSlash_append, ha,
        ih (by simp) fun p hp => h p (List.mem_cons_of_mem a hp)]
      rfl

/-- The names that count in what remains after dropping parts. -/
theorem countedIn_dropParts (n : Nat) (cs : List Char) :
    countedIn (joinSlash (dropParts n (splitSlash cs))) = (countedIn cs).drop n := by
  have hslash : ∀ p ∈ dropParts n (splitSlash cs), '/' ∉ p := fun p hp =>
    not_mem_of_mem_splitSlash (dropParts_subset n _ hp)
  unfold countedIn
  rw [← filter_dropParts]
  cases hd : dropParts n (splitSlash cs) with
  | nil => decide
  | cons first rest => rw [splitSlash_joinSlash (by simp) (hd ▸ hslash)]

/-- What remains is no absolute path. -/
theorem head?_joinSlash_dropParts (n : Nat) (cs : List Char) :
    (joinSlash (dropParts n (splitSlash cs))).head? ≠ some '/' := by
  have hslash : ∀ p ∈ dropParts n (splitSlash cs), '/' ∉ p := fun p hp =>
    not_mem_of_mem_splitSlash (dropParts_subset n _ hp)
  cases hd : dropParts n (splitSlash cs) with
  | nil => decide
  | cons first rest =>
    have hne : first ≠ [] := ne_nil_of_head?_dropParts n (splitSlash cs) (by rw [hd]; rfl)
    obtain ⟨c, name, rfl⟩ := List.exists_cons_of_ne_nil hne
    have hc : c ≠ '/' := by
      rintro rfl
      exact hslash _ (by rw [hd]; exact List.mem_cons_self) List.mem_cons_self
    cases rest with
    | nil => simpa [joinSlash, List.intercalate] using hc
    | cons next rest => simpa [joinSlash_cons_cons] using hc

/-! ## Below a base -/

/-- What is left of a path below a base, as the text says it. -/
theorem below?_eq_some (hb : base ≠ "") (h : below? base path = some r) :
    isAbsolute base = isAbsolute path ∧ parts base <+: parts path ∧ isAbsolute r = false ∧
      counted r = (counted path).drop (counted base).length := by
  unfold below? at h
  rw [if_neg hb] at h
  split at h
  · rename_i hbelow
    refine ⟨hbelow.1, List.isPrefixOf_iff_prefix.mp hbelow.2, ?_, ?_⟩
    · rw [← Option.some.inj h, isAbsolute_trimmed]
      unfold isAbsolute
      rw [String.toList_ofList]
      exact beq_eq_false_iff_ne.mpr (head?_joinSlash_dropParts _ _)
    · rw [← Option.some.inj h, counted_trimmed, ← countP_parts]
      show countedIn (String.ofList _).toList = _
      rw [String.toList_ofList, countedIn_dropParts]
      rfl
  · exact absurd h (by simp)

/-- The parts of a base are also the first names of a path below it. -/
theorem counted_of_prefix (hb : base ≠ "") (habs : isAbsolute base = isAbsolute path)
    (h : parts base <+: parts path) : lead base = lead path ∧ counted base <+: counted path := by
  rw [parts_eq, parts_eq] at h
  have hdot : ∀ {p : String} {rest : List String}, counted p ≠ "." :: rest := by
    intro p rest he
    have hm : "." ∈ counted p := by
      rw [he]
      exact List.mem_cons_self
    exact ne_dot_of_mem_counted hm rfl
  rcases lead_cases base with hl | hl
  · rcases lead_cases path with hl' | hl'
    · rw [hl, hl'] at h ⊢
      exact ⟨rfl, h⟩
    · -- only an empty base has no part at all
      rw [hl, hl', List.nil_append] at h
      have hrel : isAbsolute base = false := by
        rw [habs, ← Bool.not_eq_true]
        intro hyes
        unfold lead at hl'
        rw [if_neg (by simp [hyes])] at hl'
        exact absurd hl' (by simp)
      cases hc : counted base with
      | nil =>
        rw [lead_of_counted hrel hb hc] at hl
        exact absurd hl (by simp)
      | cons first rest =>
        rw [hc] at h
        exact absurd (hc.trans (by rw [(List.cons_prefix_cons.mp h).1])) hdot
  · rcases lead_cases path with hl' | hl'
    · rw [hl, hl'] at h
      obtain ⟨rest, hrest⟩ := h
      exact absurd hrest.symm hdot
    · rw [hl, hl'] at h ⊢
      exact ⟨rfl, (List.cons_prefix_cons.mp h).2⟩

/-- **What is left of a path below a base**, joined to the base, is the path again. -/
theorem same_join_of_below? (h : below? base path = some r) : same (join base r) path = true := by
  by_cases hb : base = ""
  · unfold below? at h
    rw [if_pos hb] at h
    unfold join
    rw [if_pos (Or.inr hb), ← Option.some.inj h]
    exact same_trimmed path
  · obtain ⟨habs, hparts, hrel, hcounted⟩ := below?_eq_some hb h
    obtain ⟨hlead, hprefix⟩ := counted_of_prefix hb habs hparts
    rw [same_iff, isAbsolute_join hb hrel, parts_join hb hrel, parts_eq, parts_eq path, hcounted,
      hlead, List.append_assoc]
    exact ⟨habs, by rw [List.prefix_iff_eq_append.mp hprefix]⟩

/-- What is left is a relative path. -/
theorem isAbsolute_of_below? (hpath : base = "" → isAbsolute path = false)
    (h : below? base path = some r) : isAbsolute r = false := by
  by_cases hb : base = ""
  · unfold below? at h
    rw [if_pos hb] at h
    rw [← Option.some.inj h, isAbsolute_trimmed]
    exact hpath hb
  · exact (below?_eq_some hb h).2.2.1

/-- **A relative path that is joined to a base** lies below it. -/
theorem exists_below?_join (hr : isAbsolute rel = false) (base : String) :
    ∃ r, below? base (join base rel) = some r := by
  unfold below?
  by_cases hb : base = ""
  · exact ⟨_, if_pos hb⟩
  · have hbelow : isAbsolute base = isAbsolute (join base rel) ∧
        (parts base).isPrefixOf (parts (join base rel)) = true := by
      rw [isAbsolute_join hb hr, parts_join hb hr, List.isPrefixOf_iff_prefix]
      exact ⟨rfl, List.prefix_append _ _⟩
    exact ⟨_, by rw [if_neg hb, if_pos hbelow]⟩

/-! ## Spellings that exist -/

/-- A path that ends in a name, and not in a slash or a `.`. -/
def EndsInName (path : String) : Prop := ∃ n, (names path).getLast? = some n ∧ ¬ Idle n

instance (path : String) : Decidable (EndsInName path) :=
  decidable_of_iff (∃ n ∈ (names path).getLast?, ¬ Idle n) (by simp [EndsInName])

theorem EndsInName.ne_empty (h : EndsInName path) : path ≠ "" := by
  rintro rfl
  exact absurd h (by decide)

/-- A joined path ends as the relative path does. -/
theorem EndsInName.join (h : EndsInName rel) (hr : isAbsolute rel = false) (base : String) :
    EndsInName (join base rel) := by
  by_cases hb : base = ""
  · unfold Path.join
    rw [if_pos (Or.inr hb)]
    exact h
  · obtain ⟨front, idle, -, -, -, hjoin⟩ := exists_names_join hb hr
    obtain ⟨n, hn, hidle⟩ := h
    refine ⟨n, ?_, hidle⟩
    rw [hjoin, List.getLast?_append, hn]
    rfl

/-- Names of which the last one counts lead through no more places than those that count. -/
theorem mem_through_of_last {ns : List String} {n : String} {here q : Place}
    (hlast : ns.getLast? = some n) (hn : ¬ Idle n) (hq : q ∈ through here ns) :
    q ∈ through here (ns.filter fun n => n ≠ "" ∧ n ≠ ".") := by
  induction ns generalizing here with
  | nil => exact absurd hq List.not_mem_nil
  | cons name ns ih =>
    by_cases hcounts : name ≠ "" ∧ name ≠ "."
    · rw [List.filter_cons_of_pos (by simpa using hcounts)]
      rcases List.mem_cons.mp hq with rfl | hq
      · exact List.mem_cons_self
      · cases ns with
        | nil => exact absurd hq List.not_mem_nil
        | cons next ns => exact List.mem_cons_of_mem _ (ih hlast hq)
    · have hidle := (idle_iff name).mpr hcounts
      cases ns with
      | nil => exact absurd (Option.some.inj hlast ▸ hidle) hn
      | cons next ns =>
        rw [List.filter_cons_of_neg (by simpa using hcounts)]
        rcases List.mem_cons.mp hq with rfl | hq
        · exact ih hlast List.mem_cons_self
        · rw [next_idle hidle] at hq
          exact ih hlast hq

theorem mem_way_of_same (hs : same a b = true) (hb : EndsInName b) {q : Place} (hq : q ∈ way b) :
    q ∈ way a := by
  obtain ⟨n, hlast, hn⟩ := hb
  have hcounted : counted a = counted b := counted_eq_of_same hs
  have hthrough : q ∈ through [] (counted b) := mem_through_of_last hlast hn hq
  rw [← hcounted] at hthrough
  exact mem_through_filter hthrough

/-- The characters of a text other than slashes are those of its names. -/
theorem mem_iff_mem_splitSlash {c : Char} (hc : c ≠ '/') (cs : List Char) :
    c ∈ cs ↔ ∃ part ∈ splitSlash cs, c ∈ part := by
  induction cs with
  | nil => simp [splitSlash]
  | cons first cs ih =>
    by_cases hfirst : first = '/'
    · have hsplit : splitSlash (first :: cs) = [] :: splitSlash cs := if_pos hfirst
      rw [hsplit, List.mem_cons, ih]
      simp [hfirst, hc]
    · cases hs : splitSlash cs with
      | nil => exact absurd hs (splitSlash_ne_nil cs)
      | cons part parts =>
        have hsplit : splitSlash (first :: cs) = (first :: part) :: parts := by
          unfold splitSlash
          rw [if_neg hfirst, hs]
        rw [hsplit, List.mem_cons, ih, hs]
        simp [or_assoc]

/-- The characters of a path other than slashes and dots are those of the names that count. -/
theorem mem_toList_iff {c : Char} (hslash : c ≠ '/') (hdot : c ≠ '.') (path : String) :
    c ∈ path.toList ↔ ∃ n ∈ counted path, c ∈ n.toList := by
  rw [mem_iff_mem_splitSlash hslash]
  constructor
  · rintro ⟨part, hpart, hc⟩
    have hcounts : String.ofList part ≠ "" ∧ String.ofList part ≠ "." := by
      refine ⟨fun h => ?_, fun h => ?_⟩
      · have hnil : part = [] := by simpa using congrArg String.toList h
        rw [hnil] at hc
        exact absurd hc List.not_mem_nil
      · have hone : part = ['.'] := by simpa using congrArg String.toList h
        rw [hone] at hc
        exact absurd (List.mem_singleton.mp hc) hdot
    refine ⟨String.ofList part, List.mem_filter.mpr ⟨?_, by simpa using hcounts⟩, by simpa using hc⟩
    exact List.mem_map_of_mem hpart
  · rintro ⟨n, hn, hc⟩
    obtain ⟨part, hpart, rfl⟩ := List.mem_map.mp (List.mem_filter.mp hn).1
    exact ⟨part, hpart, by simpa using hc⟩

theorem Valid.of_same (h : Valid a) (hs : same a b = true) (hb : EndsInName b) : Valid b := by
  have hcounted : counted a = counted b := counted_eq_of_same hs
  refine ⟨hb.ne_empty, ?_, fun n hn => ?_⟩
  · have hnul := h.noNul
    rw [List.contains_eq_mem, decide_eq_false_iff_not] at hnul ⊢
    rw [mem_toList_iff (by decide) (by decide), ← hcounted]
    rwa [mem_toList_iff (by decide) (by decide)] at hnul
  · by_cases hidle : Idle n
    · rcases hidle with rfl | rfl
      · decide
      · decide
    · have hm : n ∈ counted b := List.mem_filter.mpr ⟨hn, by simpa using not_or.mp hidle⟩
      rw [← hcounted] at hm
      exact h.short n (List.mem_filter.mp hm).1

end Slipway.Path

namespace Slipway.Disk

variable {d : Disk} {a b : String}

theorem Leads.of_same (h : d.Leads a) (hs : Path.same a b = true) (hb : Path.EndsInName b) :
    d.Leads b :=
  ⟨h.valid.of_same hs hb, fun _ hq => h.way _ (Path.mem_way_of_same hs hb hq)⟩

/-- **Of two spellings of a path**, one that ends in a name exists whenever the other one does. -/
theorem pathExists_of_same (h : d.pathExists a = true) (hs : Path.same a b = true)
    (hb : Path.EndsInName b) : d.pathExists b = true := by
  obtain ⟨hl, hn⟩ := pathExists_iff.mp h
  rw [Path.place_eq_of_same hs] at hn
  exact pathExists_iff.mpr ⟨hl.of_same hs hb, hn⟩

end Slipway.Disk
