import Slipway.Disk.Basic

/-!
# Where paths lead

On a disk without links the place that a path leads to can be read off the path: `Path.place`. The
disk only decides whether the path can be walked at all, that is whether the places of `Path.way`
are directories.

* `place_join`, `way_join`: a name below a directory.
* `place_dropSlashes`, `place_eq_of_same`: spellings of one place.
* `parent_place`: the path above a path leads through a part of the way.
-/

namespace Slipway.Path

/-- The names between the slashes of a path. -/
def names (path : String) : List String := (splitSlash path.toList).map String.ofList

/-- A name that leads on from no directory. -/
def Idle (name : String) : Prop := name = "" ∨ name = "."

instance (name : String) : Decidable (Idle name) := inferInstanceAs (Decidable (_ ∨ _))

/-- Where one name leads from a place. -/
def next (here : Place) (name : String) : Place :=
  if Idle name then here else if name = ".." then here.dropLast else here ++ [name]

/-- Where names lead from a place. -/
def follow (here : Place) (names : List String) : Place := names.foldl next here

/-- The places from which names are followed. -/
def through : Place → List String → List Place
  | _, [] => []
  | here, name :: names => here :: through (next here name) names

/-- The place that a path leads to. -/
def place (path : String) : Place := follow [] (names path)

/-- The places that a path leads through; to walk along it, they have to be directories. -/
def way (path : String) : List Place := through [] (names path)

/-- A path that the system accepts. -/
structure Valid (path : String) : Prop where
  nonempty : path ≠ ""
  noNul : path.toList.contains '\x00' = false
  short : ∀ n ∈ names path, n.utf8ByteSize ≤ Disk.maxName

/-! ## Following names -/

theorem follow_append (here : Place) (a b : List String) :
    follow here (a ++ b) = follow (follow here a) b :=
  List.foldl_append

theorem through_append (here : Place) (a b : List String) :
    through here (a ++ b) = through here a ++ through (follow here a) b := by
  induction a generalizing here with
  | nil => rfl
  | cons name a ih =>
    show here :: through (next here name) (a ++ b) = _
    rw [ih]
    rfl

theorem next_idle {name : String} (h : Idle name) (here : Place) : next here name = here :=
  if_pos h

/-- A plain name: it leads to the entry of that name. -/
structure Plain (name : String) : Prop where
  noSlash : '/' ∉ name.toList
  notIdle : ¬ Idle name
  notUp : name ≠ ".."

theorem Plain.next {name : String} (h : Plain name) (here : Place) :
    next here name = here ++ [name] := by
  unfold Path.next
  rw [if_neg h.notIdle, if_neg h.notUp]

theorem Plain.ne_empty {name : String} (h : Plain name) : name ≠ "" := fun e => h.notIdle (.inl e)

/-- Names that lead on from no directory only ask for the place itself. -/
theorem follow_idle {a : List String} (h : ∀ n ∈ a, Idle n) (here : Place) :
    follow here a = here := by
  induction a with
  | nil => rfl
  | cons name a ih =>
    show follow (next here name) a = here
    rw [next_idle (h name List.mem_cons_self)]
    exact ih fun n hn => h n (List.mem_cons_of_mem name hn)

theorem mem_through_idle {a : List String} (h : ∀ n ∈ a, Idle n) {here q : Place}
    (hq : q ∈ through here a) : q = here := by
  induction a with
  | nil => exact absurd hq List.not_mem_nil
  | cons name a ih =>
    rcases List.mem_cons.mp hq with rfl | hq
    · rfl
    · rw [next_idle (h name List.mem_cons_self)] at hq
      exact ih (fun n hn => h n (List.mem_cons_of_mem name hn)) hq

/-- The names of a path that lead somewhere. -/
def counted (path : String) : List String := (names path).filter fun n => n ≠ "" ∧ n ≠ "."

theorem idle_iff (name : String) : Idle name ↔ ¬ (name ≠ "" ∧ name ≠ ".") := by
  unfold Idle
  rw [Decidable.not_and_iff_not_or_not, Decidable.not_not, Decidable.not_not]

theorem follow_filter (a : List String) (here : Place) :
    follow here (a.filter fun n => n ≠ "" ∧ n ≠ ".") = follow here a := by
  induction a generalizing here with
  | nil => rfl
  | cons name a ih =>
    by_cases h : name ≠ "" ∧ name ≠ "."
    · rw [List.filter_cons_of_pos (by simpa using h)]
      exact ih (next here name)
    · rw [List.filter_cons_of_neg (by simpa using h)]
      show follow here _ = follow (next here name) a
      rw [next_idle ((idle_iff name).mpr h)]
      exact ih here

theorem place_eq_follow_counted (path : String) : place path = follow [] (counted path) :=
  (follow_filter (names path) []).symm

/-- The way without the names that lead nowhere; the place itself may be missing from it. -/
theorem mem_through_filter {a : List String} {here q : Place} :
    q ∈ through here (a.filter fun n => n ≠ "" ∧ n ≠ ".") → q ∈ through here a := by
  induction a generalizing here with
  | nil => exact id
  | cons name a ih =>
    intro hq
    by_cases h : name ≠ "" ∧ name ≠ "."
    · rw [List.filter_cons_of_pos (by simpa using h)] at hq
      rcases List.mem_cons.mp hq with rfl | hq
      · exact List.mem_cons_self
      · exact List.mem_cons_of_mem _ (ih hq)
    · rw [List.filter_cons_of_neg (by simpa using h)] at hq
      refine List.mem_cons_of_mem _ ?_
      rw [next_idle ((idle_iff name).mpr h)]
      exact ih hq

theorem mem_through_or_eq {a : List String} {here q : Place} (hq : q ∈ through here a) :
    q ∈ through here (a.filter fun n => n ≠ "" ∧ n ≠ ".") ∨ q = follow here a := by
  induction a generalizing here with
  | nil => exact absurd hq List.not_mem_nil
  | cons name a ih =>
    by_cases h : name ≠ "" ∧ name ≠ "."
    · rw [List.filter_cons_of_pos (by simpa using h)]
      rcases List.mem_cons.mp hq with rfl | hq
      · exact Or.inl List.mem_cons_self
      · rcases ih hq with hq | hq
        · exact Or.inl (List.mem_cons_of_mem _ hq)
        · exact Or.inr hq
    · have hi := next_idle ((idle_iff name).mpr h) here
      rw [List.filter_cons_of_neg (by simpa using h)]
      show _ ∨ q = follow (next here name) a
      rw [hi]
      rcases List.mem_cons.mp hq with rfl | hq
      · cases ha : a.filter fun n => n ≠ "" ∧ n ≠ "." with
        | nil => exact Or.inr (by rw [← follow_filter, ha]; rfl)
        | cons n ns => exact Or.inl List.mem_cons_self
      · rw [hi] at hq
        exact ih hq

/-! ## Splitting -/

theorem splitSlash_ne_nil (cs : List Char) : splitSlash cs ≠ [] := by
  cases cs with
  | nil => simp [splitSlash]
  | cons c cs =>
    unfold splitSlash
    split
    · simp
    · split <;> simp

theorem splitSlash_append (a b : List Char) :
    splitSlash (a ++ '/' :: b) = splitSlash a ++ splitSlash b := by
  induction a with
  | nil => rfl
  | cons c a ih =>
    by_cases hc : c = '/'
    · simp [splitSlash, hc, ih]
    · simp only [List.cons_append, splitSlash, if_neg hc, ih]
      cases h : splitSlash a with
      | nil => exact absurd h (splitSlash_ne_nil a)
      | cons part parts => rfl

theorem splitSlash_of_not_mem {a : List Char} (h : '/' ∉ a) : splitSlash a = [a] := by
  induction a with
  | nil => rfl
  | cons c a ih =>
    rw [List.mem_cons, not_or] at h
    simp [splitSlash, Ne.symm h.1, ih h.2]

theorem not_mem_of_mem_splitSlash {cs part : List Char} (h : part ∈ splitSlash cs) :
    '/' ∉ part := by
  induction cs generalizing part with
  | nil => simp_all [splitSlash]
  | cons c cs ih =>
    unfold splitSlash at h
    split at h
    · rcases List.mem_cons.mp h with rfl | h
      · simp
      · exact ih h
    · rename_i hc
      cases hs : splitSlash cs with
      | nil => exact absurd hs (splitSlash_ne_nil cs)
      | cons first parts =>
        rw [hs] at h ih
        rcases List.mem_cons.mp h with rfl | h
        · rw [List.mem_cons, not_or]
          exact ⟨Ne.symm hc, ih List.mem_cons_self⟩
        · exact ih (List.mem_cons_of_mem _ h)

theorem noSlash_of_mem_names {path name : String} (h : name ∈ names path) :
    '/' ∉ name.toList := by
  obtain ⟨part, hp, rfl⟩ := List.mem_map.mp h
  rw [String.toList_ofList]
  exact not_mem_of_mem_splitSlash hp

/-! ## A name below a directory -/

theorem Plain.not_isAbsolute {name : String} (h : Plain name) : isAbsolute name = false := by
  have h1 := h.noSlash
  unfold isAbsolute
  cases hn : name.toList with
  | nil => rfl
  | cons c cs =>
    rw [hn, List.mem_cons, not_or] at h1
    simpa using Ne.symm h1.1

theorem names_ne_nil (path : String) : names path ≠ [] := fun h =>
  splitSlash_ne_nil _ (List.map_eq_nil_iff.mp h)

/-- The names of a relative path that is joined to a base. -/
theorem exists_names_join {base rel : String} (hb : base ≠ "") (hr : isAbsolute rel = false) :
    ∃ front idle, names base = front ++ idle ∧ front ≠ [] ∧ (∀ n ∈ idle, n = "") ∧
      names (join base rel) = front ++ names rel := by
  unfold join
  rw [if_neg (by simp [hr, hb])]
  split
  · rename_i hl
    obtain ⟨init, hi⟩ := List.getLast?_eq_some_iff.mp hl
    refine ⟨(splitSlash init).map String.ofList, [""], ?_, ?_, by simp, ?_⟩
    · unfold names
      rw [hi, splitSlash_append, List.map_append]
      rfl
    · exact fun h => splitSlash_ne_nil init (List.map_eq_nil_iff.mp h)
    · unfold names
      rw [String.toList_append, hi, List.append_assoc]
      show List.map _ (splitSlash (init ++ '/' :: rel.toList)) = _
      rw [splitSlash_append, List.map_append]
  · refine ⟨names base, [], by simp, names_ne_nil base, by simp, ?_⟩
    unfold names
    rw [String.toList_append, String.toList_append, List.append_assoc]
    show List.map _ (splitSlash (base.toList ++ '/' :: rel.toList)) = _
    rw [splitSlash_append, List.map_append]

/-- The names of a path below a directory, apart from a last one that leads nowhere. -/
theorem names_join {base name : String} (hb : base ≠ "") (hn : Plain name) :
    ∃ front idle, names base = front ++ idle ∧ (∀ n ∈ idle, n = "") ∧
      names (join base name) = front ++ [name] := by
  obtain ⟨front, idle, hbase, -, hidle, hjoin⟩ := exists_names_join hb hn.not_isAbsolute
  have hname : names name = [name] := by
    unfold names
    rw [splitSlash_of_not_mem hn.noSlash]
    simp
  exact ⟨front, idle, hbase, hidle, by rw [hjoin, hname]⟩

theorem idle_of_forall_eq_empty {idle : List String} (h : ∀ n ∈ idle, n = "") :
    ∀ n ∈ idle, Idle n :=
  fun n hn => .inl (h n hn)

theorem place_join {base name : String} (hb : base ≠ "") (hn : Plain name) :
    place (join base name) = place base ++ [name] := by
  obtain ⟨front, idle, h1, h2, h3⟩ := names_join hb hn
  unfold place
  rw [h1, h3, follow_append, follow_append, follow_idle (idle_of_forall_eq_empty h2)]
  exact hn.next _

/-- A path below a directory leads through the way of the directory and the directory. -/
theorem forall_mem_way_join {base name : String} (hb : base ≠ "") (hn : Plain name)
    {P : Place → Prop} :
    (∀ q ∈ way (join base name), P q) ↔ (∀ q ∈ way base, P q) ∧ P (place base) := by
  obtain ⟨front, idle, h1, h2, h3⟩ := names_join hb hn
  have hi := idle_of_forall_eq_empty h2
  have hp : place base = follow [] front := by
    unfold place
    rw [h1, follow_append, follow_idle hi]
  have hj : way (join base name) = through [] front ++ [follow [] front] := by
    unfold way
    rw [h3, through_append]
    rfl
  have hw : way base = through [] front ++ through (follow [] front) idle := by
    unfold way
    rw [h1, through_append]
  constructor
  · intro h
    have hlast : P (follow [] front) := h _ (by rw [hj]; simp)
    refine ⟨fun q hq => ?_, hp ▸ hlast⟩
    rw [hw, List.mem_append] at hq
    rcases hq with hq | hq
    · exact h q (by rw [hj]; exact List.mem_append_left _ hq)
    · rw [mem_through_idle hi hq]
      exact hlast
  · rintro ⟨h, hlast⟩ q hq
    rw [hj, List.mem_append, List.mem_singleton] at hq
    rcases hq with hq | rfl
    · exact h q (by rw [hw]; exact List.mem_append_left _ hq)
    · exact hp ▸ hlast

theorem toList_join {base name : String} (hb : base ≠ "") (hn : Plain name) :
    ∃ slash, (∀ c ∈ slash, c = '/') ∧
      (join base name).toList = base.toList ++ slash ++ name.toList := by
  unfold join
  rw [if_neg (by simp [hn.not_isAbsolute, hb])]
  split
  · exact ⟨[], by simp, by simp⟩
  · exact ⟨['/'], by simp, by simp⟩

theorem join_ne_empty {base name : String} (hb : base ≠ "") (hn : Plain name) :
    join base name ≠ "" := by
  intro h
  obtain ⟨slash, -, ht⟩ := toList_join hb hn
  rw [h] at ht
  have : name.toList = [] := (List.append_eq_nil_iff.mp ht.symm).2
  exact hn.ne_empty (String.toList_inj.mp this)

theorem valid_join_iff {base name : String} (hb : base ≠ "") (hn : Plain name) :
    Valid (join base name) ↔
      Valid base ∧ name.toList.contains '\x00' = false ∧ name.utf8ByteSize ≤ Disk.maxName := by
  obtain ⟨slash, hs, ht⟩ := toList_join hb hn
  obtain ⟨front, idle, h1, h2, h3⟩ := names_join hb hn
  have hnul : (join base name).toList.contains '\x00' = false ↔
      base.toList.contains '\x00' = false ∧ name.toList.contains '\x00' = false := by
    have hslash : slash.contains '\x00' = false := by
      rw [List.contains_eq_any_beq, List.any_eq_false]
      intro c hc
      rw [hs c hc]
      decide
    rw [ht]
    simp only [List.contains_eq_any_beq, List.any_append, Bool.or_eq_false_iff] at hslash ⊢
    exact ⟨fun ⟨⟨h, _⟩, h'⟩ => ⟨h, h'⟩, fun ⟨h, h'⟩ => ⟨⟨h, hslash⟩, h'⟩⟩
  have hidle : ∀ n ∈ idle, n.utf8ByteSize ≤ Disk.maxName := by
    intro n hn
    rw [h2 n hn]
    decide
  constructor
  · rintro ⟨-, hz, hsize⟩
    rw [h3] at hsize
    refine ⟨⟨hb, (hnul.mp hz).1, fun n hn => ?_⟩, (hnul.mp hz).2, hsize name (by simp)⟩
    rw [h1, List.mem_append] at hn
    rcases hn with hn | hn
    · exact hsize n (List.mem_append_left _ hn)
    · exact hidle n hn
  · rintro ⟨⟨-, hz, hsize⟩, hz', hsize'⟩
    rw [h1] at hsize
    refine ⟨join_ne_empty hb hn, hnul.mpr ⟨hz, hz'⟩, fun n hn => ?_⟩
    rw [h3, List.mem_append, List.mem_singleton] at hn
    rcases hn with hn | rfl
    · exact hsize n (List.mem_append_left _ hn)
    · exact hsize'

/-! ## Slashes at the end -/

/-- A path that ends in a slash leads through its place. -/
theorem place_mem_way_of_slash {path : String} (h : path.toList.getLast? = some '/') :
    place path ∈ way path := by
  obtain ⟨init, hi⟩ := List.getLast?_eq_some_iff.mp h
  unfold place way names
  rw [hi, splitSlash_append, List.map_append, follow_append, through_append, List.mem_append]
  exact Or.inr List.mem_cons_self

theorem names_append_slashes (cs slashes : List Char) (h : ∀ c ∈ slashes, c = '/') :
    splitSlash (cs ++ slashes) = splitSlash cs ++ slashes.map fun _ => [] := by
  induction slashes generalizing cs with
  | nil => simp
  | cons c slashes ih =>
    rw [h c List.mem_cons_self, splitSlash_append]
    have := ih [] fun c hc => h c (List.mem_cons_of_mem _ hc)
    rw [List.nil_append] at this
    rw [this]
    rfl

theorem toList_dropSlashes (path : String) :
    ∃ slashes, (∀ c ∈ slashes, c = '/') ∧ path.toList = (dropSlashes path).toList ++ slashes := by
  refine ⟨(path.toList.reverse.takeWhile (· == '/')).reverse, fun c hc => ?_, ?_⟩
  · have := List.all_takeWhile (p := (· == '/')) (l := path.toList.reverse)
    rw [List.all_eq_true] at this
    exact eq_of_beq (this c (List.mem_reverse.mp hc))
  · unfold dropSlashes
    rw [String.toList_ofList, ← List.reverse_append, List.takeWhile_append_dropWhile,
      List.reverse_reverse]

theorem names_dropSlashes (path : String) :
    ∃ idle, (∀ n ∈ idle, n = "") ∧ names path = names (dropSlashes path) ++ idle := by
  obtain ⟨slashes, hs, ht⟩ := toList_dropSlashes path
  refine ⟨slashes.map fun _ => "", by simp, ?_⟩
  unfold names
  rw [ht, names_append_slashes _ _ hs, List.map_append, List.map_map]
  rfl

theorem place_dropSlashes (path : String) : place (dropSlashes path) = place path := by
  obtain ⟨idle, hi, hn⟩ := names_dropSlashes path
  unfold place
  rw [hn, follow_append, follow_idle (idle_of_forall_eq_empty hi)]

theorem mem_way_of_dropSlashes {path : String} {q : Place} (h : q ∈ way path) :
    q ∈ way (dropSlashes path) ∨ q = place path := by
  obtain ⟨idle, hi, hn⟩ := names_dropSlashes path
  unfold way at h
  rw [hn, through_append, List.mem_append] at h
  rcases h with h | h
  · exact Or.inl h
  · refine Or.inr ?_
    rw [mem_through_idle (idle_of_forall_eq_empty hi) h, ← place_dropSlashes]
    rfl

/-! ## Spellings -/

theorem counted_eq_of_parts {a b : String} (h : parts a = parts b) : counted a = counted b := by
  have key : ∀ c : String, (parts c).filter (fun n => n ≠ "" ∧ n ≠ ".") = counted c := by
    intro c
    show List.filter _ (if _ then _ else _) = _
    split
    · rw [List.filter_cons_of_neg (by simp), List.filter_filter]
      simp [counted, names]
    · rw [List.filter_filter]
      simp [counted, names]
  rw [← key a, ← key b, h]

theorem same_iff {a b : String} :
    same a b = true ↔ isAbsolute a = isAbsolute b ∧ parts a = parts b := by
  unfold same
  rw [Bool.and_eq_true, beq_iff_eq, beq_iff_eq]

theorem same_refl (a : String) : same a a = true := same_iff.mpr ⟨rfl, rfl⟩

theorem same_symm {a b : String} (h : same a b = true) : same b a = true := by
  rw [same_iff] at h ⊢
  exact ⟨h.1.symm, h.2.symm⟩

theorem same_trans {a b c : String} (h : same a b = true) (h' : same b c = true) :
    same a c = true := by
  rw [same_iff] at h h' ⊢
  exact ⟨h.1.trans h'.1, h.2.trans h'.2⟩

theorem counted_eq_of_same {a b : String} (h : same a b = true) : counted a = counted b :=
  counted_eq_of_parts (same_iff.mp h).2

/-- Two paths that agree part by part lead to one place. -/
theorem place_eq_of_same {a b : String} (h : same a b = true) : place a = place b := by
  rw [place_eq_follow_counted, place_eq_follow_counted, counted_eq_of_same h]

/-- The parts of a path are its names that count; a leading `.` may stand before them. -/
theorem parts_cases (path : String) :
    parts path = counted path ∨ parts path = "." :: counted path := by
  show (if _ then _ else _) = _ ∨ (if _ then _ else _) = _
  split
  · exact Or.inr rfl
  · exact Or.inl rfl

/-! ## The last name -/

theorem counted_join (base : String) {name : String} (hn : Plain name) :
    ∃ front, counted (join base name) = front ++ [name] := by
  have hcounts : ∀ front, (front ++ [name]).filter (fun n => n ≠ "" ∧ n ≠ ".") =
      front.filter (fun n => n ≠ "" ∧ n ≠ ".") ++ [name] := by
    intro front
    have hname : name ≠ "" ∧ name ≠ "." := not_or.mp hn.notIdle
    rw [List.filter_append, List.filter_cons_of_pos (by simpa using hname), List.filter_nil]
  unfold counted
  by_cases hb : base = ""
  · have hnames : names (join base name) = [] ++ [name] := by
      unfold join names
      rw [if_pos (Or.inr hb), splitSlash_of_not_mem hn.noSlash]
      simp
    rw [hnames, hcounts]
    exact ⟨_, rfl⟩
  · obtain ⟨front, idle, -, -, hnames⟩ := names_join hb hn
    rw [hnames, hcounts]
    exact ⟨_, rfl⟩

/-- The last name of a path below a directory. -/
theorem fileName?_join (base : String) {name : String} (hn : Plain name) :
    fileName? (join base name) = some name := by
  obtain ⟨front, hcounted⟩ := counted_join base hn
  have hlast : (parts (join base name)).getLast? = some name := by
    rcases parts_cases (join base name) with hp | hp
    · rw [hp, hcounted, List.getLast?_concat]
    · rw [hp, hcounted, ← List.cons_append, List.getLast?_concat]
  have hidle := not_or.mp hn.notIdle
  unfold fileName?
  rw [hlast, Option.filter_some_pos (by simp [hn.notUp, hidle.2])]

/-! ## The places above a place -/

theorem prefix_concat_cases {q here : Place} {name : String} (h : q <+: here ++ [name])
    (hne : q ≠ here ++ [name]) : q <+: here := by
  rcases List.prefix_concat_iff.mp h with he | hp
  · exact absurd he hne
  · exact hp

/-- A place above the next one is the place itself, or above it. -/
theorem above_of_next {q here : Place} {name : String} (h : q <+: next here name)
    (hne : q ≠ next here name) : q = here ∨ (q <+: here ∧ q ≠ here) := by
  by_cases hq : q = here
  · exact Or.inl hq
  refine Or.inr ⟨?_, hq⟩
  unfold next at h hne
  split at h
  · exact h
  · rename_i hidle
    rw [if_neg hidle] at hne
    split at h
    · exact h.trans (List.dropLast_prefix here)
    · rename_i hup
      rw [if_neg hup] at hne
      exact prefix_concat_cases h hne

/-- To reach a place, names lead through every place above it. -/
theorem mem_through_of_above {names : List String} {here p q : Place}
    (hp : p = follow here names ∨ p ∈ through here names) (h : q <+: p) (hne : q ≠ p) :
    q ∈ through here names ∨ (q <+: here ∧ q ≠ here) := by
  induction names generalizing here with
  | nil =>
    rcases hp with rfl | hp
    · exact Or.inr ⟨h, hne⟩
    · exact absurd hp List.not_mem_nil
  | cons name names ih =>
    have hnext : p = here ∨ p = follow (next here name) names ∨
        p ∈ through (next here name) names := by
      rcases hp with hp | hp
      · exact Or.inr (Or.inl hp)
      · rcases List.mem_cons.mp hp with hp | hp
        · exact Or.inl hp
        · exact Or.inr (Or.inr hp)
    rcases hnext with rfl | hnext
    · exact Or.inr ⟨h, hne⟩
    · rcases ih hnext with hq | ⟨hq, hq'⟩
      · exact Or.inl (List.mem_cons_of_mem here hq)
      · rcases above_of_next hq hq' with rfl | hq
        · exact Or.inl List.mem_cons_self
        · exact Or.inr hq

/-- **A path leads through every place above** the one it leads to, and above those it leads
through. -/
theorem mem_way_of_prefix {path : String} {p q : Place} (hp : p = place path ∨ p ∈ way path)
    (h : q <+: p) (hne : q ≠ p) : q ∈ way path := by
  rcases mem_through_of_above hp h hne with hq | ⟨hq, hq'⟩
  · exact hq
  · exact absurd (List.prefix_nil.mp hq) hq'

/-! ## The path above -/

/-- The names of a text that lead somewhere. -/
def countedIn (cs : List Char) : List String :=
  ((splitSlash cs).map String.ofList).filter fun n => n ≠ "" ∧ n ≠ "."

theorem countedIn_append (a b : List Char) :
    countedIn (a ++ '/' :: b) = countedIn a ++ countedIn b := by
  unfold countedIn
  rw [splitSlash_append, List.map_append, List.filter_append]

theorem countedIn_nil : countedIn [] = [] := by decide

theorem countedIn_dot : countedIn ['.'] = [] := by decide

/-- Cutting the end of a path keeps the names that lead somewhere. -/
theorem countedIn_cutEnd (fuel : Nat) (back : List Char) :
    countedIn (cutEnd fuel back).reverse = countedIn back.reverse := by
  induction fuel generalizing back with
  | zero => rfl
  | succ fuel ih =>
    unfold cutEnd
    split
    · rfl
    · rename_i rest _
      rw [ih, List.reverse_cons, countedIn_append, countedIn_nil, List.append_nil]
    · rename_i rest
      rw [ih, List.reverse_cons, List.reverse_cons, List.reverse_cons, List.append_assoc]
      show countedIn (rest.reverse ++ '/' :: []) = countedIn (rest.reverse ++ '/' :: ['.'])
      rw [countedIn_append, countedIn_append, countedIn_nil, countedIn_dot]
    · rfl

theorem cutEnd_suffix (fuel : Nat) (back : List Char) : cutEnd fuel back <:+ back := by
  induction fuel generalizing back with
  | zero => exact List.suffix_refl _
  | succ fuel ih =>
    unfold cutEnd
    split
    · exact List.suffix_refl _
    · exact (ih _).trans (List.suffix_cons _ _)
    · exact (ih _).trans (List.suffix_cons _ _)
    · exact List.suffix_refl _

theorem exists_of_parent {path up : String} (h : parent? path = some up) :
    ∃ back, back = cutEnd path.toList.reverse.length path.toList.reverse ∧
      up.toList = (cutEnd (back.dropWhile (· ≠ '/')).length
        (back.dropWhile (· ≠ '/'))).reverse := by
  unfold parent? at h
  split at h
  · exact absurd h (by simp)
  · refine ⟨_, rfl, ?_⟩
    rw [← Option.some.inj h]
    unfold trimmed
    simp

/-- The path above a path has its names, but for the last one. -/
theorem counted_parent {path up : String} (h : parent? path = some up) :
    ∃ last, counted path = counted up ++ last ∧ last.length ≤ 1 := by
  obtain ⟨back, hb, hu⟩ := exists_of_parent h
  have hpath : counted path = countedIn back.reverse := by
    rw [hb, countedIn_cutEnd, List.reverse_reverse]
    rfl
  have hup : counted up = countedIn (back.dropWhile (· ≠ '/')).reverse := by
    rw [← countedIn_cutEnd, ← hu]
    rfl
  have hlast : '/' ∉ (back.takeWhile (· ≠ '/')).reverse := by
    intro hm
    have := List.all_takeWhile (p := (· ≠ '/')) (l := back)
    rw [List.all_eq_true] at this
    simpa using this '/' (List.mem_reverse.mp hm)
  have hsplit : back.reverse
      = (back.dropWhile (· ≠ '/')).reverse ++ (back.takeWhile (· ≠ '/')).reverse := by
    rw [← List.reverse_append, List.takeWhile_append_dropWhile]
  have hshort : (countedIn (back.takeWhile (· ≠ '/')).reverse).length ≤ 1 := by
    unfold countedIn
    rw [splitSlash_of_not_mem hlast]
    exact List.length_filter_le _ _
  refine ⟨countedIn (back.takeWhile (· ≠ '/')).reverse, ?_, hshort⟩
  rw [hpath, hup, hsplit]
  cases hd : back.dropWhile (· ≠ '/') with
  | nil => rw [List.reverse_nil, List.nil_append, countedIn_nil, List.nil_append]
  | cons c rest =>
    have hc : c = '/' := by
      have := List.head?_dropWhile_not (· ≠ '/') back
      rw [hd] at this
      simpa using this
    rw [hc, List.reverse_cons, List.append_assoc, List.singleton_append, countedIn_append,
      countedIn_append, countedIn_nil, List.append_nil]

/-- Whatever the path above leads to or through, the path leads to or through as well. -/
theorem mem_way_of_parent {path up : String} (h : parent? path = some up) {q : Place}
    (hq : q = place up ∨ q ∈ way up) : q = place path ∨ q ∈ way path := by
  obtain ⟨last, hc, hl⟩ := counted_parent h
  have hup : q = place up ∨ q ∈ through [] (counted up) := by
    rcases hq with hq | hq
    · exact Or.inl hq
    · exact (mem_through_or_eq hq).symm
  have hway : ∀ {q}, q ∈ through [] (counted path) → q ∈ way path := mem_through_filter
  rcases hup with rfl | hq
  · rw [place_eq_follow_counted, place_eq_follow_counted path]
    cases last with
    | nil => exact Or.inl (by rw [hc, List.append_nil])
    | cons name rest =>
      refine Or.inr (hway ?_)
      rw [hc, through_append, List.mem_append]
      exact Or.inr List.mem_cons_self
  · refine Or.inr (hway ?_)
    rw [hc, through_append, List.mem_append]
    exact Or.inl hq

theorem mem_way_of_above {path up : String} (h : up ∈ above path) {q : Place}
    (hq : q = place up ∨ q ∈ way up) : q = place path ∨ q ∈ way path := by
  unfold above at h
  generalize (parts path).length = n at h
  induction n generalizing path with
  | zero => exact absurd h List.not_mem_nil
  | succ n ih =>
    unfold above.go at h
    split at h
    · exact absurd h List.not_mem_nil
    · rename_i next hp
      rcases List.mem_cons.mp h with rfl | h
      · exact mem_way_of_parent hp hq
      · exact mem_way_of_parent hp (ih h)

theorem Valid.parent {path up : String} (hv : Valid path) (h : parent? path = some up)
    (hu : up ≠ "") : Valid up := by
  obtain ⟨back, hb, ht⟩ := exists_of_parent h
  obtain ⟨last, hc, -⟩ := counted_parent h
  have hsub : ∀ c ∈ up.toList, c ∈ path.toList := by
    intro c hcu
    rw [ht, List.mem_reverse] at hcu
    have h1 := (cutEnd_suffix _ _).subset hcu
    have h2 := (List.dropWhile_suffix _).subset h1
    rw [hb] at h2
    exact List.mem_reverse.mp ((cutEnd_suffix _ _).subset h2)
  refine ⟨hu, ?_, fun n hn => ?_⟩
  · have := hv.noNul
    rw [List.contains_eq_any_beq, List.any_eq_false] at this ⊢
    exact fun c hcu => this c (hsub c hcu)
  · by_cases hi : n ≠ "" ∧ n ≠ "."
    · have hm : n ∈ counted path := by
        rw [hc]
        exact List.mem_append_left _ (List.mem_filter.mpr ⟨hn, by simpa using hi⟩)
      exact hv.short n (List.mem_filter.mp hm).1
    · rcases (idle_iff n).mpr hi with rfl | rfl
      · decide
      · decide

/-! ## Outside of a directory -/

/-- A path that neither leads to nor leads through a place in a directory. -/
def Outside (dir path : String) : Prop :=
  ∀ q, q = place path ∨ q ∈ way path → ¬ place dir <+: q

theorem outside_iff (dir path : String) :
    Outside dir path ↔ ∀ q ∈ place path :: way path, ¬ place dir <+: q := by
  unfold Outside
  simp only [List.mem_cons]

instance (dir path : String) : Decidable (Outside dir path) :=
  decidable_of_iff' _ (outside_iff dir path)

theorem Outside.place {dir path : String} (h : Outside dir path) :
    ¬ Path.place dir <+: Path.place path :=
  h _ (Or.inl rfl)

theorem Outside.place_ne_nil {dir path : String} (h : Outside dir path) : Path.place dir ≠ [] :=
  fun hp => h.place (by rw [hp]; exact List.nil_prefix)

theorem Outside.way {dir path : String} (h : Outside dir path) {q : Place}
    (hq : q ∈ Path.way path) : ¬ Path.place dir <+: q :=
  h q (Or.inr hq)

/-- Other spellings of a path outside of a directory lie outside, too. -/
theorem Outside.of_same {dir a b : String} (h : Outside dir b) (hs : same a b = true) :
    Outside dir a := by
  have hplace := place_eq_of_same hs
  intro q hq
  rcases hq with rfl | hq
  · rw [hplace]
    exact h.place
  · rcases mem_through_or_eq hq with hq | rfl
    · refine h.way (mem_through_filter ?_)
      show q ∈ through [] (counted b)
      rw [← counted_eq_of_same hs]
      exact hq
    · show ¬ Path.place dir <+: Path.place a
      rw [hplace]
      exact h.place

end Slipway.Path
