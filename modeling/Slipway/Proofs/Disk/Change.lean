import Slipway.Proofs.Disk.Lookup

/-!
# What the operations of a disk change

Three relations say how a disk may differ from an earlier one, place by place:

* `Disk.Wrote S`: files were written at places of `S`, over no directory. Directories stay what they
  are, so a path that could be walked still can (`Wrote.leads_iff`).
* `Disk.Made ps`: directories were made at places of the list `ps` where nothing stood.
* `Disk.Removed p`: what stood at a place and below it is gone.

Writing, making directories and removing a tree are related to them: `write_eq_ok_iff`,
`wrote_of_write`, `makeDirectories_made`, `removeTree_removed`.
-/

namespace Slipway.Path

theorem Valid.of_dropSlashes {path : String} (h : Valid (dropSlashes path)) : Valid path := by
  obtain ⟨slashes, hs, ht⟩ := toList_dropSlashes path
  obtain ⟨idle, hi, hn⟩ := names_dropSlashes path
  refine ⟨fun he => h.nonempty (by rw [he]; rfl), ?_, fun n hmem => ?_⟩
  · have := h.noNul
    rw [ht]
    rw [List.contains_eq_any_beq, List.any_eq_false] at this ⊢
    intro c hc
    rcases List.mem_append.mp hc with hc | hc
    · exact this c hc
    · rw [hs c hc]
      decide
  · rw [hn] at hmem
    rcases List.mem_append.mp hmem with hmem | hmem
    · exact h.short n hmem
    · rw [hi n hmem]
      decide

theorem Valid.dropSlashes {path : String} (h : Valid path) (hp : parts path ≠ []) :
    Valid (dropSlashes path) := by
  obtain ⟨slashes, hs, ht⟩ := toList_dropSlashes path
  obtain ⟨idle, hi, hn⟩ := names_dropSlashes path
  refine ⟨fun he => hp ?_, ?_, fun n hmem => h.short n ?_⟩
  · have hnames : ∀ n ∈ names path, n = "" := by
      rw [hn, he]
      intro n hmem
      rcases List.mem_append.mp hmem with hmem | hmem
      · have h0 : names "" = [""] := by decide
        rw [h0] at hmem
        exact List.mem_singleton.mp hmem
      · exact hi n hmem
    have hhead : (names path).head? ≠ some "." := by
      intro hh
      have := hnames "." (List.mem_of_mem_head? hh)
      exact absurd this (by decide)
    unfold parts
    simp only
    rw [if_neg fun h => hhead h.2, List.filter_eq_nil_iff]
    intro n hmem
    simp [hnames n hmem]
  · have := h.noNul
    rw [ht] at this
    rw [List.contains_eq_any_beq, List.any_eq_false] at this ⊢
    exact fun c hc => this c (List.mem_append_left _ hc)
  · rw [hn]
    exact List.mem_append_left _ hmem

theorem mem_way_dropSlashes {path : String} {q : Place} (h : q ∈ way (dropSlashes path)) :
    q ∈ way path := by
  obtain ⟨idle, -, hn⟩ := names_dropSlashes path
  unfold way
  rw [hn, through_append, List.mem_append]
  exact Or.inl h

theorem getLast?_counted {path : String} (h : (parts path).getLast? = some "..") :
    (counted path).getLast? = some ".." := by
  rcases parts_cases path with hp | hp
  · rwa [hp] at h
  · cases hc : counted path with
    | nil =>
      rw [hp, hc] at h
      exact absurd h (by decide)
    | cons name rest => rwa [hp, hc, List.getLast?_cons_cons] at h

/-- A path that ends in `..` leads through a place right below its own. -/
theorem exists_mem_way_of_up {path : String} (h : (parts path).getLast? = some "..") :
    ∃ q ∈ way path, place path = q.dropLast := by
  obtain ⟨init, hi⟩ := List.getLast?_eq_some_iff.mp (getLast?_counted h)
  refine ⟨follow [] init, mem_through_filter ?_, ?_⟩
  · show _ ∈ through [] (counted path)
    rw [hi, through_append, List.mem_append]
    exact Or.inr List.mem_cons_self
  · rw [place_eq_follow_counted, hi, follow_append]
    rfl

end Slipway.Path

namespace Slipway.Disk

variable {d d' d'' : Disk} {path : String} {p q : Place} {S T : Place → Prop} {c : Content}

/-! ## Writing files -/

/-- Files were written at places of `S`, over no directory. -/
def Wrote (S : Place → Prop) (d d' : Disk) : Prop :=
  ∀ q, d'.at? q = d.at? q ∨ (S q ∧ d.at? q ≠ some .directory ∧ ∃ c, d'.at? q = some (.file c))

theorem Wrote.refl (S : Place → Prop) (d : Disk) : Wrote S d d := fun _ => Or.inl rfl

theorem Wrote.mono (h : Wrote S d d') (hST : ∀ q, S q → T q) : Wrote T d d' := fun q =>
  (h q).imp_right fun ⟨hq, h⟩ => ⟨hST q hq, h⟩

theorem Wrote.directory_iff (h : Wrote S d d') (q : Place) :
    d'.at? q = some .directory ↔ d.at? q = some .directory := by
  rcases h q with hq | ⟨-, hq, c, hc⟩
  · rw [hq]
  · rw [hc]
    exact ⟨fun h => absurd h (by simp), fun h => absurd h hq⟩

theorem Wrote.trans (h : Wrote S d d') (h' : Wrote S d' d'') : Wrote S d d'' := by
  intro q
  rcases h' q with hq | ⟨hS, hq, hc⟩
  · rw [hq]
    exact h q
  · exact Or.inr ⟨hS, fun hd => hq ((h.directory_iff q).mpr hd), hc⟩

theorem Wrote.at?_eq (h : Wrote S d d') (hq : ¬ S q) : d'.at? q = d.at? q :=
  (h q).resolve_right fun h => hq h.1

/-- A written disk has at least the files and directories of the disk before. -/
theorem Wrote.at?_ne_none (h : Wrote S d d') (hq : d.at? q ≠ none) : d'.at? q ≠ none := by
  rcases h q with h | ⟨-, -, c, hc⟩
  · rwa [h]
  · rw [hc]
    exact Option.some_ne_none _

/-- Writing files keeps the paths that can be walked. -/
theorem Wrote.leads_iff (h : Wrote S d d') : d'.Leads path ↔ d.Leads path :=
  ⟨fun hl => hl.mono fun q _ hq => (h.directory_iff q).mp hq,
    fun hl => hl.mono fun q _ hq => (h.directory_iff q).mpr hq⟩

theorem Wrote.lookup_eq_ok_iff (h : Wrote S d d') (hp : ¬ S (Path.place path)) {e : Entry} :
    d'.lookup path = .ok e ↔ d.lookup path = .ok e := by
  rw [Disk.lookup_eq_ok_iff, Disk.lookup_eq_ok_iff, h.leads_iff, h.at?_eq hp]

theorem Wrote.pathExists_iff (h : Wrote S d d') (hp : ¬ S (Path.place path)) :
    d'.pathExists path = true ↔ d.pathExists path = true := by
  rw [Disk.pathExists_iff, Disk.pathExists_iff, h.leads_iff, h.at?_eq hp]

theorem Wrote.pathExists (h : Wrote S d d') (hp : d.pathExists path = true) :
    d'.pathExists path = true := by
  rw [Disk.pathExists_iff] at hp ⊢
  exact ⟨h.leads_iff.mpr hp.1, h.at?_ne_none hp.2⟩

theorem Wrote.isDirectory_iff (h : Wrote S d d') :
    d'.isDirectory path = true ↔ d.isDirectory path = true := by
  rw [Disk.isDirectory_iff, Disk.isDirectory_iff, h.leads_iff, h.directory_iff]

/-- A path at which a file can be written. -/
structure Accepts (d : Disk) (path : String) : Prop where
  leads : d.Leads path
  free : d.at? (Path.place path) ≠ some .directory

theorem accepts_of_resolve (h : d.resolve path = .ok q) (hq : d.at? q ≠ some .directory) :
    d.Accepts path := by
  obtain ⟨hl, rfl⟩ := resolve_eq_ok_iff.mp h
  exact ⟨hl, hq⟩

theorem Wrote.accepts_iff (h : Wrote S d d') : d'.Accepts path ↔ d.Accepts path := by
  constructor
  · rintro ⟨hl, hf⟩
    exact ⟨h.leads_iff.mp hl, fun hd => hf ((h.directory_iff _).mpr hd)⟩
  · rintro ⟨hl, hf⟩
    exact ⟨h.leads_iff.mpr hl, fun hd => hf ((h.directory_iff _).mp hd)⟩

theorem place_ne_nil_of_free (h : d.at? p ≠ some .directory) : p ≠ [] := by
  rintro rfl
  exact h rfl

theorem write_eq_ok_iff :
    d.write path c = .ok d' ↔ d.Accepts path ∧ d' = d.put (Path.place path) (.file c) := by
  unfold write
  by_cases hs : path.toList.getLast? = some '/'
  · rw [if_pos hs]
    constructor
    · intro h
      split at h
      · exact absurd h (by simp)
      · split at h <;> exact absurd h (by simp)
      · exact absurd h (by simp)
    · rintro ⟨ha, -⟩
      exact absurd hs (ha.leads.noSlash ha.free)
  · rw [if_neg hs, resolve_bind_eq_ok_iff]
    split
    · rename_i hd
      refine ⟨fun h => absurd h.2 (by simp [throw, throwThe, MonadExceptOf.throw]), fun h => ?_⟩
      exact absurd hd h.1.free
    · rename_i hd
      simp only [pure, Except.pure, Except.ok.injEq]
      exact ⟨fun h => ⟨⟨h.1, hd⟩, h.2.symm⟩, fun h => ⟨h.1.leads, h.2.symm⟩⟩

theorem wrote_of_write (h : d.write path c = .ok d') :
    Wrote (· = Path.place path) d d' ∧ d'.at? (Path.place path) = some (.file c) := by
  obtain ⟨ha, rfl⟩ := write_eq_ok_iff.mp h
  have hp := place_ne_nil_of_free ha.free
  refine ⟨fun q => ?_, at?_put_self hp⟩
  by_cases hq : q = Path.place path
  · rw [hq]
    exact Or.inr ⟨rfl, ha.free, c, at?_put_self hp⟩
  · exact Or.inl (at?_put_of_ne hq)

theorem copy_eq_ok_iff {source target : String} :
    d.copy source target = .ok d' ↔
      ∃ c, d.lookup source = .ok (.file c) ∧ d.write target c = .ok d' := by
  unfold copy
  cases h : d.lookup source with
  | error err => simp [bind, Except.bind]
  | ok e =>
    cases e with
    | directory => simp [bind, Except.bind, throw, throwThe, MonadExceptOf.throw]
    | file content => simp [bind, Except.bind]

/-! ## Making directories -/

/-- Directories were made at places of a list where nothing stood. -/
def Made (ps : List Place) (d d' : Disk) : Prop :=
  ∀ q, d'.at? q = d.at? q ∨ (q ∈ ps ∧ d.at? q = none ∧ d'.at? q = some .directory)

theorem Made.refl (ps : List Place) (d : Disk) : Made ps d d := fun _ => Or.inl rfl

theorem Made.mono {ps ps' : List Place} (h : Made ps d d') (hs : ps ⊆ ps') : Made ps' d d' :=
  fun q => (h q).imp_right fun ⟨hq, h⟩ => ⟨hs hq, h⟩

/-- Whatever stands somewhere stays there when directories are made. -/
theorem Made.at?_eq_some {ps : List Place} {e : Entry} (h : Made ps d d') (hq : d.at? q = some e) :
    d'.at? q = some e := by
  rcases h q with h | ⟨-, hn, -⟩
  · rw [h, hq]
  · rw [hn] at hq
    exact absurd hq (by simp)

theorem Made.trans {ps : List Place} (h : Made ps d d') (h' : Made ps d' d'') : Made ps d d'' := by
  intro q
  rcases h q with hq | ⟨hm, hn, hd⟩
  · rw [← hq]
    exact h' q
  · exact Or.inr ⟨hm, hn, h'.at?_eq_some hd⟩

theorem Made.leads {ps : List Place} (h : Made ps d d') (hl : d.Leads path) : d'.Leads path :=
  hl.mono fun _ _ hq => h.at?_eq_some hq

theorem Made.lookup {ps : List Place} {e : Entry} (h : Made ps d d') (hp : d.lookup path = .ok e) :
    d'.lookup path = .ok e := by
  rw [lookup_eq_ok_iff] at hp ⊢
  exact ⟨h.leads hp.1, h.at?_eq_some hp.2⟩

theorem Made.pathExists {ps : List Place} (h : Made ps d d') (hp : d.pathExists path = true) :
    d'.pathExists path = true := by
  rw [pathExists_iff] at hp ⊢
  obtain ⟨e, he⟩ := Option.ne_none_iff_exists'.mp hp.2
  exact ⟨h.leads hp.1, by rw [h.at?_eq_some he]; exact Option.some_ne_none e⟩

theorem isDirectory_of_dropSlashes (hl : d.Leads (Path.dropSlashes path))
    (hd : d.at? (Path.place path) = some .directory) : d.isDirectory path = true := by
  refine isDirectory_iff.mpr ⟨⟨hl.valid.of_dropSlashes, fun q hq => ?_⟩, hd⟩
  rcases Path.mem_way_of_dropSlashes hq with hq | rfl
  · exact hl.way q hq
  · exact hd

theorem leads_dropSlashes (hl : d.Leads path) (hp : Path.parts path ≠ []) :
    d.Leads (Path.dropSlashes path) :=
  ⟨hl.valid.dropSlashes hp, fun q hq => hl.way q (Path.mem_way_dropSlashes hq)⟩

/-- The spelling under which a directory is made. -/
def madeAs (path : String) : String := if Path.parts path = [] then path else Path.dropSlashes path

theorem place_madeAs (path : String) : Path.place (madeAs path) = Path.place path := by
  unfold madeAs
  split
  · rfl
  · exact Path.place_dropSlashes path

theorem leads_madeAs (hl : d.Leads path) : d.Leads (madeAs path) := by
  unfold madeAs
  split
  · exact hl
  · rename_i hp
    exact leads_dropSlashes hl hp

theorem isDirectory_of_madeAs (hl : d.Leads (madeAs path))
    (hd : d.at? (Path.place path) = some .directory) : d.isDirectory path = true := by
  unfold madeAs at hl
  split at hl
  · exact isDirectory_iff.mpr ⟨hl, hd⟩
  · exact isDirectory_of_dropSlashes hl hd

theorem makeDirectory_eq_ok_iff : d.makeDirectory path = .ok d' ↔
    d.Leads (madeAs path) ∧ d.at? (Path.place path) = none ∧
      d' = d.put (Path.place path) .directory := by
  show (d.resolve (madeAs path) >>= _) = _ ↔ _
  rw [resolve_bind_eq_ok_iff, place_madeAs]
  cases d.at? (Path.place path) with
  | some e => simp [throw, throwThe, MonadExceptOf.throw]
  | none => simp [pure, Except.pure, eq_comm]

/-- Making a directory finds nothing only where no directory stands. -/
theorem isDirectory_eq_false_of_notFound (h : d.makeDirectory path = .error .notFound) :
    d.isDirectory path = false := by
  rw [← Bool.not_eq_true, isDirectory_iff]
  rintro ⟨hl, hd⟩
  have hr : d.resolve (madeAs path) = .ok (Path.place path) := by
    rw [(leads_madeAs hl).resolve, place_madeAs]
  unfold makeDirectory at h
  unfold madeAs at hr
  rw [hr] at h
  simp [bind, Except.bind, hd, throw, throwThe, MonadExceptOf.throw] at h

theorem made_of_makeDirectory (h : d.makeDirectory path = .ok d') :
    Made [Path.place path] d d' ∧ d'.isDirectory path = true := by
  obtain ⟨hl, hn, rfl⟩ := makeDirectory_eq_ok_iff.mp h
  have hp : Path.place path ≠ [] := by
    intro hp
    rw [hp] at hn
    exact absurd hn (by simp)
  have hm : Made [Path.place path] d (d.put (Path.place path) .directory) := by
    intro q
    by_cases hq : q = Path.place path
    · rw [hq]
      exact Or.inr ⟨List.mem_singleton_self _, hn, at?_put_self hp⟩
    · exact Or.inl (at?_put_of_ne hq)
  exact ⟨hm, isDirectory_of_madeAs (hm.leads hl) (at?_put_self hp)⟩

theorem settle_ensureDirectory (d : Disk) (path : String) :
    Made [Path.place path] d (d.settle (d.ensureDirectory path)).2 ∧
      ((d.settle (d.ensureDirectory path)).1 = .ok () ↔
        (d.settle (d.ensureDirectory path)).2.isDirectory path = true) := by
  unfold ensureDirectory
  cases hm : d.makeDirectory path with
  | ok d' =>
    obtain ⟨h1, h2⟩ := made_of_makeDirectory hm
    exact ⟨h1, by simp [settle, h2]⟩
  | error e =>
    by_cases hd : d.isDirectory path = true
    · simp [settle, hd, Made.refl]
    · simp [settle, hd, Made.refl]

theorem makeAlong_cons (d : Disk) (path up : String) (above : List String) :
    d.makeAlong path (up :: above) =
      match d.makeDirectory path with
      | .error .notFound =>
        match d.makeAlong up above with
        | (.ok (), d) => d.settle (d.ensureDirectory path)
        | (.error e, d) => (.error e, d)
      | _ => d.settle (d.ensureDirectory path) := (rfl)

/-- Only directories at the paths given are made; if all goes well, there is one at the path. -/
theorem makeAlong_made (above : List String) (d : Disk) (path : String) :
    Made ((path :: above).map Path.place) d (d.makeAlong path above).2 ∧
      ((d.makeAlong path above).1 = .ok () →
        (d.makeAlong path above).2.isDirectory path = true) := by
  induction above generalizing d path with
  | nil =>
    obtain ⟨h1, h2⟩ := settle_ensureDirectory d path
    exact ⟨h1, h2.mp⟩
  | cons up above ih =>
    have hself : ∀ d : Disk, Made ((path :: up :: above).map Path.place) d
        (d.settle (d.ensureDirectory path)).2 := fun d =>
      (settle_ensureDirectory d path).1.mono (by simp)
    rw [makeAlong_cons]
    split
    · obtain ⟨h1, -⟩ := ih d up
      have hup : Made ((path :: up :: above).map Path.place) d (d.makeAlong up above).2 :=
        h1.mono fun q hq => List.mem_cons_of_mem _ hq
      split
      · rename_i d' hmade
        rw [hmade] at hup
        exact ⟨hup.trans (hself d'), (settle_ensureDirectory d' path).2.mp⟩
      · rename_i e d' hmade
        rw [hmade] at hup
        exact ⟨hup, fun h => absurd h (by simp)⟩
    · exact ⟨hself d, (settle_ensureDirectory d path).2.mp⟩

/-- **Making directories** makes them only at the path and the paths above it. -/
theorem makeDirectories_made (d : Disk) (path : String) :
    Made ((path :: Path.above path).map Path.place) d (d.makeDirectories path).2 :=
  (makeAlong_made (Path.above path) d path).1

theorem isDirectory_makeDirectories (h : d.makeDirectories path = (.ok (), d')) :
    d'.isDirectory path = true := by
  have := (makeAlong_made (Path.above path) d path).2
  unfold makeDirectories at h
  rw [h] at this
  exact this rfl

theorem above_go_empty (n : Nat) : Path.above.go n "" = [] := by
  cases n with
  | zero => rfl
  | succ n =>
    have : Path.parent? "" = none := by decide
    simp [Path.above.go, this]

theorem isDirectory_settle_refused {e : DiskError}
    (h : d.settle (d.ensureDirectory path) = (.error e, d')) : d'.isDirectory path = false := by
  have hiff := (settle_ensureDirectory d path).2
  rw [h] at hiff
  rw [← Bool.not_eq_true]
  exact fun hd => absurd (hiff.mpr hd) (by simp)

theorem makeAlong_refused (n : Nat) {e : DiskError}
    (h : d.makeAlong path (Path.above.go n path) = (.error e, d')) :
    d'.isDirectory path = false := by
  induction n generalizing d d' path with
  | zero => exact isDirectory_settle_refused h
  | succ n ih =>
    unfold Path.above.go at h
    cases hup : Path.parent? path with
    | none =>
      rw [hup] at h
      exact isDirectory_settle_refused h
    | some up =>
      rw [hup] at h
      change d.makeAlong path (up :: Path.above.go n up) = _ at h
      rw [makeAlong_cons] at h
      split at h
      · rename_i hnone
        split at h
        · exact isDirectory_settle_refused h
        · rename_i e' d₁ hmade
          simp only [Prod.mk.injEq, Except.error.injEq] at h
          obtain ⟨rfl, rfl⟩ := h
          by_cases hu : up = ""
          · -- the empty path has nothing above it, and refusing it changes nothing
            have hd : d₁ = d := by
              rw [hu, above_go_empty] at hmade
              exact (congrArg Prod.snd hmade).symm
            rw [hd]
            exact isDirectory_eq_false_of_notFound hnone
          · have hno := ih hmade
            rw [← Bool.not_eq_true]
            intro hd
            rw [isDirectory_parent hup hu hd] at hno
            exact absurd hno (by simp)
      · exact isDirectory_settle_refused h

/-- **If making directories is refused, there is none at the path.** -/
theorem isDirectory_makeDirectories_refused {e : DiskError}
    (h : d.makeDirectories path = (.error e, d')) : d'.isDirectory path = false :=
  makeAlong_refused _ h

/-! ## Removing a tree -/

/-- What stood at a place and below it is gone, in part or as a whole. -/
def Removed (p : Place) (d d' : Disk) : Prop :=
  ∀ q, d'.at? q = d.at? q ∨ (p <+: q ∧ d'.at? q = none)

theorem Removed.at?_eq (h : Removed p d d') (hq : ¬ p <+: q) : d'.at? q = d.at? q :=
  (h q).resolve_right fun h => hq h.1

theorem Removed.lookup {dir : String} {e : Entry} (h : Removed (Path.place dir) d d')
    (ho : Path.Outside dir path) (hl : d.lookup path = .ok e) : d'.lookup path = .ok e := by
  rw [lookup_eq_ok_iff] at hl ⊢
  refine ⟨hl.1.mono fun q hq hd => ?_, ?_⟩
  · rwa [h.at?_eq (ho.way hq)]
  · rw [h.at?_eq ho.place, hl.2]

/-- What is left was there before. -/
theorem Removed.lookup_before {e : Entry} (h : Removed p d d') (hl : d'.lookup path = .ok e) :
    d.lookup path = .ok e := by
  have keep : ∀ q e, d'.at? q = some e → d.at? q = some e := by
    intro q e he
    rcases h q with hq | ⟨-, hn⟩
    · rw [← hq, he]
    · rw [hn] at he
      exact absurd he (by simp)
  rw [lookup_eq_ok_iff] at hl ⊢
  exact ⟨hl.1.mono fun q _ hq => keep q _ hq, keep _ _ hl.2⟩

/-- Where a file was removed, nothing else is missed. -/
theorem Removed.lookup_of_file {e : Entry} (h : Removed p d d') (hp : d.at? p ≠ some .directory)
    (hne : e = .directory ∨ Path.place path ≠ p) (hl : d.lookup path = .ok e) :
    d'.lookup path = .ok e := by
  rw [lookup_eq_ok_iff] at hl ⊢
  obtain ⟨hleads, hat⟩ := hl
  -- the path leads through directories only, so the file is not above it
  have hkeep : ∀ q, q = Path.place path ∨ q ∈ Path.way path → q ≠ p → d'.at? q = d.at? q := by
    intro q hq hqp
    refine h.at?_eq fun hpre => hp ?_
    exact hleads.way p (Path.mem_way_of_prefix hq hpre hqp.symm)
  have hplace : Path.place path ≠ p := by
    rcases hne with rfl | hne
    · intro he
      exact hp (he ▸ hat)
    · exact hne
  refine ⟨hleads.mono fun q hq hd => ?_, ?_⟩
  · rw [hkeep q (Or.inr hq) fun he => hp (he ▸ hd), hd]
  · rw [hkeep _ (Or.inl rfl) hplace, hat]

theorem removeFile_eq_ok_iff : d.removeFile path = .ok d' ↔
    d.Leads path ∧ (∃ c, d.at? (Path.place path) = some (.file c)) ∧
      d' = d.cut (Path.place path) := by
  unfold removeFile
  rw [resolve_bind_eq_ok_iff]
  cases d.at? (Path.place path) with
  | none => simp [throw, throwThe, MonadExceptOf.throw]
  | some entry =>
    cases entry with
    | directory => simp [throw, throwThe, MonadExceptOf.throw]
    | file c => simp [pure, Except.pure, eq_comm]

theorem removed_cut (d : Disk) (p : Place) : Removed p d (d.cut p) := by
  intro q
  rw [at?_cut]
  split
  · rename_i hq
    exact Or.inr ⟨hq.2, rfl⟩
  · exact Or.inl rfl

theorem removeTree_eq_ok_iff : d.removeTree path = .ok d' ↔ d.isDirectory path = true ∧
    d' = if (Path.parts path).getLast? = some ".." then d.clear (Path.place path)
      else d.cut (Path.place path) := by
  rw [isDirectory_iff]
  unfold removeTree
  rw [resolve_bind_eq_ok_iff]
  cases d.at? (Path.place path) with
  | none => simp [throw, throwThe, MonadExceptOf.throw]
  | some entry =>
    cases entry with
    | file c => simp [throw, throwThe, MonadExceptOf.throw]
    | directory => simp [pure, Except.pure, eq_comm]

theorem removeTree_removed (h : d.removeTree path = .ok d') :
    Removed (Path.place path) d d' := by
  obtain ⟨-, rfl⟩ := removeTree_eq_ok_iff.mp h
  intro q
  split
  · rw [at?_clear]
    split
    · rename_i hq
      exact Or.inr ⟨hq.2.2, rfl⟩
    · exact Or.inl rfl
  · exact removed_cut d _ q

/-- **A tree that was removed is not there any more**, whether it was cut off or emptied. -/
theorem pathExists_removeTree (h : d.removeTree path = .ok d') (hp : Path.place path ≠ []) :
    d'.pathExists path = false := by
  obtain ⟨-, hd'⟩ := removeTree_eq_ok_iff.mp h
  rw [← Bool.not_eq_true, pathExists_iff]
  rintro ⟨hl, hthere⟩
  split at hd'
  · rename_i hup
    obtain ⟨q, hq, hplace⟩ := Path.exists_mem_way_of_up hup
    have hq0 : q ≠ [] := by
      rintro rfl
      exact hp hplace
    have hlt : q.dropLast ≠ q := fun he => by
      have := congrArg List.length he
      have := List.length_pos_iff.mpr hq0
      rw [List.length_dropLast] at *
      omega
    have hgone : d'.at? q = none := by
      rw [hd', at?_clear, hplace]
      exact if_pos ⟨hq0, hlt.symm, List.dropLast_prefix q⟩
    rw [hl.way q hq] at hgone
    exact absurd hgone (by simp)
  · rw [hd', at?_cut, if_pos ⟨hp, List.prefix_refl _⟩] at hthere
    exact hthere rfl

theorem isDirectory_removeTree (h : d.removeTree path = .ok d') (hp : Path.place path ≠ []) :
    d'.isDirectory path = false := by
  rw [← Bool.not_eq_true]
  intro hd
  have hgone := pathExists_removeTree h hp
  rw [pathExists_of_isDirectory hd] at hgone
  exact absurd hgone (by simp)

end Slipway.Disk
