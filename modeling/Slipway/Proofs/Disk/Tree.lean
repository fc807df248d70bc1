import Slipway.Proofs.Disk.Change

/-!
# Trees, and the files on them

* `Disk.IsTree`: whatever stands somewhere stands in a directory. Writing files and making
  directories keep that (`IsTree.write`, `IsTree.wrote`, `IsTree.makeDirectories`).
* `Disk.Confined S T`: outside of `S` no regular file has come or gone, and only those at places of
  `T` have changed. Directories may come and go.
-/

namespace Slipway.Disk

variable {d d' d'' : Disk} {path : String} {p q : Place} {S S' T T' : Place → Prop} {c : Content}
variable {e : Entry} {ps : List Place}

/-! ## Trees -/

/-- A disk is a tree: whatever stands somewhere stands in a directory. -/
def IsTree (d : Disk) : Prop := ∀ q, d.at? q ≠ none → d.at? q.dropLast = some .directory

/-- Whether a disk is a tree is seen from its entries. -/
theorem isTree_of_entries (h : ∀ x ∈ d.entries, d.at? x.1.dropLast = some .directory) :
    d.IsTree := by
  intro q hq
  by_cases hnil : q = []
  · rw [hnil]
    rfl
  · obtain ⟨e, he⟩ := Option.ne_none_iff_exists'.mp hq
    rw [at?_of_ne_nil hnil, Option.map_eq_some_iff] at he
    obtain ⟨x, hx, -⟩ := he
    have hplace : x.1 = q := by simpa using List.find?_some hx
    rw [← hplace]
    exact h x (List.mem_of_find?_eq_some hx)

theorem prefix_dropLast (h : p <+: q) (hne : p ≠ q) : p <+: q.dropLast := by
  have hlt : p.length < q.length :=
    Nat.lt_of_le_of_ne h.length_le fun he => hne (h.eq_of_length he)
  refine List.prefix_of_prefix_length_le h (List.dropLast_prefix q) ?_
  rw [List.length_dropLast]
  omega

/-- Above whatever stands somewhere there are only directories. -/
theorem IsTree.above (h : d.IsTree) (hq : d.at? q ≠ none) (hp : p <+: q) (hne : p ≠ q) :
    d.at? p = some .directory := by
  -- one step up, as long as the place above is not the one looked for
  induction hlen : q.length generalizing q with
  | zero =>
    rw [List.eq_nil_of_length_eq_zero hlen] at hp hne
    exact absurd (List.prefix_nil.mp hp) hne
  | succ n ih =>
    have hup := h q hq
    by_cases he : p = q.dropLast
    · rw [he, hup]
    · refine ih (by rw [hup]; simp) (prefix_dropLast hp hne) he ?_
      rw [List.length_dropLast, hlen]
      rfl

/-- Below a file nothing stands. -/
theorem IsTree.at?_below_file (h : d.IsTree) (hp : d.at? p = some (.file c)) (hpq : p <+: q)
    (hne : p ≠ q) : d.at? q = none := by
  rw [← Decidable.not_not (p := d.at? q = none)]
  intro hq
  rw [h.above hq hpq hne] at hp
  exact absurd hp (by simp)

/-- Whatever a path leads to in a tree lies outside of a directory that is not there. -/
theorem IsTree.outside {dir : String} (h : d.IsTree) (hdir : d.at? (Path.place dir) = none)
    (hl : d.lookup path = .ok e) : Path.Outside dir path := by
  obtain ⟨hleads, hat⟩ := lookup_eq_ok_iff.mp hl
  intro q hq hp
  have hthere : d.at? q ≠ none := by
    rcases hq with rfl | hq
    · rw [hat]
      simp
    · rw [hleads.way q hq]
      simp
  by_cases he : Path.place dir = q
  · exact hthere (he ▸ hdir)
  · rw [h.above hthere hp he] at hdir
    exact absurd hdir (by simp)

theorem ne_dropLast (hp : p ≠ []) : p.dropLast ≠ p := by
  intro he
  have hlen := congrArg List.length he
  have hpos := List.length_pos_iff.mpr hp
  rw [List.length_dropLast] at hlen
  omega

theorem IsTree.put (h : d.IsTree) (hfree : d.at? p ≠ some .directory)
    (hup : d.at? p.dropLast = some .directory) (e : Entry) : (d.put p e).IsTree := by
  have hp := place_ne_nil_of_free hfree
  intro q hq
  by_cases hqp : q = p
  · rw [hqp, at?_put_of_ne (ne_dropLast hp), hup]
  · rw [at?_put_of_ne hqp] at hq
    have hdir := h q hq
    have hne : q.dropLast ≠ p := by
      intro he
      rw [he] at hdir
      exact hfree hdir
    rw [at?_put_of_ne hne, hdir]

/-- A path that can be walked leads to a place in a directory. -/
theorem Leads.dropLast_place (h : d.Leads path) (hp : Path.place path ≠ []) :
    d.at? (Path.place path).dropLast = some .directory :=
  h.way _ (Path.mem_way_of_prefix (Or.inl rfl) (List.dropLast_prefix _) (ne_dropLast hp))

theorem IsTree.write (h : d.IsTree) (hw : d.write path c = .ok d') : d'.IsTree := by
  obtain ⟨ha, rfl⟩ := write_eq_ok_iff.mp hw
  exact h.put ha.free (ha.leads.dropLast_place (place_ne_nil_of_free ha.free)) _

/-- **Files that were written in directories** leave a tree. -/
theorem IsTree.wrote (h : d.IsTree) (hw : Wrote S d d')
    (hS : ∀ q, S q → d.at? q = none → d.at? q.dropLast = some .directory) : d'.IsTree := by
  intro q hq
  rw [hw.directory_iff]
  by_cases hn : d.at? q = none
  · rcases hw q with he | ⟨hSq, -, -⟩
    · exact absurd (he.trans hn) hq
    · exact hS q hSq hn
  · exact h q hn

theorem IsTree.makeDirectory (h : d.IsTree) (hm : d.makeDirectory path = .ok d') : d'.IsTree := by
  obtain ⟨hl, hn, rfl⟩ := makeDirectory_eq_ok_iff.mp hm
  have hfree : d.at? (Path.place path) ≠ some .directory := by
    rw [hn]
    simp
  have hup := hl.dropLast_place (by rw [place_madeAs]; exact place_ne_nil_of_free hfree)
  rw [place_madeAs] at hup
  exact h.put hfree hup _

theorem IsTree.settle (h : d.IsTree) (path : String) :
    (d.settle (d.ensureDirectory path)).2.IsTree := by
  unfold ensureDirectory
  cases hm : d.makeDirectory path with
  | ok d' => exact h.makeDirectory hm
  | error e =>
    by_cases hd : d.isDirectory path = true
    · simp only [hd, if_true]
      exact h
    · simp only [hd, Bool.false_eq_true, if_false]
      exact h

theorem IsTree.makeAlong (above : List String) (h : d.IsTree) (path : String) :
    (d.makeAlong path above).2.IsTree := by
  induction above generalizing d path with
  | nil => exact h.settle path
  | cons up above ih =>
    rw [makeAlong_cons]
    split
    · have hup := ih h up
      split
      · rename_i hmade
        rw [hmade] at hup
        exact hup.settle path
      · rename_i hmade
        rwa [hmade] at hup
    · exact h.settle path

/-- **Directories that are made** leave a tree, even if that is broken off. -/
theorem IsTree.makeDirectories (h : d.IsTree) (path : String) :
    (d.makeDirectories path).2.IsTree := h.makeAlong _ path

/-! ## Changes to files -/

/-- Outside of `S` no regular file has come or gone, and only those at places of `T` have
changed. -/
structure Confined (S T : Place → Prop) (d d' : Disk) : Prop where
  there : ∀ q, ¬ S q → ((∃ c, d'.at? q = some (.file c)) ↔ ∃ c, d.at? q = some (.file c))
  same : ∀ q, ¬ S q → ¬ T q → ∀ c, d'.at? q = some (.file c) ↔ d.at? q = some (.file c)

theorem Confined.refl (S T : Place → Prop) (d : Disk) : Confined S T d d :=
  ⟨fun _ _ => Iff.rfl, fun _ _ _ _ => Iff.rfl⟩

theorem Confined.trans (h : Confined S T d d') (h' : Confined S T d' d'') : Confined S T d d'' :=
  ⟨fun q hS => (h'.there q hS).trans (h.there q hS),
    fun q hS hT c => (h'.same q hS hT c).trans (h.same q hS hT c)⟩

theorem Confined.mono (h : Confined S T d d') (hS : ∀ q, S q → S' q) (hT : ∀ q, T q → T' q) :
    Confined S' T' d d' :=
  ⟨fun q hq => h.there q fun hs => hq (hS q hs),
    fun q hq ht => h.same q (fun hs => hq (hS q hs)) fun hs => ht (hT q hs)⟩

theorem confined_of_files (T : Place → Prop)
    (h : ∀ q, ¬ S q → ∀ c, d'.at? q = some (.file c) ↔ d.at? q = some (.file c)) :
    Confined S T d d' :=
  ⟨fun q hq => exists_congr (h q hq), fun q hq _ => h q hq⟩

theorem Wrote.confined (h : Wrote S d d') (T : Place → Prop) : Confined S T d d' :=
  confined_of_files T fun q hq c => by rw [h.at?_eq hq]

/-- Files that are written over files are changed, and none is new. -/
theorem Wrote.confined_over (h : Wrote T d d') (hT : ∀ q, T q → ¬ S q → d.at? q ≠ none) :
    Confined S T d d' := by
  refine ⟨fun q hS => ?_, fun q hS hq c => by rw [h.at?_eq hq]⟩
  rcases h q with he | ⟨hq, hdir, hfile⟩
  · rw [he]
  · refine iff_of_true hfile ?_
    obtain ⟨e, he⟩ := Option.ne_none_iff_exists'.mp (hT q hq hS)
    cases e with
    | file c => exact ⟨c, he⟩
    | directory => exact absurd he hdir

theorem Made.confined (h : Made ps d d') (S T : Place → Prop) : Confined S T d d' := by
  refine confined_of_files T fun q _ c => ?_
  rcases h q with he | ⟨-, hn, hd⟩
  · rw [he]
  · rw [hn, hd]
    simp

theorem Removed.confined (h : Removed p d d') (T : Place → Prop) : Confined (p <+: ·) T d d' :=
  confined_of_files T fun q hq c => by rw [h.at?_eq hq]

/-- Where a file of a tree is removed, no other one goes with it. -/
theorem Removed.confined_file (h : Removed p d d') (ht : d.IsTree)
    (hp : d.at? p = some (.file c)) (T : Place → Prop) : Confined (· = p) T d d' := by
  refine confined_of_files T fun q hq c' => ?_
  rcases h q with he | ⟨hpq, hn⟩
  · rw [he]
  · rw [hn, ht.at?_below_file hp hpq (Ne.symm hq)]

end Slipway.Disk
