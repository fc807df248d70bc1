import Slipway.Regex.Search

/-!
# Reading an escaped text

A text that is escaped with `Regex.escape` (`regex::escape`) is read as the characters it is made
of, wherever it stands in an expression. So an expression that is put together around such a text
can be read whatever the text is, and only the limit on its size may refuse it.

* `items_escape`: what an escaped text is read as.
* `exists_read`: a text whose items can be read is an expression.
* `compile_of_read`: only its size may be refused.
-/

namespace Slipway.Regex

namespace Reading

variable {r r₁ r₂ : Reading} {cs cs₁ cs₂ rest : List Char} {fuel count more : Nat}

/-- Where the reading of an expression starts. -/
def start : Reading := ⟨[], [], [], Flags.initial, 0, []⟩

/-! ## A number of items -/

/-- Reads a number of items. -/
def items : (count : Nat) → Reading → List Char → Except Defect (Reading × List Char)
  | 0, r, cs => .ok (r, cs)
  | count + 1, r, cs =>
    match r.flags.skip cs with
    | [] => .ok (r, [])
    | c :: cs =>
      match r.step c cs with
      | .error e => .error e
      | .ok (r, rest) => items count r rest

theorem skip_nil (f : Flags) : f.skip [] = [] := by
  unfold Flags.skip
  split <;> rfl

theorem items_nil (count : Nat) (r : Reading) : items count r [] = .ok (r, []) := by
  cases count with
  | zero => rfl
  | succ count => rw [items, skip_nil]

theorem items_trans (h : items count r cs = .ok (r₁, cs₁))
    (hmore : items more r₁ cs₁ = .ok (r₂, cs₂)) :
    items (count + more) r cs = .ok (r₂, cs₂) := by
  induction count generalizing r cs with
  | zero =>
    obtain ⟨rfl, rfl⟩ := Prod.mk.inj (Except.ok.inj h)
    rwa [Nat.zero_add]
  | succ count ih =>
    rw [Nat.succ_add, items]
    rw [items] at h
    split at h
    · obtain ⟨rfl, rfl⟩ := Prod.mk.inj (Except.ok.inj h)
      rw [items_nil] at hmore
      exact hmore
    · split at h
      · exact absurd h (by simp)
      · exact ih h

/-- A run with enough fuel reads all items. -/
theorem run_of_items (h : items count r cs = .ok (r₁, [])) (hfuel : count ≤ fuel) :
    run fuel r cs = .ok r₁ := by
  induction count generalizing r cs fuel with
  | zero =>
    obtain ⟨rfl, rfl⟩ := Prod.mk.inj (Except.ok.inj h)
    cases fuel with
    | zero => rfl
    | succ fuel => rw [run, skip_nil]
  | succ count ih =>
    obtain ⟨fuel, rfl⟩ : ∃ n, fuel = n + 1 := ⟨fuel - 1, by omega⟩
    rw [items] at h
    rw [run]
    cases hskip : r.flags.skip cs with
    | nil =>
      rw [hskip] at h
      rw [(Prod.mk.inj (Except.ok.inj h)).1]
    | cons c cs' =>
      rw [hskip] at h
      simp only at h ⊢
      cases hstep : r.step c cs' with
      | error e =>
        rw [hstep] at h
        exact absurd h (by simp)
      | ok next =>
        rw [hstep] at h
        exact ih h (Nat.le_of_succ_le_succ hfuel)

/-! ## Escaped characters -/

/-- A character that is not special stands for itself. -/
theorem step_of_not_meta {c : Char} (h : isMeta c = false) :
    r.step c rest = .ok (r.add (literalNode r.flags c) 0 true, rest) := by
  have hne : ∀ d, isMeta d = true → c ≠ d := by
    rintro d hd rfl
    exact absurd (hd.symm.trans h) (by decide)
  simp only [step, hne '(' (by decide), hne ')' (by decide), hne '|' (by decide),
    hne '[' (by decide), hne '?' (by decide), hne '*' (by decide), hne '+' (by decide),
    hne '\x7b' (by decide), hne '\\' (by decide), hne '.' (by decide), hne '^' (by decide),
    hne '$' (by decide), if_false]
  rfl

/-- A special character may be escaped. -/
theorem readEscape_of_meta {c : Char} (h : isMeta c = true) (f : Flags) :
    readEscape f (c :: rest) = .ok (.literal c, rest) := by
  have hne : ∀ d, isMeta d = false → c ≠ d := by
    rintro d hd rfl
    exact absurd (hd.symm.trans h) (by decide)
  have hdigit : c.isDigit = false := by
    have hall : ("\\.+*?()|[]\x7b\x7d^$#&-~".toList.all fun d => !d.isDigit) = true := by decide
    exact (Bool.not_eq_true' _).mp (List.all_eq_true.mp hall c (List.contains_iff_mem.mp h))
  have hescapable : isEscapable c = true := by rw [isEscapable, h, Bool.true_or]
  simp only [readEscape, hdigit, hescapable, hne 'x' (by decide), hne 'u' (by decide),
    hne 'U' (by decide), hne 'p' (by decide), hne 'P' (by decide), hne 'd' (by decide),
    hne 'D' (by decide), hne 's' (by decide), hne 'S' (by decide), hne 'w' (by decide),
    hne 'W' (by decide), or_self, Bool.false_eq_true, if_false, if_true]

/-- A special character stands for itself after a backslash. -/
theorem step_of_meta {c : Char} (h : isMeta c = true) :
    r.step '\\' (c :: rest) = .ok (r.add (literalNode r.flags c) 0 true, rest) := by
  simp only [step, readEscape_of_meta h, Except.bind, bind, if_true]
  rfl

theorem length_le_escape (text : List Char) : text.length ≤ (escape text).length := by
  induction text with
  | nil => exact Nat.le_refl _
  | cons c text ih =>
    have hescape : escape (c :: text) = (if isMeta c then ['\\', c] else [c]) ++ escape text := rfl
    rw [hescape, List.length_append, List.length_cons]
    split <;> simp only [List.length_cons, List.length_nil] <;> omega

/-- What has been read, with characters that stand for themselves. -/
def addLiterals (r : Reading) (text : List Char) : Reading :=
  text.foldl (fun r c => r.add (literalNode r.flags c) 0 true) r

/-- **An escaped text** is read character by character. -/
theorem items_escape (hspace : r.flags.ignoreSpace = false) (text rest : List Char) :
    items text.length r (escape text ++ rest) = .ok (r.addLiterals text, rest) := by
  have hskip : ∀ cs, r.flags.skip cs = cs := fun cs => by rw [Flags.skip, hspace]; rfl
  induction text generalizing r with
  | nil => rfl
  | cons c text ih =>
    have hrest := ih (r := r.add (literalNode r.flags c) 0 true) hspace hskip
    cases hc : isMeta c with
    | true =>
      have hescape : escape (c :: text) ++ rest = '\\' :: c :: (escape text ++ rest) := by
        simp [escape, hc]
      rw [hescape, List.length_cons, items, hskip]
      simp only [step_of_meta hc]
      exact hrest
    | false =>
      have hescape : escape (c :: text) ++ rest = c :: (escape text ++ rest) := by
        simp [escape, hc]
      rw [hescape, List.length_cons, items, hskip]
      simp only [step_of_not_meta hc]
      exact hrest

/-! ## The end of an expression -/

/-- A reading outside of all groups and without alternatives, whose pieces nest at most so deep. -/
structure Flat (f : Flags) (depth : Nat) (r : Reading) : Prop where
  flags : r.flags = f
  pending : r.pending = []
  alternatives : r.alternatives = []
  shallow : ∀ p ∈ r.sequence, p.depth ≤ depth

theorem Flat.addLiterals {f : Flags} {depth : Nat} (h : Flat f depth r) (text : List Char) :
    Flat f depth (r.addLiterals text) := by
  induction text generalizing r with
  | nil => exact h
  | cons c text ih =>
    refine ih ⟨h.flags, h.pending, h.alternatives, fun p hp => ?_⟩
    rcases List.mem_cons.mp hp with rfl | hp
    · exact Nat.zero_le depth
    · exact h.shallow p hp

end Reading

/-- The greatest depth of some pieces is bounded by what bounds all of them. -/
theorem foldl_depth_le {pieces : List Piece} {least depth : Nat} (hleast : least ≤ depth)
    (h : ∀ p ∈ pieces, p.depth ≤ depth) :
    pieces.foldl (fun d p => max d p.depth) least ≤ depth := by
  induction pieces generalizing least with
  | nil => exact hleast
  | cons p pieces ih =>
    exact ih (Nat.max_le.mpr ⟨hleast, h p List.mem_cons_self⟩)
      fun q hq => h q (List.mem_cons_of_mem p hq)

theorem depth_joinPieces_le (join : Node → Node → Node) {pieces : List Piece} {depth : Nat}
    (h : ∀ p ∈ pieces, p.depth ≤ depth) : (joinPieces join pieces).depth ≤ depth + 1 := by
  match pieces, h with
  | [], _ => exact Nat.zero_le _
  | [p], h => exact Nat.le_succ_of_le (h p List.mem_cons_self)
  | last :: next :: before, h =>
    exact Nat.succ_le_succ (foldl_depth_le (h last List.mem_cons_self)
      fun p hp => h p (List.mem_cons_of_mem last hp))

/-- **An expression can be read** if each of its items can, and they do not nest too deep. -/
theorem exists_read {text : List Char} {r : Reading} {f : Flags} {count depth : Nat}
    (h : Reading.start.items count text = .ok (r, [])) (hcount : count ≤ text.length)
    (hflat : r.Flat f depth) (hdepth : depth < maxDepth) : ∃ node, Node.read text = .ok node := by
  have hshallow : ¬ maxDepth < r.closeAlternatives.depth := by
    have hle := depth_joinPieces_le .seq hflat.shallow
    rw [Reading.closeAlternatives, hflat.alternatives]
    exact Nat.not_lt.mpr (Nat.le_trans hle hdepth)
  have hrun : Reading.run text.length Reading.start text = .ok r := Reading.run_of_items h hcount
  unfold Node.read
  rw [← Reading.start, hrun]
  refine ⟨r.closeAlternatives.node, ?_⟩
  simp [bind, Except.bind, pure, Except.pure, hflat.pending, hshallow]

/-- An expression that can be read is refused only for its size. -/
theorem compile_of_read [SizeLimit] {pattern : List Char} {node : Node}
    (h : Node.read pattern = .ok node) : compile pattern =
      if SizeLimit.admits pattern then .ok node.program else .error .tooLarge := by
  unfold compile
  rw [h]
  cases SizeLimit.admits pattern <;> rfl

end Slipway.Regex
