import Slipway.Proofs.Changelog.Heading
import Slipway.Proofs.Text.Bytes

/-!
# Where a section stands in its text

About `find_section` (`keel_core::changelog`). A section is found as lines, and it can be told by
byte offsets as well: those of its heading and of its body. Each of them parts lines, so no
character is cut by a slice that is taken there, and the slices are the parts of the section
(`Placed`). One pass over the lines that counts the bytes finds the same offsets (`scan_eq`). The
section of a label is missing exactly if no line is a heading of it (`find?_placed`).
-/

namespace Slipway.Changelog

open Text

variable {label line : List Char} {lines : List (List Char)} {s : Section} {text : String}

namespace Section

/-! ## Offsets -/

/-- The byte offsets of a section. -/
structure Range where
  headingStart : Nat
  headingEnd : Nat
  bodyStart : Nat
  bodyEnd : Nat
  deriving DecidableEq, Repr

/-- The byte offsets of the parts of a section. -/
def range (s : Section) : Range := ⟨s.headingStart, s.headingEnd, s.headingEnd, s.bodyEnd⟩

/-- The offsets behind a further text. -/
def Range.shift (offset : Nat) (r : Range) : Range :=
  ⟨offset + r.headingStart, offset + r.headingEnd, offset + r.bodyStart, offset + r.bodyEnd⟩

/-- One pass over the lines from an offset on. `heading` holds the offsets of the heading as soon as
it was found, and then the pass goes on to the line before which the section ends. Without such a
line the body ends with the text, at `size`. -/
def scan (label : List Char) (size : Nat) :
    (heading : Option (Nat × Nat)) → (offset : Nat) → List (List Char) → Option Range
  | none, _, [] => none
  | some (start, stop), _, [] => some ⟨start, stop, stop, size⟩
  | none, offset, line :: lines =>
    let next := offset + byteLength line
    let heading := if headingLabel? line = some label then some (offset, next) else none
    scan label size heading next lines
  | some (start, stop), offset, line :: lines =>
    if endsSection line then some ⟨start, stop, stop, offset⟩
    else scan label size (some (start, stop)) (offset + byteLength line) lines

variable {size offset : Nat}

/-- Behind a heading the pass counts the lines of the body. -/
theorem scan_some (label : List Char) (start stop : Nat)
    (hsize : size = offset + byteLength lines.flatten) :
    scan label size (some (start, stop)) offset lines = some ⟨start, stop, stop,
      offset + byteLength (lines.takeWhile (!endsSection ·)).flatten⟩ := by
  induction lines generalizing offset with
  | nil => rw [scan, hsize, List.takeWhile_nil]
  | cons line lines ih =>
    rw [List.flatten_cons, byteLength_append, ← Nat.add_assoc] at hsize
    unfold scan
    by_cases h : endsSection line = true
    · rw [if_pos h, List.takeWhile_cons_of_neg (by simp [h]), List.flatten_nil, byteLength_nil,
        Nat.add_zero]
    · rw [if_neg h, ih hsize, List.takeWhile_cons_of_pos (by simp [h]), List.flatten_cons,
        byteLength_append, Nat.add_assoc]

/-- Before the heading it counts the lines above. -/
theorem scan_none (label : List Char) (hsize : size = offset + byteLength lines.flatten) :
    scan label size none offset lines = (find? label lines).map fun s => s.range.shift offset := by
  induction lines generalizing offset with
  | nil => rfl
  | cons line lines ih =>
    rw [List.flatten_cons, byteLength_append, ← Nat.add_assoc] at hsize
    rw [scan, find?]
    by_cases h : headingLabel? line = some label
    · rw [if_pos h, if_pos h, scan_some label _ _ hsize]
      simp [range, Range.shift, headingStart, headingEnd, bodyEnd, bodyText, Nat.add_assoc]
    · rw [if_neg h, if_neg h, ih hsize, Option.map_map]
      congr 1
      funext s
      simp [range, Range.shift, headingStart, headingEnd, bodyEnd, bodyText, Nat.add_assoc]

/-- **One pass that counts bytes** finds the offsets of the section that is found. -/
theorem scan_eq (label : List Char) (text : String) :
    scan label text.utf8ByteSize none 0 (keptLines text.toList) =
      (find? label (keptLines text.toList)).map range := by
  rw [scan_none label]
  · simp [Range.shift]
  · rw [flatten_keptLines, byteLength_toList, Nat.zero_add]

/-- The offsets from which slices of a text are taken. -/
def offsets (s : Section) : List Nat := [s.headingStart, s.headingEnd, s.bodyEnd]

end Section

/-! ## The place of a section -/

/-- A line before which a section ends: a heading of any label, or a link definition. -/
def IsStop (line : List Char) : Prop := (∃ label, IsHeading label line) ∨ IsDefinition line

/-- The slices of a text at the offsets of a section are its parts. -/
structure Sliced (text : String) (s : Section) : Prop where
  before : slice text 0 s.headingStart = String.ofList s.before.flatten
  heading : slice text s.headingStart s.headingEnd = String.ofList s.heading
  body : slice text s.headingEnd s.bodyEnd = String.ofList s.bodyText
  rest : slice text s.bodyEnd text.utf8ByteSize = String.ofList s.rest.flatten

/-- Where the section of a label stands in a text. -/
structure Placed (text : String) (label : List Char) (s : Section) : Prop where
  /-- The parts of the section are the lines of the text. -/
  lines : keptLines text.toList = s.before ++ s.heading :: (s.body ++ s.rest)
  /-- The heading has the label, -/
  heading : IsHeading label s.heading
  /-- and no line above it does. -/
  first : ∀ line ∈ s.before, ¬ IsHeading label line
  /-- No line of the body ends a section. -/
  body : ∀ line ∈ s.body, ¬ IsStop line
  /-- The text ends behind the body, or a line that ends the section follows. -/
  rest : s.rest = [] ∨ ∃ line below, s.rest = line :: below ∧ IsStop line
  /-- The offsets follow one another up to the end of the text. -/
  ordered : s.headingStart ≤ s.headingEnd ∧ s.headingEnd ≤ s.bodyEnd ∧
    s.bodyEnd ≤ text.utf8ByteSize
  /-- At each of them a line starts, or the text ends. -/
  bounds : ∀ offset ∈ s.offsets, IsLineBound text offset
  /-- So none of them stands inside of a character. -/
  valid : ∀ offset ∈ s.offsets, (String.Pos.Raw.mk offset).IsValid text
  /-- The slices that are taken at them are the parts of the section. -/
  sliced : Sliced text s

theorem IsFirst.not_endsSection (h : IsFirst label s) (hm : line ∈ s.body) :
    endsSection line = false := by
  rw [← h.body] at hm
  simpa using List.all_eq_true.mp List.all_takeWhile line hm

/-- The body goes on up to a line before which the section ends. -/
theorem IsFirst.rest_cases (h : IsFirst label s) :
    s.rest = [] ∨ ∃ line below, s.rest = line :: below ∧ endsSection line = true := by
  cases hrest : s.rest with
  | nil => exact Or.inl rfl
  | cons line below =>
    refine Or.inr ⟨line, below, rfl, Classical.byContradiction fun hline => ?_⟩
    -- the body would have gone on with this line
    have hbody := h.body
    have hall : ∀ l ∈ s.body, (!endsSection l) = true := fun l hl => by simp [h.not_endsSection hl]
    rw [hrest, List.takeWhile_append_of_pos hall, List.takeWhile_cons_of_pos (by simpa using hline)]
      at hbody
    exact absurd hbody (by simp)

namespace Section

/-- The bytes of a text are those up to the end of the body and those of the rest. -/
theorem utf8ByteSize_eq
    (h : text.toList = s.before.flatten ++ (s.heading ++ (s.bodyText ++ s.rest.flatten))) :
    text.utf8ByteSize = s.bodyEnd + byteLength s.rest.flatten := by
  rw [← byteLength_toList, h]
  simp [bodyEnd, headingEnd, headingStart, Nat.add_assoc]

theorem sliced_of_eq
    (h : text.toList = s.before.flatten ++ (s.heading ++ (s.bodyText ++ s.rest.flatten))) :
    Sliced text s := by
  have hbefore : text.toList =
      [] ++ (s.before.flatten ++ (s.heading ++ (s.bodyText ++ s.rest.flatten))) := h
  have hbody : text.toList =
      (s.before.flatten ++ s.heading) ++ (s.bodyText ++ s.rest.flatten) := by
    rw [h, List.append_assoc]
  have hrest : text.toList =
      (s.before.flatten ++ s.heading ++ s.bodyText) ++ (s.rest.flatten ++ []) := by
    rw [h]
    simp only [List.append_assoc, List.append_nil]
  refine ⟨?_, slice_eq h, ?_, ?_⟩
  · have hslice := slice_eq hbefore
    rwa [byteLength_nil, Nat.zero_add] at hslice
  · have hslice := slice_eq hbody
    rwa [byteLength_append] at hslice
  · have hslice := slice_eq hrest
    rw [byteLength_append, byteLength_append] at hslice
    rwa [utf8ByteSize_eq h]

/-- The offsets of the parts of a text part its lines. -/
theorem isLineBound_of_mem_offsets
    (h : keptLines text.toList = s.before ++ s.heading :: (s.body ++ s.rest)) {offset : Nat}
    (hm : offset ∈ s.offsets) : IsLineBound text offset := by
  have hend : keptLines text.toList = (s.before ++ [s.heading]) ++ (s.body ++ s.rest) := by
    simpa using h
  have hbody : keptLines text.toList = (s.before ++ s.heading :: s.body) ++ s.rest := by
    simpa using h
  simp only [offsets, List.mem_cons, List.not_mem_nil, or_false] at hm
  rcases hm with rfl | rfl | rfl
  · exact isLineBound_of_keptLines h
  · have hbound := isLineBound_of_keptLines hend
    simpa [headingEnd, headingStart] using hbound
  · have hbound := isLineBound_of_keptLines hbody
    simpa [bodyEnd, headingEnd, headingStart, bodyText, Nat.add_assoc] using hbound

end Section

theorem placed_of_find? (h : Section.find? label (keptLines text.toList) = some s) :
    Placed text label s := by
  have hlines := Section.lines_of_find? h
  have hfirst := isFirst_of_find? h
  have htext : text.toList =
      s.before.flatten ++ (s.heading ++ (s.bodyText ++ s.rest.flatten)) := by
    rw [← flatten_keptLines text.toList, hlines]
    simp [Section.bodyText]
  have hsize := Section.utf8ByteSize_eq htext
  have hbounds : ∀ offset ∈ s.offsets, IsLineBound text offset := fun offset hm =>
    Section.isLineBound_of_mem_offsets hlines hm
  refine ⟨hlines, headingLabel?_eq_some_iff.mp hfirst.heading, ?_, ?_, ?_, ?_, hbounds,
    fun offset hm => (hbounds offset hm).isValid, Section.sliced_of_eq htext⟩
  · intro line hm hline
    exact hfirst.before (mem_labelsOf.mpr ⟨line, hm, hline⟩)
  · intro line hm hstop
    exact absurd (endsSection_iff.mpr hstop) (by simp [hfirst.not_endsSection hm])
  · refine hfirst.rest_cases.imp_right fun ⟨line, below, hrest, hline⟩ => ?_
    exact ⟨line, below, hrest, endsSection_iff.mp hline⟩
  · refine ⟨Nat.le_add_right _ _, Nat.le_add_right _ _, ?_⟩
    rw [hsize]
    exact Nat.le_add_right _ _

/-- **The section of a label is missing** exactly if no line is a heading of it. Otherwise it stands
at the first one, between byte offsets that part lines, and one pass over the lines counts them. -/
theorem find?_placed (c : Changelog) (label : String) :
    (c.find? label = none ↔ ∀ line ∈ keptLines c.text.toList, ¬ IsHeading label.toList line) ∧
      (∀ s, c.find? label = some s → Placed c.text label.toList s) ∧
      Section.scan label.toList c.text.utf8ByteSize none 0 (keptLines c.text.toList) =
        (c.find? label).map Section.range := by
  refine ⟨?_, fun s hs => placed_of_find? hs, Section.scan_eq label.toList c.text⟩
  rw [find?, find?_eq_none_iff, mem_labelsOf]
  simp

/-- A changelog with characters of several bytes, line ends of both kinds and a last line without
one. -/
def accented : Changelog where
  text := "# Ä\r\n## [Unreleased]\n- ü\r\n\n[ü]: u"
  tagPrefix := "v"

theorem find?_placed_accented : ∃ s, accented.find? "Unreleased" = some s ∧
    s.range = ⟨6, 22, 22, 29⟩ ∧ Placed accented.text "Unreleased".toList s := by
  have hrange : (accented.find? "Unreleased").map Section.range = some ⟨6, 22, 22, 29⟩ := by
    decide +kernel
  obtain ⟨s, hs, hr⟩ := Option.map_eq_some_iff.mp hrange
  exact ⟨s, hs, hr, (find?_placed accented "Unreleased").2.1 s hs⟩

end Slipway.Changelog
