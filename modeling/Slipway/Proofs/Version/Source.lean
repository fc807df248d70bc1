import Slipway.Proofs.Artifact.Substitute
import Slipway.Proofs.Artifact.Update
import Slipway.Proofs.Text.Lines
import Slipway.Proofs.Version.Text
import Slipway.Version.Source

/-!
# Reading back the version that was written

About `read_toml_version` and `VersionedArtifact::substitute` (`keel_core::files`). By default the
version is read from the first line that starts with an assignment to `version`, with blanks
wherever they may stand, and is written at the first occurrence of the assignment as it is usually
spelled, wherever that is. `read_updated` says when the two meet: the occurrence is the first
assignment, and only blanks stand before it since the start of a line.

* `assignment?_append_opening`: reading an assignment in a text that goes on with one.
* `scan_meets`: where a scan over such a text stops (`Meets`).
-/

namespace Slipway.VersionSource

open Disk

variable {cs f rest value front : List Char} {t : List Char} {s : Char} {b : Bool}

/-! ## Tokens -/

/-- Reads a token after blanks. -/
def token? (t cs : List Char) : Option (List Char) := Text.after? t (Text.trimStart cs)

theorem after?_append (h : Text.after? t cs = some rest) (more : List Char) :
    Text.after? t (cs ++ more) = some (rest ++ more) := by
  rw [Text.after?_eq_some_iff] at h ⊢
  rw [h, List.append_assoc]

/-- A character that a token lacks does not complete it. -/
theorem after?_append_cons (hs : s ∉ t) (h : Text.after? t cs = none) (more : List Char) :
    Text.after? t (cs ++ s :: more) = none := by
  induction t generalizing cs with
  | nil => exact absurd h (by simp [Text.after?])
  | cons c t ih =>
    rw [List.mem_cons, not_or] at hs
    cases cs with
    | nil => exact if_neg (Ne.symm hs.1)
    | cons c' cs =>
      by_cases hc : c = c'
      · have hrest : Text.after? t cs = none := by
          unfold Text.after? at h
          rwa [if_pos hc] at h
        exact (if_pos hc).trans (ih hs.2 hrest)
      · exact if_neg hc

/-- A token that was read is read in a longer text. -/
theorem token?_append (h : token? (s :: t) f = some rest) (more : List Char) :
    token? (s :: t) (f ++ more) = some (rest ++ more) := by
  have hf : Text.blank f = false := by
    rw [← Bool.not_eq_true]
    intro hf
    have hnil := Text.trimStart_append_of_blank hf []
    rw [List.append_nil] at hnil
    unfold token? at h
    rw [hnil] at h
    exact absurd h (by simp [Text.trimStart, Text.after?])
  unfold token? at h ⊢
  rw [Text.trimStart_append hf]
  exact after?_append h more

/-- A token that was not read is not read where the text goes on with a `v`, unless it starts
there. -/
theorem token?_append_cons (ht : 'v' ∉ t) (hs : s ≠ 'v' ∨ Text.blank f = false)
    (h : token? (s :: t) f = none) (more : List Char) :
    token? (s :: t) (f ++ 'v' :: more) = none := by
  unfold token? at h ⊢
  cases hf : Text.blank f with
  | true =>
    rw [Text.trimStart_append_of_blank hf]
    show Text.after? (s :: t) (List.dropWhile Text.isBlank ('v' :: more)) = none
    rw [List.dropWhile_cons_of_neg (by decide)]
    exact if_neg (hs.resolve_right (by simp [hf]))
  | false =>
    obtain ⟨c, g, htrim⟩ := Text.exists_trimStart_cons hf
    rw [Text.trimStart_append hf, htrim]
    rw [htrim] at h
    by_cases hc : s = c
    · have hrest : Text.after? t g = none := by
        unfold Text.after? at h
        rwa [if_pos hc] at h
      exact (if_pos hc).trans (after?_append_cons ht hrest more)
    · exact if_neg hc

/-! ## Assignments -/

/-- What follows the quote that opens the value of an assignment. -/
def opened? (cs : List Char) : Option (List Char) :=
  ((token? ['v', 'e', 'r', 's', 'i', 'o', 'n'] cs).bind (token? ['='])).bind (token? ['"'])

/-- The value up to the quote that closes it. -/
def quoted? (cs : List Char) : Option (List Char) :=
  let value := cs.takeWhile (· ≠ '"')
  if value ≠ [] ∧ value.length < cs.length then some value else none

theorem assignment?_eq (cs : List Char) : assignment? cs = (opened? cs).bind quoted? := by
  have hword : "version".toList = ['v', 'e', 'r', 's', 'i', 'o', 'n'] := by decide
  unfold assignment? opened? token?
  simp only [bind, Option.bind_assoc, hword]
  rfl

theorem opened?_append (h : opened? f = some rest) (more : List Char) :
    opened? (f ++ more) = some (rest ++ more) := by
  unfold opened? at h ⊢
  obtain ⟨cs₂, h₂, h₃⟩ := Option.bind_eq_some_iff.mp h
  obtain ⟨cs₁, h₁, h₂⟩ := Option.bind_eq_some_iff.mp h₂
  rw [token?_append h₁, Option.bind_some, token?_append h₂, Option.bind_some, token?_append h₃]

/-- An assignment that has begun is not completed where the text goes on with a `v`. -/
theorem opened?_append_cons (hf : Text.blank f = false) (h : opened? f = none)
    (more : List Char) : opened? (f ++ 'v' :: more) = none := by
  unfold opened? at h ⊢
  cases h₁ : token? ['v', 'e', 'r', 's', 'i', 'o', 'n'] f with
  | none => rw [token?_append_cons (by decide) (Or.inr hf) h₁, Option.bind_none, Option.bind_none]
  | some cs₁ =>
    rw [h₁, Option.bind_some] at h
    rw [token?_append h₁, Option.bind_some]
    cases h₂ : token? ['='] cs₁ with
    | none => rw [token?_append_cons (by decide) (Or.inl (by decide)) h₂, Option.bind_none]
    | some cs₂ =>
      rw [h₂, Option.bind_some] at h
      rw [token?_append h₂, Option.bind_some]
      exact token?_append_cons (by decide) (Or.inl (by decide)) h more

theorem quoted?_between (hne : value ≠ []) (h : '"' ∉ value) (more : List Char) :
    quoted? (value ++ '"' :: more) = some value := by
  unfold quoted?
  rw [takeWhile_append_cons h]
  exact if_pos ⟨hne, by simp⟩

theorem quoted?_of_not_mem (h : '"' ∉ f) : quoted? f = none := by
  have hall := takeWhile_append_of_not_mem h []
  rw [List.append_nil, List.takeWhile_nil, List.append_nil] at hall
  unfold quoted?
  rw [hall]
  exact if_neg fun hlt => Nat.lt_irrefl _ hlt.2

/-- What follows the quote does not matter. -/
theorem quoted?_append (h : '"' ∈ f) (more : List Char) : quoted? (f ++ more) = quoted? f := by
  obtain ⟨value, after, rfl, hvalue⟩ := List.eq_append_cons_of_mem h
  rw [List.append_assoc, List.cons_append]
  by_cases hne : value = []
  · rw [hne]
    rfl
  · rw [quoted?_between hne hvalue, quoted?_between hne hvalue]

/-- An assignment up to its value, as it is usually spelled. -/
def opening : List Char := "version = \"".toList

theorem opening_eq : opening = 'v' :: "ersion = \"".toList := by decide

theorem opening_eq_append : opening = "version = ".toList ++ ['"'] := by decide

theorem assignment?_of_blank (hf : Text.blank f = true) : assignment? f = none := by
  unfold assignment?
  rw [Text.trimStart_eq_nil_iff.mpr hf]
  rfl

theorem assignment?_blank_append_opening (hf : Text.blank f = true) (cs : List Char) :
    assignment? (f ++ opening ++ cs) = quoted? cs := by
  unfold assignment?
  rw [List.append_assoc, Text.trimStart_append_of_blank hf]
  rfl

/-- In a text that goes on with an assignment, a line that has begun reads as it does on its own,
unless its value runs into that assignment. -/
theorem assignment?_append_opening (hf : Text.blank f = false) :
    (∀ cs, assignment? (f ++ opening ++ cs) = assignment? f) ∨
      (assignment? f = none ∧
        ∃ value, 'v' ∈ value ∧ ∀ cs, assignment? (f ++ opening ++ cs) = some value) := by
  simp only [assignment?_eq]
  cases ho : opened? f with
  | none =>
    refine Or.inl fun cs => ?_
    rw [List.append_assoc, opening_eq, List.cons_append, opened?_append_cons hf ho]
  | some rest =>
    simp only [Option.bind_some]
    -- the value has been opened; it is closed before the assignment, or by its opening quote
    by_cases hq : '"' ∈ rest
    · refine Or.inl fun cs => ?_
      rw [List.append_assoc, opened?_append ho, Option.bind_some, quoted?_append hq]
    · refine Or.inr ⟨quoted?_of_not_mem hq, rest ++ "version = ".toList, ?_, fun cs => ?_⟩
      · exact List.mem_append_right rest (by decide)
      · have hvalue : '"' ∉ rest ++ "version = ".toList := by
          rw [List.mem_append, not_or]
          exact ⟨hq, by decide⟩
        rw [List.append_assoc, opened?_append ho, Option.bind_some, opening_eq_append,
          List.append_assoc, ← List.append_assoc]
        exact quoted?_between (by simp) hvalue cs

/-! ## Scanning lines -/

/-- Only blanks stand at the end of a text since the start of a line. -/
def Indented (front : List Char) : Prop :=
  ∃ before blanks, front = before ++ blanks ∧ Text.AtLineStart before ∧ Text.blank blanks = true

/-- The same for the rest of a text; the flag tells that it starts a line. -/
def IndentedFrom : (atStart : Bool) → List Char → Prop
  | atStart, [] => atStart = true
  | atStart, c :: cs => (atStart = true ∧ Text.blank (c :: cs) = true) ∨ IndentedFrom (c == '\n') cs

theorem indentedFrom_iff (b : Bool) (front : List Char) : IndentedFrom b front ↔
    ∃ before blanks, front = before ++ blanks ∧ Text.blank blanks = true ∧
      (before = [] ∧ b = true ∨ ∃ more, before = more ++ ['\n']) := by
  induction front generalizing b with
  | nil =>
    unfold IndentedFrom
    constructor
    · rintro rfl
      exact ⟨[], [], rfl, rfl, Or.inl ⟨rfl, rfl⟩⟩
    · rintro ⟨before, blanks, hnil, -, ⟨-, hb⟩ | ⟨more, rfl⟩⟩
      · exact hb
      · exact absurd hnil (by simp)
  | cons c front ih =>
    unfold IndentedFrom
    rw [ih]
    constructor
    · rintro (⟨hb, hblank⟩ | ⟨before, blanks, rfl, hblank, ⟨rfl, hc⟩ | ⟨more, rfl⟩⟩)
      · exact ⟨[], c :: front, rfl, hblank, Or.inl ⟨rfl, hb⟩⟩
      · rw [beq_iff_eq] at hc
        exact ⟨[c], blanks, rfl, hblank, Or.inr ⟨[], by rw [hc]; rfl⟩⟩
      · exact ⟨c :: more ++ ['\n'], blanks, rfl, hblank, Or.inr ⟨c :: more, rfl⟩⟩
    · rintro ⟨before, blanks, hfront, hblank, ⟨rfl, hb⟩ | ⟨more, rfl⟩⟩
      · rw [List.nil_append] at hfront
        exact Or.inl ⟨hb, hfront ▸ hblank⟩
      · cases more with
        | nil =>
          obtain ⟨rfl, rfl⟩ := List.cons.inj hfront
          exact Or.inr ⟨[], front, rfl, hblank, Or.inl ⟨rfl, rfl⟩⟩
        | cons c' more =>
          obtain ⟨rfl, rfl⟩ := List.cons.inj hfront
          exact Or.inr ⟨more ++ ['\n'], blanks, rfl, hblank, Or.inr ⟨more, rfl⟩⟩

theorem indentedFrom_true_iff : IndentedFrom true front ↔ Indented front := by
  rw [indentedFrom_iff]
  unfold Indented Text.AtLineStart
  simp only [and_true]
  constructor
  · rintro ⟨before, blanks, hfront, hblank, hstart⟩
    exact ⟨before, blanks, hfront, hstart, hblank⟩
  · rintro ⟨before, blanks, hfront, hstart, hblank⟩
    exact ⟨before, blanks, hfront, hblank, hstart⟩

theorem scanLines?_cons (b : Bool) (c : Char) (cs : List Char) : scanLines? b (c :: cs) =
    ((if b then assignment? (c :: cs) else none).or (scanLines? (c == '\n') cs)) := by
  rw [scanLines?]
  cases (if b then assignment? (c :: cs) else none) with
  | none => rfl
  | some value => rfl

theorem scanLines?_append_opening (b : Bool) (c : Char) (front cs : List Char) :
    scanLines? b (c :: front ++ opening ++ cs) =
      ((if b then assignment? (c :: front ++ opening ++ cs) else none).or
        (scanLines? (c == '\n') (front ++ opening ++ cs))) :=
  scanLines?_cons b c _

/-- Inside of a line there is nothing to be found. -/
theorem scanLines?_line (h : '\n' ∉ f) (cs : List Char) :
    scanLines? false (f ++ cs) = scanLines? false cs := by
  induction f with
  | nil => rfl
  | cons c f ih =>
    rw [List.mem_cons, not_or] at h
    have hc : (c == '\n') = false := beq_eq_false_iff_ne.mpr (Ne.symm h.1)
    rw [List.cons_append, scanLines?_cons, hc, ih h.2]
    rfl

theorem scanLines?_of_blank (hf : Text.blank f = true) : scanLines? b f = none := by
  induction f generalizing b with
  | nil => rfl
  | cons c f ih =>
    have hrest : Text.blank f = true := by
      unfold Text.blank at hf ⊢
      rw [List.all_cons, Bool.and_eq_true] at hf
      exact hf.2
    rw [scanLines?_cons, ih hrest, assignment?_of_blank hf]
    cases b with
    | true => rfl
    | false => rfl

/-- Where the scan of a text stops that goes on with an assignment: at a value that runs into the
assignment, at a value before it, at the assignment, or after it. -/
inductive Meets (b : Bool) (front : List Char) : Prop
  | garbled (value : List Char) (hv : 'v' ∈ value)
    (h : ∀ cs, scanLines? b (front ++ opening ++ cs) = some value)
  | before (value : List Char) (hf : scanLines? b front = some value)
    (h : ∀ cs, scanLines? b (front ++ opening ++ cs) = some value)
  | here (hf : scanLines? b front = none) (hi : IndentedFrom b front)
    (h : ∀ cs value, quoted? cs = some value → scanLines? b (front ++ opening ++ cs) = some value)
  | after (hi : ¬ IndentedFrom b front)
    (h : ∀ cs, scanLines? b (front ++ opening ++ cs) = scanLines? false cs)

/-- Where nothing is found at the first character, a scan goes on after it. -/
theorem Meets.cons {c : Char} (h : Meets (c == '\n') cs)
    (hi : IndentedFrom b (c :: cs) ↔ IndentedFrom (c == '\n') cs)
    (hf : scanLines? b (c :: cs) = scanLines? (c == '\n') cs)
    (hs : ∀ more, scanLines? b (c :: cs ++ opening ++ more) =
      scanLines? (c == '\n') (cs ++ opening ++ more)) : Meets b (c :: cs) := by
  cases h with
  | garbled value hv h => exact .garbled value hv fun more => (hs more).trans (h more)
  | before value hf' h =>
    exact .before value (hf.trans hf') fun more => (hs more).trans (h more)
  | here hf' hi' h =>
    exact .here (hf.trans hf') (hi.mpr hi') fun more value hq => (hs more).trans (h more value hq)
  | after hi' h => exact .after (fun hin => hi' (hi.mp hin)) fun more => (hs more).trans (h more)

/-- **Where a scan stops** in a text that goes on with an assignment. -/
theorem scan_meets (b : Bool) (front : List Char) : Meets b front := by
  induction front generalizing b with
  | nil =>
    cases b with
    | true =>
      refine .here rfl rfl fun cs value hq => ?_
      have hread := assignment?_blank_append_opening (f := []) rfl cs
      rw [List.nil_append, opening_eq, List.cons_append] at hread ⊢
      rw [scanLines?_cons, if_pos rfl, hread, hq]
      rfl
    | false => exact .after (by simp [IndentedFrom]) fun cs => scanLines?_line (by decide) cs
  | cons c front ih =>
    cases b with
    | false =>
      refine (ih (c == '\n')).cons ?_ rfl fun more => rfl
      simp [IndentedFrom]
    | true =>
      cases hblank : Text.blank (c :: front) with
      | true =>
        refine .here (scanLines?_of_blank hblank) (Or.inl ⟨rfl, hblank⟩) fun cs value hq => ?_
        rw [scanLines?_append_opening, if_pos rfl, assignment?_blank_append_opening hblank, hq]
        rfl
      | false =>
        have hindent : IndentedFrom true (c :: front) ↔ IndentedFrom (c == '\n') front := by
          simp [IndentedFrom, hblank]
        -- the line has begun before the assignment
        rcases assignment?_append_opening hblank with hsame | ⟨-, value, hv, hread⟩
        · cases hvalue : assignment? (c :: front) with
          | none =>
            refine (ih (c == '\n')).cons hindent ?_ fun more => ?_
            · rw [scanLines?_cons, if_pos rfl, hvalue, Option.none_or]
            · rw [scanLines?_append_opening, if_pos rfl, hsame, hvalue, Option.none_or]
          | some value =>
            refine .before value ?_ fun cs => ?_
            · rw [scanLines?_cons, if_pos rfl, hvalue, Option.some_or]
            · rw [scanLines?_append_opening, if_pos rfl, hsame, hvalue, Option.some_or]
        · refine .garbled value hv fun cs => ?_
          rw [scanLines?_append_opening, if_pos rfl, hread, Option.some_or]

/-! ## Reading back -/

/-- The assignment of a version, as it is usually spelled. -/
def written (v : Version) : List Char := opening ++ v.text.toList ++ ['"']

theorem append_written (front : List Char) (v : Version) (back : List Char) :
    front ++ written v ++ back = front ++ opening ++ (v.text.toList ++ '"' :: back) := by
  simp [written, List.append_assoc]

theorem quoted?_text (v : Version) (back : List Char) :
    quoted? (v.text.toList ++ '"' :: back) = some v.text.toList := by
  refine quoted?_between ?_ (v.not_mem_text (by decide) (by decide)) back
  rw [Version.toList_text]
  simp

theorem scanLines?_text (v : Version) (back : List Char) :
    scanLines? false (v.text.toList ++ '"' :: back) = scanLines? false back := by
  rw [scanLines?_line (v.not_mem_text (by decide) (by decide))]
  exact scanLines?_line (by decide : '\n' ∉ ['"']) back

/-- What the default artifact looks for, and what it writes. -/
theorem expand_default (v : Version) :
    Text.expand "version = \"\x7bversion\x7d\"".toList v.text.toList = written v := by
  have htemplate : "version = \"\x7bversion\x7d\"".toList =
      opening ++ Text.versionMarker ++ ['"'] := by decide
  rw [htemplate]
  rfl

section

variable [Regex.SizeLimit] {d d' : Disk} {root text : String} {v w : Version} {a : Artifact}
variable {kind : BumpKind} {after : Substitution}

theorem substitute_default (ha : a ∈ Config.defaultArtifacts)
    (h : a.substitute text v w = .ok (some after)) :
    ∃ front back, Text.split? (written v) text.toList = some (front, back) ∧
      after = ⟨String.ofList (front ++ written w ++ back), 1⟩ := by
  obtain rfl := List.mem_singleton.mp ha
  have hne : Text.expand "version = \"\x7bversion\x7d\"".toList v.text.toList ≠ [] := by
    rw [expand_default]
    exact List.append_ne_nil_of_right_ne_nil _ (by simp)
  rw [Artifact.substitute_first rfl rfl (by decide) (by decide) text v w hne] at h
  obtain ⟨⟨front, back⟩, hsplit, rfl⟩ := Option.map_eq_some_iff.mp (Except.ok.inj h)
  refine ⟨front, back, expand_default v ▸ hsplit, ?_⟩
  rw [← expand_default w]
  rfl

/-- Reading the version with the default settings. -/
theorem read_default (h : d.readText (Path.join root "Cargo.toml") = .ok text) :
    read root d {} = .ok v ↔
      ∃ raw, ofToml? text.toList = some raw ∧ Version.parse? (String.ofList raw) = some v := by
  obtain ⟨hleads, hat⟩ := lookup_eq_ok_iff.mp (readText_eq_ok_iff.mp h)
  have hthere : d.pathExists (Path.join root "Cargo.toml") = true :=
    pathExists_iff.mpr ⟨hleads, by rw [hat]; simp⟩
  have hformat : format {} (Path.join root "Cargo.toml") = .toml := by
    have hname : Path.Plain "Cargo.toml" := ⟨by decide, by decide, by decide⟩
    unfold format
    rw [Path.fileName?_join root hname]
    rfl
  unfold read
  simp only [hthere, hformat, ofDisk_eq_ok_iff.mpr h, raw, raw.found, bind, Except.bind]
  cases ofToml? text.toList with
  | none => simp
  | some value => simpa using Version.parse_eq_ok_iff

/-- **When the version that was written is read back.** The default artifact writes it at the first
assignment that is usually spelled, and the old version is read on unless this is the first
assignment at all and starts its line. -/
theorem read_updated (hread : read root d {} = .ok v) (hbump : v.bump? kind = some w)
    (ha : a ∈ Config.defaultArtifacts) (htext : d.readText (a.fullPath root) = .ok text)
    (hsub : a.substitute text v w = .ok (some after))
    (hnew : d'.readText (a.fullPath root) = .ok after.text) :
    ∃ front back, Text.split? (written v) text.toList = some (front, back) ∧
      after = ⟨String.ofList (front ++ written w ++ back), 1⟩ ∧
      (read root d' {} = .ok w ↔ ofToml? front = none ∧ Indented front) ∧
      (read root d' {} = .ok w ∨ read root d' {} = .ok v) := by
  obtain ⟨front, back, hsplit, rfl⟩ := substitute_default ha hsub
  obtain rfl := List.mem_singleton.mp ha
  have hold : text.toList = front ++ opening ++ (v.text.toList ++ '"' :: back) := by
    rw [Text.eq_append_of_split? hsplit, append_written]
  have hne : v ≠ w := Version.bump?_ne hbump
  have hreads : ∀ u, read root d' {} = .ok u ↔ ∃ raw,
      ofToml? (front ++ opening ++ (w.text.toList ++ '"' :: back)) = some raw ∧
        Version.parse? (String.ofList raw) = some u := by
    intro u
    rw [read_default hnew, String.toList_ofList, append_written]
  obtain ⟨raw, hraw, hparse⟩ := (read_default htext).mp hread
  rw [hold] at hraw
  have hkept : ofToml? (front ++ opening ++ (w.text.toList ++ '"' :: back)) = some raw →
      read root d' {} = .ok v := fun h => (hreads v).mpr ⟨raw, h, hparse⟩
  have hkept_ne : read root d' {} = .ok v → read root d' {} ≠ .ok w := fun h h' =>
    hne (Except.ok.inj (h.symm.trans h'))
  refine ⟨front, back, hsplit, rfl, ?_⟩
  unfold ofToml? at hraw hkept hreads ⊢
  cases scan_meets true front with
  | garbled value hv h =>
    -- such a value is no version, and was not read
    rw [h] at hraw
    rw [← Option.some.inj hraw] at hparse
    have hchar := Version.mem_of_parse? hparse (by rwa [String.toList_ofList])
    exact absurd hchar (by decide)
  | before value hf h =>
    have hv := hkept (by rw [h, ← hraw, h])
    refine ⟨iff_of_false (hkept_ne hv) fun hmeets => ?_, Or.inr hv⟩
    rw [hf] at hmeets
    exact absurd hmeets.1 (by simp)
  | here hf hi h =>
    have hw : read root d' {} = .ok w := (hreads w).mpr
      ⟨_, h _ _ (quoted?_text w back), by rw [String.ofList_toList, Version.parse?_text]⟩
    exact ⟨iff_of_true hw ⟨hf, indentedFrom_true_iff.mp hi⟩, Or.inl hw⟩
  | after hi h =>
    have hv := hkept (by rw [h, scanLines?_text, ← hraw, h, scanLines?_text])
    exact ⟨iff_of_false (hkept_ne hv) fun hmeets => hi (indentedFrom_true_iff.mpr hmeets.2),
      Or.inr hv⟩

end

/-- A disk with a manifest in the directory of a project. -/
def manifestDisk (text : String) : Disk :=
  ⟨[(["app"], .directory), (["app", "Cargo.toml"], .file (.text text))]⟩

theorem read_updated_manifest :
    let text := "[package]\nversion = \"1.0.0\"\n"
    let after : Substitution := ⟨"[package]\nversion = \"1.1.0\"\n", 1⟩
    ∃ front back, Text.split? (written ⟨1, 0, 0⟩) text.toList = some (front, back) ∧
      after = ⟨String.ofList (front ++ written ⟨1, 1, 0⟩ ++ back), 1⟩ ∧
      (read "app" (manifestDisk after.text) {} = .ok ⟨1, 1, 0⟩ ↔
        ofToml? front = none ∧ Indented front) ∧
      (read "app" (manifestDisk after.text) {} = .ok ⟨1, 1, 0⟩ ∨
        read "app" (manifestDisk after.text) {} = .ok ⟨1, 0, 0⟩) := by
  intro text after
  have hread : read "app" (manifestDisk text) {} = .ok ⟨1, 0, 0⟩ :=
    ok_of_toOption (by decide +kernel)
  have hbump : Version.bump? ⟨1, 0, 0⟩ .minor = some ⟨1, 1, 0⟩ := by decide
  have htext : (manifestDisk text).readText "app/Cargo.toml" = .ok text :=
    ok_of_toOption (by decide +kernel)
  have hnew : (manifestDisk after.text).readText "app/Cargo.toml" = .ok after.text :=
    ok_of_toOption (by decide +kernel)
  exact read_updated hread hbump (List.mem_singleton_self _) htext
    (ok_of_toOption (by decide +kernel)) hnew

/-- Where another assignment of the same version ends in the same text, that one is written, and the
old version is read on. -/
theorem not_read_back :
    let text := "[package]\nrust-version = \"1.0.0\"\nversion = \"1.0.0\"\n"
    let after := "[package]\nrust-version = \"1.1.0\"\nversion = \"1.0.0\"\n"
    read "app" (manifestDisk text) {} = .ok ⟨1, 0, 0⟩ ∧
      Version.bump? ⟨1, 0, 0⟩ .minor = some ⟨1, 1, 0⟩ ∧
      (∀ a ∈ Config.defaultArtifacts,
        a.substitute text ⟨1, 0, 0⟩ ⟨1, 1, 0⟩ = .ok (some ⟨after, 1⟩)) ∧
      read "app" (manifestDisk after) {} = .ok ⟨1, 0, 0⟩ := by
  refine ⟨ok_of_toOption (by decide +kernel), by decide, fun a ha => ?_,
    ok_of_toOption (by decide +kernel)⟩
  rw [List.mem_singleton.mp ha]
  exact ok_of_toOption (by decide +kernel)

end Slipway.VersionSource
