/-!
# Search in texts

Model of `str::find` and `str::replace`, with the marker `PLACEHOLDER` of `keel_core::files`.
Looking for a text inside another one: the first occurrence, the replacement of every occurrence,
and the expansion of the marker `{version}` in a template.
-/

namespace Slipway.Text

/-- The rest of a text after a given beginning. -/
def after? : (start text : List Char) → Option (List Char)
  | [], text => some text
  | _ :: _, [] => none
  | s :: start, c :: text => if s = c then after? start text else none

/-- Splits a text at the first occurrence of `needle`: what stands before and after it. -/
def split? (needle : List Char) : List Char → Option (List Char × List Char)
  | [] => if needle = [] then some ([], []) else none
  | c :: cs =>
    match after? needle (c :: cs) with
    | some rest => some ([], rest)
    | none => (split? needle cs).map fun (before, rest) => (c :: before, rest)

/-- Whether `needle` occurs in a text. -/
def occursIn (needle text : List Char) : Bool := (split? needle text).isSome

theorem eq_append_of_after? {start text rest : List Char} (h : after? start text = some rest) :
    text = start ++ rest := by
  induction start generalizing text with
  | nil => simpa [after?] using h
  | cons s start ih =>
    cases text with
    | nil => simp [after?] at h
    | cons c text =>
      by_cases hc : s = c
      · simp only [after?, hc, if_true] at h
        simp [hc, ih h]
      · simp [after?, hc] at h

theorem after?_append (start rest : List Char) : after? start (start ++ rest) = some rest := by
  induction start with
  | nil => rfl
  | cons s start ih => simp [after?, ih]

/-- Replaces the occurrences of `needle`, from the left and without overlap. The counter skips the
characters of an occurrence that has been replaced. -/
def replaceFrom (needle replacement : List Char) : Nat → List Char → List Char
  | _, [] => []
  | skip + 1, _ :: cs => replaceFrom needle replacement skip cs
  | 0, c :: cs =>
    if needle.isPrefixOf (c :: cs) then
      replacement ++ replaceFrom needle replacement (needle.length - 1) cs
    else c :: replaceFrom needle replacement 0 cs

/-- Replaces every occurrence of a nonempty `needle`. -/
def replace (needle replacement text : List Char) : List Char :=
  replaceFrom needle replacement 0 text

/-- `PLACEHOLDER`: the marker that templates hold in place of a version. -/
def versionMarker : List Char := "\x7bversion\x7d".toList

/-- Expands the marker of a template. -/
def expand (template version : List Char) : List Char := replace versionMarker version template

/-- Expands the marker of a template. -/
def expandString (template version : String) : String :=
  String.ofList (expand template.toList version.toList)

end Slipway.Text
