import Mathlib.Data.String.Basic
import Slipway.Proofs.Text.Lines

/-!
# Byte offsets

Places in a text can be counted in bytes, but then not every number is a place between two
characters. The places where the lines of a text are parted are (`IsLineBound.isValid`): the bytes
of the lines above count up to one (`isLineBound_of_keptLines`), and a slice from one to another
holds what stands between (`slice_eq`).
-/

namespace Slipway.Text

variable {text : String} {front mid back : List Char} {above below : List (List Char)}
variable {offset : Nat}

@[simp] theorem byteLength_nil : byteLength [] = 0 := rfl

@[simp] theorem byteLength_append (front back : List Char) :
    byteLength (front ++ back) = byteLength front + byteLength back := by
  unfold byteLength
  rw [String.ofList_append, String.utf8ByteSize_append]

theorem byteLength_toList (text : String) : byteLength text.toList = text.utf8ByteSize := by
  rw [byteLength, String.ofList_toList]

/-- The part of a text between two byte offsets. -/
def slice (text : String) (start stop : Nat) : String :=
  String.Pos.Raw.extract text ⟨start⟩ ⟨stop⟩

/-- Slicing gives the part that stands between two places. -/
theorem slice_eq (h : text.toList = front ++ (mid ++ back)) :
    slice text (byteLength front) (byteLength front + byteLength mid) = String.ofList mid := by
  have htext : text = String.ofList (front ++ mid ++ back) := by
    rw [List.append_assoc, ← h, String.ofList_toList]
  have hmid := String.extract_of_valid front mid back
  rw [← htext] at hmid
  simpa only [slice, byteLength, String.utf8ByteSize_ofList] using hmid

/-! ## Where lines are parted -/

/-- A byte offset at which a line of a text starts, or at which the text ends. -/
def IsLineBound (text : String) (offset : Nat) : Prop :=
  ∃ front back, text.toList = front ++ back ∧ byteLength front = offset ∧
    (AtLineStart front ∨ back = [])

/-- **No character is cut where lines are parted.** -/
theorem IsLineBound.isValid (h : IsLineBound text offset) :
    (String.Pos.Raw.mk offset).IsValid text := by
  obtain ⟨front, back, htext, rfl, -⟩ := h
  rw [String.Pos.Raw.isValid_iff_exists_append]
  refine ⟨String.ofList front, String.ofList back, ?_, rfl⟩
  rw [← String.ofList_append, ← htext, String.ofList_toList]

/-- The lines of a text are parted at its line bounds. -/
theorem isLineBound_of_keptLines (h : keptLines text.toList = above ++ below) :
    IsLineBound text (byteLength above.flatten) := by
  refine ⟨above.flatten, below.flatten, ?_, rfl, ?_⟩
  · rw [← List.flatten_append, ← h, flatten_keptLines]
  · cases below with
    | nil => exact Or.inr rfl
    | cons line below =>
      have hcut := wellCut_keptLines text.toList
      rw [h] at hcut
      exact Or.inl (atLineStart_flatten hcut.terminated)

end Slipway.Text
