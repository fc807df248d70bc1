import Slipway.Changelog.Link
import Slipway.Proofs.Regex.Reader

/-!
# The expression of the compare link

About `ChangelogLedger::rewrite_links` (`keel_core::changelog`). The regular expression of a compare
link is put together around the tag prefix, which is escaped. So it can be read whatever the prefix
is, and only the limit on its size may refuse it (`rewrite_eq`). This is the one way in which a
promotion can fail after its sections were found.
-/

namespace Slipway.Changelog.CompareLink

open Regex

/-- The switches of the expression: its anchors are about lines. -/
def lineFlags : Flags := { Flags.initial with multiLine := true }

/-- What stands before the tag prefix is read. -/
theorem exists_items_front (rest : List Char) : ∃ r, Reading.Flat lineFlags 2 r ∧
    Reading.start.items 30 ("(?m)^\\[".toList ++ pendingLabel.toList ++
      "\\]:[ \\t]*(\\S+)/compare/".toList ++ rest) = .ok (r, rest) := by
  refine ⟨_, ⟨rfl, rfl, rfl, ?_⟩, rfl⟩
  decide

/-- What stands after the tag prefix is read. -/
theorem exists_items_back {r : Reading} (h : r.Flat lineFlags 2) : ∃ r', r'.Flat lineFlags 2 ∧
    r.items 16 "(\\S+?)\\.\\.\\.HEAD[ \\t]*\\r?$".toList = .ok (r', []) := by
  obtain ⟨pending, sequence, alternatives, flags, groups, names⟩ := r
  obtain ⟨rfl, rfl, rfl, hshallow⟩ := h
  refine ⟨_, ⟨rfl, rfl, rfl, ?_⟩, rfl⟩
  -- the new pieces, one by one, and then those of before
  repeat refine List.forall_mem_cons.mpr ⟨of_decide_eq_true rfl, ?_⟩
  exact hshallow

/-- **The expression of the link** can be read, whatever the tag prefix is. -/
theorem exists_read_pattern (tagPrefix : List Char) :
    ∃ node, Node.read (pattern tagPrefix) = .ok node := by
  let front := "(?m)^\\[".toList ++ pendingLabel.toList ++ "\\]:[ \\t]*(\\S+)/compare/".toList
  let back := "(\\S+?)\\.\\.\\.HEAD[ \\t]*\\r?$".toList
  obtain ⟨r, hflat, hfront⟩ := exists_items_front (escape tagPrefix ++ back)
  have hspace : r.flags.ignoreSpace = false := by
    rw [hflat.flags]
    rfl
  obtain ⟨r', hflat', hback⟩ := exists_items_back (hflat.addLiterals tagPrefix)
  have hall := Reading.items_trans
    (Reading.items_trans hfront (Reading.items_escape hspace tagPrefix back)) hback
  rw [← List.append_assoc] at hall
  refine exists_read hall ?_ hflat' (by decide)
  have hlen : (front ++ escape tagPrefix ++ back).length =
      front.length + (escape tagPrefix).length + back.length := by
    rw [List.length_append, List.length_append]
  have hfrontLength : 30 ≤ front.length := by decide
  have hbackLength : 16 ≤ back.length := by decide
  have hescape := Reading.length_le_escape tagPrefix
  show 30 + tagPrefix.length + 16 ≤ (front ++ escape tagPrefix ++ back).length
  omega

variable [SizeLimit]

/-- **A link is rewritten** unless the expression is too large for the engine. -/
theorem rewrite_eq (tagPrefix version text : List Char) : rewrite tagPrefix version text =
    if SizeLimit.admits (pattern tagPrefix) then .ok (advance tagPrefix version text)
    else .error (.invalidPattern (String.ofList (pattern tagPrefix)) Defect.tooLarge.message) := by
  obtain ⟨node, hnode⟩ := exists_read_pattern tagPrefix
  unfold rewrite
  rw [compile_of_read hnode]
  cases SizeLimit.admits (pattern tagPrefix) <;> rfl

end Slipway.Changelog.CompareLink
