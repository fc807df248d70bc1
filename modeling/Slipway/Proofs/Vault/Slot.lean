import Slipway.Proofs.Disk.Change
import Slipway.Proofs.Text.Numeral
import Slipway.Vault.Basic

/-!
# The slots of a vault

About the slot names of `BackupVault::capture` (`keel_core::backup`). The file of a slot is named
after the number of the slot and the file that it is for. The name is a plain one, so the slot lies
right below the directory of the vault (`place_slotPath`), and slots of different numbers are
different files (`slotFile_injective`).

`Pending` are the places of a vault that are still to be written when the slots have come to a
number.
-/

namespace Slipway.Path

theorem noSlash_of_mem_parts {path name : String} (h : name ∈ parts path) : '/' ∉ name.toList := by
  unfold parts at h
  simp only at h
  split at h
  · rcases List.mem_cons.mp h with rfl | h
    · decide
    · exact noSlash_of_mem_names (List.mem_filter.mp h).1
  · exact noSlash_of_mem_names (List.mem_filter.mp h).1

theorem noSlash_of_fileName? {path name : String} (h : fileName? path = some name) :
    '/' ∉ name.toList := by
  unfold fileName? at h
  exact noSlash_of_mem_parts (List.mem_of_getLast? (Option.filter_eq_some_iff.mp h).1)

end Slipway.Path

namespace Slipway.Vault

/-! ## Slots -/

/-- The name of a slot in the vault. -/
def slotFile (index : Nat) (path : String) : String := s!"{Text.padded 2 index}-{slotName path}"

theorem slotPath_eq (dir : String) (index : Nat) (path : String) :
    slotPath dir index path = Path.join dir (slotFile index path) := rfl

theorem toList_slotFile (index : Nat) (path : String) : (slotFile index path).toList =
    (Text.padded 2 index).toList ++ '-' :: (slotName path).toList := by
  simp [slotFile, toString]

theorem noSlash_slotName (path : String) : '/' ∉ (slotName path).toList := by
  unfold slotName
  cases h : Path.fileName? path with
  | none => decide
  | some name => exact Path.noSlash_of_fileName? h

theorem exists_slotFile_cons (index : Nat) (path : String) :
    ∃ c cs, (slotFile index path).toList = c :: cs ∧ c.isDigit = true := by
  obtain ⟨c, cs, h, hc⟩ := Text.exists_padded_cons 2 index
  exact ⟨c, _, by rw [toList_slotFile, h, List.cons_append], hc⟩

theorem plain_slotFile (index : Nat) (path : String) : Path.Plain (slotFile index path) := by
  obtain ⟨c, cs, h, hc⟩ := exists_slotFile_cons index path
  have hdot : ∀ name : String, name.toList.head? = some '.' → slotFile index path ≠ name := by
    rintro name hn rfl
    rw [h] at hn
    rw [Option.some.inj hn] at hc
    exact absurd hc (by decide)
  refine ⟨?_, ?_, hdot ".." (by decide)⟩
  · rw [toList_slotFile, List.mem_append, List.mem_cons]
    rintro (h | h | h)
    · exact absurd (Text.isDigit_of_mem_padded h) (by decide)
    · exact absurd h (by decide)
    · exact noSlash_slotName path h
  · rintro (he | he)
    · rw [he] at h
      exact absurd h (by simp)
    · exact hdot "." (by decide) he

theorem plain_manifestName : Path.Plain manifestName := ⟨by decide, by decide, by decide⟩

theorem slotFile_ne_manifestName (index : Nat) (path : String) :
    slotFile index path ≠ manifestName := by
  obtain ⟨c, cs, h, hc⟩ := exists_slotFile_cons index path
  intro he
  rw [he] at h
  have : c = 'M' := (List.cons.inj h).1.symm
  rw [this] at hc
  exact absurd hc (by decide)

/-- **Slots of different numbers have different names**, whatever files they are for. -/
theorem slotFile_injective {i j : Nat} {path path' : String}
    (h : slotFile i path = slotFile j path') : i = j := by
  have key : ∀ (i : Nat) (path : String),
      (slotFile i path).toList.takeWhile (· ≠ '-') = (Text.padded 2 i).toList := by
    intro i path
    have hdash : '-' ∉ (Text.padded 2 i).toList := fun hc =>
      absurd (Text.isDigit_of_mem_padded hc) (by decide)
    rw [toList_slotFile, takeWhile_append_cons hdash]
  rw [← Text.numeralValue_padded 2 i, ← key i path, h, key, Text.numeralValue_padded]

/-! ## Where the files of a vault stand -/

variable {dir path : String} {i j : Nat} {q : Place}

theorem place_slotPath (hb : dir ≠ "") (i : Nat) (path : String) :
    Path.place (slotPath dir i path) = Path.place dir ++ [slotFile i path] :=
  Path.place_join hb (plain_slotFile i path)

theorem place_manifestPath (hb : dir ≠ "") :
    Path.place (manifestPath dir) = Path.place dir ++ [manifestName] :=
  Path.place_join hb plain_manifestName

/-- The places that are still to be written from a slot on: the further slots and the manifest. -/
def Pending (dir : String) (i : Nat) (q : Place) : Prop :=
  q = Path.place dir ++ [manifestName] ∨
    ∃ j path, i ≤ j ∧ q = Path.place dir ++ [slotFile j path]

theorem Pending.mono (h : Pending dir j q) (hij : i ≤ j) : Pending dir i q :=
  h.imp_right fun ⟨k, path, hk, hq⟩ => ⟨k, path, Nat.le_trans hij hk, hq⟩

/-- Only places in the vault are written. -/
theorem Pending.inside (h : Pending dir i q) : Path.place dir <+: q := by
  rcases h with rfl | ⟨j, path, -, rfl⟩
  · exact List.prefix_append _ _
  · exact List.prefix_append _ _

theorem pending_slotPath (hb : dir ≠ "") (i : Nat) (path : String) :
    Pending dir i (Path.place (slotPath dir i path)) :=
  Or.inr ⟨i, path, Nat.le_refl i, place_slotPath hb i path⟩

theorem pending_manifestPath (hb : dir ≠ "") (i : Nat) :
    Pending dir i (Path.place (manifestPath dir)) :=
  Or.inl (place_manifestPath hb)

/-- A slot that was written is not written again. -/
theorem not_pending_slotPath (hb : dir ≠ "") (path : String) (hij : i < j) :
    ¬ Pending dir j (Path.place (slotPath dir i path)) := by
  rw [place_slotPath hb]
  rintro (h | ⟨k, path', hk, h⟩)
  · exact slotFile_ne_manifestName i path (List.singleton_inj.mp (List.append_cancel_left h))
  · have := slotFile_injective (List.singleton_inj.mp (List.append_cancel_left h))
    omega

end Slipway.Vault
