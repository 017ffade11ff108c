import AttributeProfiles.Text.Pieces
import Mathlib.Data.String.Basic

/-!
# Sizes and pieces of texts

The bytes of a text are those of its characters. A piece that a separator cuts out of a text does
not hold the separator and is no longer than the text.
-/

namespace AttributeProfiles.Text

theorem utf8ByteSize_ofList (cs : List Char) :
    (String.ofList cs).utf8ByteSize = byteLength cs := by
  rw [String.utf8ByteSize_ofList]
  induction cs with
  | nil => rfl
  | cons c cs ih => rw [String.utf8Len_cons, ih, byteLength_cons, Nat.add_comm]

theorem utf8ByteSize_eq_byteLength (s : String) : s.utf8ByteSize = byteLength s.toList := by
  rw [← utf8ByteSize_ofList, String.ofList_toList]

theorem byteLength_le_of_sublist {cs ds : List Char} (h : cs.Sublist ds) :
    byteLength cs ≤ byteLength ds := by
  induction h with
  | slnil => exact Nat.le_refl _
  | cons c _ ih => exact Nat.le_trans ih (Nat.le_add_left _ _)
  | cons_cons c _ ih => exact Nat.add_le_add_left ih _

theorem mem_splitOn {sep : Char} {cs piece : List Char} (h : piece ∈ cs.splitOn sep) :
    sep ∉ piece ∧ piece.Sublist cs := by
  induction cs generalizing piece with
  | nil =>
    rw [List.splitOn_nil, List.mem_singleton] at h
    simp [h]
  | cons c cs ih =>
    rw [List.splitOn_cons_eq_if_modifyHead] at h
    split at h
    · rcases List.mem_cons.1 h with rfl | h
      · simp
      · exact ⟨(ih h).1, (ih h).2.cons c⟩
    next hc =>
      cases hpieces : cs.splitOn sep with
      | nil => simp [hpieces] at h
      | cons first others =>
        rw [hpieces, List.modifyHead_cons] at h
        rcases List.mem_cons.1 h with rfl | h
        · have hfirst : first ∈ cs.splitOn sep := by simp [hpieces]
          obtain ⟨hsep, hsub⟩ := ih hfirst
          have hne : sep ≠ c := by
            rintro rfl
            simp at hc
          exact ⟨by simp [hne, hsep], hsub.cons_cons c⟩
        · have hpiece : piece ∈ cs.splitOn sep := by simp [hpieces, h]
          obtain ⟨hsep, hsub⟩ := ih hpiece
          exact ⟨hsep, hsub.cons c⟩

theorem not_mem_of_mem_split {sep : Char} {s piece : String} (h : piece ∈ split sep s) :
    sep ∉ piece.toList := by
  obtain ⟨cs, hcs, rfl⟩ := List.mem_map.1 h
  simpa using (mem_splitOn hcs).1

theorem utf8ByteSize_le_of_mem_split {sep : Char} {s piece : String} (h : piece ∈ split sep s) :
    piece.utf8ByteSize ≤ s.utf8ByteSize := by
  obtain ⟨cs, hcs, rfl⟩ := List.mem_map.1 h
  rw [utf8ByteSize_ofList, utf8ByteSize_eq_byteLength s]
  exact byteLength_le_of_sublist (mem_splitOn hcs).2

theorem split_append {sep : Char} {s before after : String}
    (h : s.toList = before.toList ++ sep :: after.toList) :
    split sep s = split sep before ++ split sep after := by
  rw [split, h, List.splitOn_append_cons_self, List.map_append]
  rfl

@[simp] theorem join_singleton (sep : Char) (piece : String) : join sep [piece] = piece := by
  simp [join]

theorem toList_join_cons_cons (sep : Char) (piece next : String) (pieces : List String) :
    (join sep (piece :: next :: pieces)).toList =
      piece.toList ++ sep :: (join sep (next :: pieces)).toList := by
  simp [join]

theorem length_split (sep : Char) (s : String) :
    (split sep s).length = s.toList.count sep + 1 := by
  rw [split, List.length_map]
  induction s.toList with
  | nil => simp
  | cons c cs ih =>
    rw [List.splitOn_cons_eq_if_modifyHead, List.count_cons]
    split
    · rw [List.length_cons, ih]
    · rw [List.length_modifyHead, ih, Nat.add_zero]

end AttributeProfiles.Text
