import ConfigLexer.Text.Offset
import Mathlib.Data.List.GetD

/-!
# Bytes of a text and characters of a text

A source is read by byte offsets, its grammar by characters.  A split of the characters of a source
into two parts names an offset, the number of bytes of the first part; every boundary is named in
this way.  At such an offset the byte that is read is the first byte of the second part, and the
character that is read is its first character.
-/

namespace ConfigLexer
namespace Text

@[simp]
theorem byteCount_nil : byteCount [] = 0 := by
  simp [byteCount]

@[simp]
theorem byteCount_append (left right : List Char) :
    byteCount (left ++ right) = byteCount left + byteCount right := by
  simp [byteCount, String.ofList_append]

@[simp]
theorem byteCount_cons (c : Char) (rest : List Char) :
    byteCount (c :: rest) = c.utf8Size + byteCount rest := by
  rw [← List.singleton_append, byteCount_append]
  simp [byteCount]

theorem byteCount_toList (source : String) : byteCount source.toList = source.utf8ByteSize := by
  rw [byteCount, String.ofList_toList]

theorem length_le_byteCount (text : List Char) : text.length ≤ byteCount text := by
  induction text with
  | nil => simp
  | cons c rest ih =>
      have width := c.utf8Size_pos
      rw [List.length_cons, byteCount_cons]
      omega

theorem byteCount_eq_zero_iff {text : List Char} : byteCount text = 0 ↔ text = [] := by
  constructor
  · intro empty
    have bound := length_le_byteCount text
    exact List.length_eq_zero_iff.mp (by omega)
  · rintro rfl
    exact byteCount_nil

/-- A text of one plain letter, as long as is wanted. -/
def filler (count : Nat) : List Char := List.replicate count 'x'

theorem eq_of_mem_filler {c : Char} {count : Nat} (member : c ∈ filler count) : c = 'x' :=
  List.eq_of_mem_replicate member

theorem byteCount_filler (count : Nat) : byteCount (filler count) = count := by
  induction count with
  | zero => exact byteCount_nil
  | succ count ih =>
      have width : 'x'.utf8Size = 1 := rfl
      rw [filler, List.replicate_succ, byteCount_cons, ← filler, ih, width, Nat.add_comm]

/-- Of two ways to begin the same text, the one with fewer bytes begins the other. -/
theorem prefix_of_byteCount_le {text left right : List Char} (left_begins : left <+: text)
    (right_begins : right <+: text) (shorter : byteCount left ≤ byteCount right) :
    left <+: right := by
  rcases List.prefix_or_prefix_of_prefix left_begins right_begins with inside | ⟨extra, rfl⟩
  · exact inside
  · have extra_empty : extra = [] := by
      rw [← byteCount_eq_zero_iff]
      rw [byteCount_append] at shorter
      omega
    simp [extra_empty]

theorem eq_of_byteCount_eq {text left right : List Char} (left_begins : left <+: text)
    (right_begins : right <+: text) (same : byteCount left = byteCount right) : left = right := by
  obtain ⟨extra, rfl⟩ := prefix_of_byteCount_le left_begins right_begins (Nat.le_of_eq same)
  have extra_empty : extra = [] := by
    rw [← byteCount_eq_zero_iff]
    rw [byteCount_append] at same
    omega
  simp [extra_empty]

/-- A boundary is the number of bytes of some first part of the source. -/
theorem isBoundary_iff {source : String} {offset : Nat} :
    isBoundary source offset = true ↔
      ∃ before after, source.toList = before ++ after ∧ byteCount before = offset := by
  rw [isBoundary, String.Pos.Raw.isValid_eq_true_iff, String.Pos.Raw.isValid_iff_exists_append]
  constructor
  · rintro ⟨left, right, rfl, offset_eq⟩
    refine ⟨left.toList, right.toList, String.toList_append, ?_⟩
    rw [byteCount_toList]
    exact (congrArg String.Pos.Raw.byteIdx offset_eq).symm
  · rintro ⟨before, after, split, rfl⟩
    refine ⟨String.ofList before, String.ofList after, ?_, rfl⟩
    rw [← String.ofList_append, ← split, String.ofList_toList]

theorem exists_pos_splits {source : String} {before after : List Char}
    (split : source.toList = before ++ after) :
    ∃ place : source.Pos, source.pos? ⟨byteCount before⟩ = some place ∧
      place.Splits (String.ofList before) (String.ofList after) := by
  have joined : source = String.ofList before ++ String.ofList after := by
    rw [← String.ofList_append, ← split, String.ofList_toList]
  have valid : (⟨byteCount before⟩ : String.Pos.Raw).IsValid source := by
    rw [String.Pos.Raw.isValid_iff_exists_append]
    exact ⟨_, _, joined, rfl⟩
  refine ⟨source.pos _ valid, ?_, ⟨joined, rfl⟩⟩
  simp [String.pos?, String.pos, String.Slice.pos?, valid]

theorem charAt?_of_split {source : String} {before after : List Char}
    (split : source.toList = before ++ after) :
    charAt? source (byteCount before) = after.head? := by
  obtain ⟨place, found, splits⟩ := exists_pos_splits split
  rw [charAt?, found, Option.bind_some]
  cases after with
  | nil =>
      have at_end : place = source.endPos := splits.eq_endPos_iff.mpr String.ofList_nil
      simp [String.Pos.get?, String.Slice.Pos.get?, at_end]
  | cons c rest =>
      have inside : place ≠ source.endPos := by
        intro at_end
        have empty := splits.eq_endPos_iff.mp at_end
        simp at empty
      have same := congrArg String.toList (splits.eq_right (place.splits_next_right inside))
      simp only [String.toList_ofList, String.toList_append, String.toList_singleton,
        List.singleton_append, List.cons.injEq] at same
      have inside_slice : place.toSlice ≠ source.toSlice.endPos := by
        simpa using inside
      rw [List.head?_cons, same.1, String.Pos.get?, String.Slice.Pos.get?, dif_neg inside_slice]
      rfl

/-- A character is read at an offset exactly if a split puts it there. -/
theorem charAt?_eq_some_iff {source : String} {offset : Nat} {c : Char} :
    charAt? source offset = some c ↔
      ∃ before rest, source.toList = before ++ c :: rest ∧ byteCount before = offset := by
  constructor
  · intro found
    obtain ⟨place, place_found, -⟩ := Option.bind_eq_some_iff.mp found
    have boundary : isBoundary source offset = true := by
      rw [isBoundary, String.Pos.Raw.isValid_eq_true_iff]
      apply Decidable.byContradiction
      intro inside
      simp [String.pos?, String.Slice.pos?, inside] at place_found
    obtain ⟨before, after, split, rfl⟩ := isBoundary_iff.mp boundary
    rw [charAt?_of_split split] at found
    obtain ⟨rest, rfl⟩ := List.head?_eq_some_iff.mp found
    exact ⟨before, rest, split, rfl⟩
  · rintro ⟨before, rest, split, rfl⟩
    rw [charAt?_of_split split, List.head?_cons]

theorem slice?_of_split {source : String} {before middle after : List Char}
    (split : source.toList = before ++ middle ++ after) :
    slice? source (byteCount before) (byteCount (before ++ middle)) =
      some (String.ofList middle) := by
  obtain ⟨first, first_found, first_splits⟩ :=
    exists_pos_splits (split.trans (List.append_assoc before middle after))
  obtain ⟨last, last_found, last_splits⟩ := exists_pos_splits split
  rw [String.ofList_append] at first_splits last_splits
  obtain ⟨ordered, copied⟩ := String.copy_slice_eq_iff_splits.mpr
    ⟨String.ofList before, String.ofList after, first_splits, last_splits⟩
  simp only [slice?, first_found, last_found, ordered, if_true]
  rw [String.extract_eq_copy_slice first last ordered, copied]

theorem slice_of_split {source : String} {before middle after : List Char}
    (split : source.toList = before ++ middle ++ after) :
    slice source (byteCount before) (byteCount (before ++ middle)) = String.ofList middle := by
  rw [slice, slice?_of_split split, Option.getD_some]

theorem length_flatMap_utf8EncodeChar (text : List Char) :
    (text.flatMap String.utf8EncodeChar).length = byteCount text := by
  induction text with
  | nil => rfl
  | cons c rest ih =>
      rw [List.flatMap_cons, List.length_append, ih, byteCount_cons, String.length_utf8EncodeChar]

theorem byteAt_eq_getD (source : String) (offset : Nat) :
    byteAt source offset = (source.toList.flatMap String.utf8EncodeChar).getD offset 0 := by
  have bytes : source.toByteArray = (source.toList.flatMap String.utf8EncodeChar).toByteArray := by
    rw [← List.utf8Encode, ← String.toByteArray_ofList, String.ofList_toList]
  have size : (source.toList.flatMap String.utf8EncodeChar).length = source.utf8ByteSize := by
    rw [length_flatMap_utf8EncodeChar, byteCount_toList]
  rw [byteAt]
  split
  · rename_i inside
    simp only [String.getUTF8Byte, bytes, List.getElem_toByteArray]
    rw [List.getD_eq_getElem?_getD, List.getElem?_eq_getElem (by omega), Option.getD_some]
  · rw [List.getD_eq_default _ _ (by omega)]

/-- A byte read inside the character that starts at a split is a byte of its encoding. -/
theorem byteAt_of_split {source : String} {before rest : List Char} {c : Char}
    (split : source.toList = before ++ c :: rest) {index : Nat} (inside : index < c.utf8Size) :
    byteAt source (byteCount before + index) = (String.utf8EncodeChar c).getD index 0 := by
  have before_length := length_flatMap_utf8EncodeChar before
  rw [byteAt_eq_getD, split, List.flatMap_append, List.flatMap_cons]
  rw [List.getD_append_right _ _ _ _ (by omega), before_length, Nat.add_sub_cancel_left]
  rw [List.getD_append _ _ _ _ (by simpa using inside)]

theorem byteAt_end {source : String} {offset : Nat} (outside : source.utf8ByteSize ≤ offset) :
    byteAt source offset = 0 := by
  rw [byteAt, dif_neg (by omega)]

end Text
end ConfigLexer
