import ConfigLexer.Proofs.Text.Bytes
import ConfigLexer.Proofs.Text.Plain

/-!
# Plain characters among the bytes of a text

No byte of a longer character is the byte of a plain one.  So wherever the byte of a plain character
is read, in the middle of a text as well, that character stands there.
-/

namespace ConfigLexer
namespace Text

variable {source : String} {before middle rest after : List Char} {c mark : Char}
variable {offset index : Nat}

theorem byte_beq (plain : isPlain mark = true) (inside : index < c.utf8Size) :
    ((String.utf8EncodeChar c).getD index 0 == mark.toUInt8) = (c == mark) := by
  cases c_plain : isPlain c with
  | true =>
      obtain rfl : index = 0 := by
        have width := isPlain_iff_size.mp c_plain
        omega
      rw [firstByte_of_plain c_plain]
      exact (beq_plainPart plain).agrees c c_plain
  | false =>
      rw [beq_of_wide c_plain plain]
      apply (beq_plainPart plain).rejects
      apply wide_byte c_plain
      rw [List.getD_eq_getElem _ _ (by rwa [String.length_utf8EncodeChar])]
      exact List.getElem_mem _

theorem byteAt_eq_iff (plain : isPlain mark = true) (split : source.toList = before ++ c :: rest)
    (inside : index < c.utf8Size) :
    byteAt source (byteCount before + index) = mark.toUInt8 ↔ c = mark := by
  rw [byteAt_of_split split inside, ← beq_iff_eq, byte_beq plain inside, beq_iff_eq]

/-- Where the byte of a plain character is read in a part of a text, the character splits this
part. -/
theorem exists_split_of_byteAt (plain : isPlain mark = true)
    (split : source.toList = before ++ middle ++ after) (behind : byteCount before ≤ offset)
    (inside : offset < byteCount (before ++ middle))
    (found : byteAt source offset = mark.toUInt8) :
    ∃ body tail, middle = body ++ mark :: tail ∧ offset = byteCount before + byteCount body := by
  induction middle generalizing before with
  | nil =>
      rw [List.append_nil] at inside
      exact absurd inside (Nat.not_lt.mpr behind)
  | cons c middle ih =>
      have c_split : source.toList = before ++ c :: (middle ++ after) := by
        rw [split, List.append_assoc, List.cons_append]
      rcases Nat.lt_or_ge offset (byteCount before + c.utf8Size) with here | later
      · obtain ⟨index, rfl⟩ := Nat.exists_eq_add_of_le behind
        have index_lt : index < c.utf8Size := by omega
        obtain rfl := (byteAt_eq_iff plain c_split index_lt).mp found
        have width := isPlain_iff_size.mp plain
        exact ⟨[], middle, rfl, by rw [byteCount_nil]; omega⟩
      · have behind_c : byteCount (before ++ [c]) ≤ offset := by
          rwa [byteCount_append, byteCount_cons, byteCount_nil, Nat.add_zero]
        have rest_split : source.toList = before ++ [c] ++ middle ++ after := by
          simpa using c_split
        obtain ⟨body, tail, rfl, rfl⟩ := ih rest_split behind_c (by simpa using inside)
        refine ⟨c :: body, tail, rfl, ?_⟩
        rw [byteCount_append, byteCount_cons, byteCount_cons, byteCount_nil, Nat.add_zero,
          Nat.add_assoc]

/-- The byte of a mark is read exactly where the mark stands. -/
theorem byteAt_eq_mark_iff (known : isMark mark = true) :
    byteAt source offset = mark.toUInt8 ↔ charAt? source offset = some mark := by
  obtain ⟨plain, not_nul⟩ := isMark_iff.mp known
  constructor
  · intro found
    have inside : offset < source.utf8ByteSize := by
      apply Nat.lt_of_not_le
      intro outside
      rw [byteAt_end outside, ← UInt8.toNat_inj, toNat_toUInt8_of_plain plain]
        at found
      exact not_nul (Char.toNat_inj.mp found.symm)
    have split : source.toList = [] ++ source.toList ++ [] := by simp
    rw [← byteCount_toList] at inside
    obtain ⟨body, tail, body_split, rfl⟩ :=
      exists_split_of_byteAt plain split (Nat.zero_le _) inside found
    exact charAt?_eq_some_iff.mpr ⟨body, tail, body_split, (Nat.zero_add _).symm⟩
  · intro found
    obtain ⟨before, rest, split, rfl⟩ := charAt?_eq_some_iff.mp found
    exact (byteAt_eq_iff plain split mark.utf8Size_pos).mpr rfl

end Text
end ConfigLexer
