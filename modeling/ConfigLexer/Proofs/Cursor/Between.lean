import ConfigLexer.Proofs.Text.Bytes
import ConfigLexer.Proofs.Text.Plain

/-!
# Cursors between characters

A cursor stands between two parts of its text when its offset is the size of the first part.  What
it then reads is decided by the second part, and every step over a whole character leaves it
between two parts again.  The offset never wraps, because the whole text fits in front of an end
that is itself a 32-bit offset.
-/

namespace ConfigLexer
namespace Cursor

open Text

/-- The cursor stands between two parts of its text, and its window ends with the text. -/
structure Between (cursor : Cursor) (before after : List Char) : Prop where
  /-- The two parts make up the text. -/
  text : cursor.text.toList = before ++ after
  /-- The offset of the cursor is the size of the first part. -/
  pos : cursor.pos.toNat = byteCount before
  /-- The end of the window is the size of the text. -/
  stop : cursor.stop.toNat = byteCount before + byteCount after

namespace Between

variable {cursor place : Cursor} {before after rest : List Char} {c : Char}

theorem ahead (between : cursor.Between before after) : cursor.ahead = byteCount after := by
  rw [Cursor.ahead, between.stop, between.pos, Nat.add_sub_cancel_left]

theorem atEnd (between : cursor.Between before after) : cursor.atEnd = after.isEmpty := by
  rw [Bool.eq_iff_iff, Cursor.atEnd, decide_eq_true_eq, UInt32.le_iff_toNat_le, between.stop,
    between.pos, List.isEmpty_iff, ← byteCount_eq_zero_iff]
  omega

theorem move (between : cursor.Between before (rest ++ after)) (place : Cursor)
    (text : place.text = cursor.text) (stop : place.stop = cursor.stop)
    (pos : place.pos.toNat = cursor.pos.toNat + byteCount rest) :
    place.Between (before ++ rest) after where
  text := by rw [text, between.text, List.append_assoc]
  pos := by rw [pos, between.pos, byteCount_append]
  stop := by
    rw [stop, between.stop, byteCount_append, byteCount_append]
    omega

theorem current_nil (between : cursor.Between before []) : cursor.current = 0 := by
  have size : cursor.text.utf8ByteSize = byteCount before := by
    rw [← byteCount_toList, between.text, List.append_nil]
  exact byteAt_end (Nat.le_of_eq (size.trans between.pos.symm))

theorem current_cons (between : cursor.Between before (c :: rest)) :
    cursor.current = (String.utf8EncodeChar c).getD 0 0 := by
  rw [current, between.pos]
  exact byteAt_of_split between.text c.utf8Size_pos

theorem character_cons (between : cursor.Between before (c :: rest)) : cursor.character = c := by
  rw [character, between.pos, charAt?_of_split between.text]
  rfl

/-- A cursor is known by the parts of its text around it. -/
theorem unique (between : cursor.Between before after) (other : place.Between before after) :
    place = cursor := by
  have text : place.text = cursor.text := by rw [← String.toList_inj, other.text, between.text]
  have pos : place.pos = cursor.pos := by rw [← UInt32.toNat_inj, other.pos, between.pos]
  have stop : place.stop = cursor.stop := by rw [← UInt32.toNat_inj, other.stop, between.stop]
  obtain ⟨_, _, _⟩ := place
  obtain rfl := text
  obtain rfl := pos
  obtain rfl := stop
  rfl

/-- A step over any character, whose first byte tells its width. -/
theorem advanceChar (between : cursor.Between before (c :: rest)) :
    cursor.advanceChar.Between (before ++ [c]) rest := by
  have stop := between.stop
  have bound := cursor.stop.toNat_lt
  have start := between.pos
  have width : (charWidth cursor.current).toNat = c.utf8Size := by
    rw [between.current_cons, charWidth_firstByte]
  rw [byteCount_cons] at stop
  have sum : (cursor.pos + charWidth cursor.current).toNat = cursor.pos.toNat + c.utf8Size := by
    rw [UInt32.toNat_add, width, Nat.mod_eq_of_lt (by omega)]
  have fits : cursor.pos + charWidth cursor.current ≤ cursor.stop := by
    rw [UInt32.le_iff_toNat_le, sum]
    omega
  have clamped : cursor.advanceChar.pos = cursor.pos + charWidth cursor.current := if_pos fits
  have split : cursor.Between before ([c] ++ rest) := between
  apply split.move cursor.advanceChar rfl rfl
  rw [clamped, sum, byteCount_cons, byteCount_nil, Nat.add_zero]

theorem advance (between : cursor.Between before (c :: rest)) (plain : isPlain c = true) :
    cursor.advance.Between (before ++ [c]) rest := by
  have stop := between.stop
  have bound := cursor.stop.toNat_lt
  have start := between.pos
  have width := isPlain_iff_size.mp plain
  rw [byteCount_cons] at stop
  have sum : cursor.advance.pos.toNat = cursor.pos.toNat + 1 := by
    rw [Cursor.advance, UInt32.toNat_add, Nat.mod_eq_of_lt (by rw [UInt32.toNat_one]; omega)]
    rfl
  have split : cursor.Between before ([c] ++ rest) := between
  apply split.move cursor.advance rfl rfl
  rw [sum, byteCount_cons, byteCount_nil, width]

theorem following_cons (between : cursor.Between before (c :: rest)) (plain : isPlain c = true) :
    cursor.following = cursor.advance.current := by
  have next := (between.advance plain).pos
  rw [following, current, next, between.pos, byteCount_append, byteCount_cons, byteCount_nil,
    isPlain_iff_size.mp plain]
  rfl

theorem sliceFrom (between : cursor.Between before (rest ++ after))
    (moved : place.Between (before ++ rest) after) :
    place.sliceFrom cursor.pos = String.ofList rest := by
  rw [Cursor.sliceFrom, Cursor.slice, between.pos, moved.pos]
  exact slice_of_split moved.text

theorem pos_eq (between : cursor.Between before after) :
    cursor.pos = (byteCount before).toUInt32 := by
  rw [← between.pos]
  exact UInt32.ofNat_toNat.symm

theorem toEnd_nil (between : cursor.Between before []) : cursor.toEnd = cursor := by
  have pos_eq : cursor.pos = cursor.stop := by
    rw [← UInt32.toNat_inj, between.pos, between.stop, byteCount_nil, Nat.add_zero]
  obtain ⟨text, pos, stop⟩ := cursor
  obtain rfl : pos = stop := pos_eq
  rfl

theorem toEnd_eq {passed left : List Char} (between : cursor.Between before after)
    (moved : place.Between passed left) (same : passed ++ left = before ++ after) :
    place.toEnd = cursor.toEnd := by
  have text : place.text = cursor.text := by
    rw [← String.toList_inj, moved.text, between.text, same]
  have stop : place.stop = cursor.stop := by
    rw [← UInt32.toNat_inj, moved.stop, between.stop, ← byteCount_append, ← byteCount_append, same]
  rw [Cursor.toEnd, Cursor.toEnd, text, stop]

/-! ## Classes of bytes -/

variable {accepts : UInt8 → Bool} {kind : Char → Bool}

/-- A class of bytes accepts the byte at the cursor if the character there is plain and of the
corresponding kind. -/
theorem accepts_cons (between : cursor.Between before (c :: rest))
    (part : PlainPart accepts kind) : accepts cursor.current = (isPlain c && kind c) := by
  rw [between.current_cons]
  cases plain : isPlain c with
  | true => rw [firstByte_of_plain plain, part.agrees c plain, Bool.true_and]
  | false =>
      rw [part.rejects _ (wide_byte plain (firstByte_mem c)), Bool.false_and]

theorem accepts_nil (between : cursor.Between before []) (part : PlainPart accepts kind)
    (no_nul : kind '\x00' = false) : accepts cursor.current = false := by
  rw [between.current_nil, ← no_nul]
  exact part.agrees '\x00' (by decide)

/-- A mark is known by its byte, also at the end of the text. -/
theorem current_beq (between : cursor.Between before after) {mark : Char}
    (known : isMark mark = true) :
    (cursor.current == mark.toUInt8) = (after.head? == some mark) := by
  obtain ⟨plain, not_nul⟩ := isMark_iff.mp known
  cases after with
  | nil => exact between.accepts_nil (beq_plainPart plain) (beq_false_of_ne not_nul.symm)
  | cons c rest =>
      rw [between.accepts_cons (beq_plainPart plain), List.head?_cons]
      cases same : c == mark with
      | true => simp [eq_of_beq same, plain]
      | false => simp [ne_of_beq_false same]

theorem isWideByte_cons (between : cursor.Between before (c :: rest)) :
    isWideByte cursor.current = !isPlain c := by
  rw [between.current_cons]
  cases plain : isPlain c with
  | true =>
      rw [firstByte_of_plain plain]
      exact forall_plain (fun c => isWideByte c.toUInt8 = false) (by decide +kernel) plain
  | false => exact decide_eq_true (wide_byte plain (firstByte_mem c))

theorem isWideByte_nil (between : cursor.Between before []) :
    isWideByte cursor.current = false := by
  rw [between.current_nil]
  rfl

end Between
end Cursor
end ConfigLexer
