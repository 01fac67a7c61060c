import ConfigLexer.Cursor.Token
import ConfigLexer.Lexeme
import Mathlib.Data.List.GetD

/-!
# Plain characters and their bytes

A plain character is encoded by one byte, its own number.  Every byte of any other character is at
least 0x80, and the first of them tells how many there are.  So a class of bytes that contains no
such byte decides the same as a class of characters wherever the two agree on plain characters.
-/

namespace ConfigLexer
namespace Text

/-- The character is encoded by one byte. -/
def isPlain (c : Char) : Bool := c.utf8Size == 1

theorem isPlain_iff_size {c : Char} : isPlain c = true ↔ c.utf8Size = 1 := by
  simp [isPlain]

theorem isPlain_iff_lt {c : Char} : isPlain c = true ↔ c.toNat < 128 := by
  rw [isPlain_iff_size, Char.utf8Size_eq_one_iff, UInt32.le_iff_toNat_le]
  exact Nat.lt_succ_iff.symm

/-- The character is plain and is not NUL, which is also read at the end of a window.  Such a
character is known by its byte. -/
def isMark (c : Char) : Bool := isPlain c && c != '\x00'

theorem isMark_iff {c : Char} : isMark c = true ↔ isPlain c = true ∧ c ≠ '\x00' := by
  simp [isMark]

/-- What holds of the first 128 characters holds of every plain character. -/
theorem forall_plain (property : Char → Prop)
    (checked : ∀ number < 128, property (Char.ofNat number)) {c : Char} (plain : isPlain c = true) :
    property c := by
  have holds := checked c.toNat (isPlain_iff_lt.mp plain)
  rwa [Char.ofNat_toNat] at holds

theorem firstByte_of_plain {c : Char} (plain : isPlain c = true) :
    (String.utf8EncodeChar c).getD 0 0 = c.toUInt8 := by
  rw [String.utf8EncodeChar_eq_singleton (isPlain_iff_size.mp plain)]
  rfl

theorem firstByte_mem (c : Char) :
    (String.utf8EncodeChar c).getD 0 0 ∈ String.utf8EncodeChar c := by
  have inside : 0 < (String.utf8EncodeChar c).length := by
    rw [String.length_utf8EncodeChar]
    exact c.utf8Size_pos
  rw [List.getD_eq_getElem _ _ inside]
  exact List.getElem_mem inside

/-- The encoding of a character that is not plain, by the number of its bytes. -/
theorem encoding_of_wide {c : Char} (wide : isPlain c = false) :
    (c.utf8Size = 2 ∧ ∃ a b : UInt8,
        String.utf8EncodeChar c = [a &&& 0x1f ||| 0xc0, b &&& 0x3f ||| 0x80]) ∨
      (c.utf8Size = 3 ∧ ∃ a b d : UInt8, String.utf8EncodeChar c =
        [a &&& 0x0f ||| 0xe0, b &&& 0x3f ||| 0x80, d &&& 0x3f ||| 0x80]) ∨
      (c.utf8Size = 4 ∧ ∃ a b d e : UInt8, String.utf8EncodeChar c =
        [a &&& 0x07 ||| 0xf0, b &&& 0x3f ||| 0x80, d &&& 0x3f ||| 0x80, e &&& 0x3f ||| 0x80]) := by
  rcases c.utf8Size_eq with one | two | three | four
  · simp [isPlain, one] at wide
  · exact .inl ⟨two, _, _, String.utf8EncodeChar_eq_cons_cons two⟩
  · exact .inr (.inl ⟨three, _, _, _, String.utf8EncodeChar_eq_cons_cons_cons three⟩)
  · exact .inr (.inr ⟨four, _, _, _, _, String.utf8EncodeChar_eq_cons_cons_cons_cons four⟩)

theorem le_or_of_le {lower mark : UInt8} (low : lower ≤ mark) (byte : UInt8) :
    lower ≤ byte ||| mark := by
  rw [UInt8.le_iff_toNat_le] at low ⊢
  rw [UInt8.toNat_or]
  exact Nat.le_trans low Nat.right_le_or

theorem wide_byte {c : Char} (wide : isPlain c = false) {byte : UInt8}
    (encodes : byte ∈ String.utf8EncodeChar c) : 0x80 ≤ byte := by
  rcases encoding_of_wide wide with ⟨_, a, b, encoding⟩ | ⟨_, a, b, d, encoding⟩ |
      ⟨_, a, b, d, e, encoding⟩ <;>
    simp only [encoding, List.mem_cons, List.not_mem_nil, or_false] at encodes
  · rcases encodes with rfl | rfl <;> exact le_or_of_le (by decide) _
  · rcases encodes with rfl | rfl | rfl <;> exact le_or_of_le (by decide) _
  · rcases encodes with rfl | rfl | rfl | rfl <;> exact le_or_of_le (by decide) _

theorem forall_byte (property : UInt8 → Prop)
    (checked : ∀ number < 256, property (UInt8.ofNat number)) (byte : UInt8) : property byte := by
  have holds := checked byte.toNat byte.toNat_lt
  rwa [UInt8.ofNat_toNat] at holds

/-- The first byte of a character tells how many bytes encode it. -/
theorem charWidth_firstByte (c : Char) :
    (Cursor.charWidth ((String.utf8EncodeChar c).getD 0 0)).toNat = c.utf8Size := by
  cases plain : isPlain c with
  | true =>
      have width : Cursor.charWidth c.toUInt8 = 1 :=
        forall_plain (fun c => Cursor.charWidth c.toUInt8 = 1) (by decide +kernel) plain
      rw [firstByte_of_plain plain, isPlain_iff_size.mp plain, width]
      rfl
  | false =>
      have two : ∀ a : UInt8, Cursor.charWidth (a &&& 0x1f ||| 0xc0) = 2 :=
        forall_byte _ (by decide +kernel)
      have three : ∀ a : UInt8, Cursor.charWidth (a &&& 0x0f ||| 0xe0) = 3 :=
        forall_byte _ (by decide +kernel)
      have four : ∀ a : UInt8, Cursor.charWidth (a &&& 0x07 ||| 0xf0) = 4 :=
        forall_byte _ (by decide +kernel)
      rcases encoding_of_wide plain with ⟨size, a, b, encoding⟩ | ⟨size, a, b, d, encoding⟩ |
        ⟨size, a, b, d, e, encoding⟩
      · rw [encoding, size, List.getD_cons_zero, two]
        rfl
      · rw [encoding, size, List.getD_cons_zero, three]
        rfl
      · rw [encoding, size, List.getD_cons_zero, four]
        rfl

/-- A class of bytes that decides as a class of characters does, on plain characters, and that
contains no byte of any other character. -/
structure PlainPart (accepts : UInt8 → Bool) (kind : Char → Bool) : Prop where
  /-- The two agree on plain characters. -/
  agrees : ∀ c, isPlain c = true → accepts c.toUInt8 = kind c
  /-- No byte of another character is accepted. -/
  rejects : ∀ byte, 0x80 ≤ byte → accepts byte = false

namespace PlainPart

variable {accepts other : UInt8 → Bool} {kind otherKind : Char → Bool}

theorem of_checked (agreement : ∀ number < 128,
      accepts (Char.ofNat number).toUInt8 = kind (Char.ofNat number))
    (rejection : ∀ number < 256, 0x80 ≤ UInt8.ofNat number →
      accepts (UInt8.ofNat number) = false) : PlainPart accepts kind where
  agrees _ plain := forall_plain (fun c => accepts c.toUInt8 = kind c) agreement plain
  rejects := forall_byte _ rejection

theorem or (first : PlainPart accepts kind) (second : PlainPart other otherKind) :
    PlainPart (fun byte => accepts byte || other byte) (fun c => kind c || otherKind c) where
  agrees c plain := by rw [first.agrees c plain, second.agrees c plain]
  rejects byte high := by rw [first.rejects byte high, second.rejects byte high, Bool.or_self]

theorem guard (part : PlainPart accepts kind) (wanted : Bool) :
    PlainPart (fun byte => wanted && accepts byte) (fun c => wanted && kind c) where
  agrees c plain := by rw [part.agrees c plain]
  rejects byte high := by rw [part.rejects byte high, Bool.and_false]

end PlainPart

/-- A table decides a plain character by the ranges that begin below 128. -/
theorem CharSet.contains_plain {set : CharSet} (count : Nat)
    (above : ∀ range ∈ set.ranges.drop count, 128 ≤ range.1) {c : Char}
    (plain : isPlain c = true) : set.contains c = CharSet.contains ⟨set.ranges.take count⟩ c := by
  have bound := isPlain_iff_lt.mp plain
  have none_above : CharSet.contains ⟨set.ranges.drop count⟩ c = false := by
    rw [contains, List.any_eq_false]
    intro range member
    have start := above range member
    simp only [Bool.and_eq_true, decide_eq_true_eq, not_and]
    omega
  calc
    set.contains c = CharSet.contains ⟨set.ranges.take count ++ set.ranges.drop count⟩ c := by
      rw [List.take_append_drop]
    _ = (CharSet.contains ⟨set.ranges.take count⟩ c ||
        CharSet.contains ⟨set.ranges.drop count⟩ c) := List.any_append
    _ = CharSet.contains ⟨set.ranges.take count⟩ c := by rw [none_above, Bool.or_false]

theorem isBlank_plainPart : PlainPart Cursor.isBlankByte isBlank :=
  .of_checked (by decide +kernel) (by decide +kernel)

theorem isDigit_plainPart : PlainPart Cursor.isDigitByte isDigit where
  agrees c plain := by
    rw [isDigit, CharSet.contains_plain 1 (by decide +kernel) plain]
    exact forall_plain
      (fun c => Cursor.isDigitByte c.toUInt8 = CharSet.contains ⟨digits.ranges.take 1⟩ c)
      (by decide +kernel) plain
  rejects := forall_byte _ (by decide +kernel)

theorem isLetter_plainPart : PlainPart Cursor.isLetterByte isLetter where
  agrees c plain := by
    rw [isLetter, CharSet.contains_plain 2 (by decide +kernel) plain]
    exact forall_plain
      (fun c => Cursor.isLetterByte c.toUInt8 = CharSet.contains ⟨letters.ranges.take 2⟩ c)
      (by decide +kernel) plain
  rejects := forall_byte _ (by decide +kernel)

theorem beq_of_wide {c mark : Char} (wide : isPlain c = false) (plain : isPlain mark = true) :
    (c == mark) = false := by
  rw [beq_eq_false_iff_ne]
  rintro rfl
  simp [plain] at wide

theorem toNat_toUInt8_of_plain {c : Char} (plain : isPlain c = true) :
    c.toUInt8.toNat = c.toNat := by
  have bound := isPlain_iff_lt.mp plain
  rw [Char.toUInt8, UInt32.toNat_toUInt8]
  exact Nat.mod_eq_of_lt (Nat.lt_of_lt_of_le bound (by decide))

theorem beq_plainPart {mark : Char} (plain : isPlain mark = true) :
    PlainPart (· == mark.toUInt8) (· == mark) where
  agrees c c_plain := by
    rw [Bool.eq_iff_iff, beq_iff_eq, beq_iff_eq, ← UInt8.toNat_inj, toNat_toUInt8_of_plain plain,
      toNat_toUInt8_of_plain c_plain, Char.toNat_inj]
  rejects byte high := by
    have bound := isPlain_iff_lt.mp plain
    rw [UInt8.le_iff_toNat_le] at high
    rw [beq_eq_false_iff_ne, ne_eq, ← UInt8.toNat_inj, toNat_toUInt8_of_plain plain]
    have threshold : (0x80 : UInt8).toNat = 128 := rfl
    omega

theorem startsName_plainPart : PlainPart Cursor.startsNameByte Lexeme.startsName :=
  isLetter_plainPart.or (beq_plainPart (by decide))

theorem continuesName_plainPart : PlainPart Cursor.continuesNameByte Lexeme.continuesName :=
  (startsName_plainPart.or isDigit_plainPart).or (beq_plainPart (by decide))

end Text
end ConfigLexer
