import ConfigLexer.Proofs.Cursor.Between

/-!
# Moving over a run of characters

The loops over blanks, names and digits test bytes where they can and characters where they must.
Each passes the longest run of characters of one kind: the classes of bytes are the plain parts of
the kinds, and NUL is of no such kind, so that no loop runs past the end of the window.
-/

namespace ConfigLexer
namespace Cursor

open Text

/-- Move over characters of a kind, at most a given number of them: plain ones by their bytes, all
others by the character. -/
def eatKindUpTo (accepts : UInt8 → Bool) (wide : Char → Bool) : Nat → Cursor → Cursor
  | 0, cursor => cursor
  | count + 1, cursor =>
      if accepts cursor.current then
        eatKindUpTo accepts wide count cursor.advance
      else if isWideByte cursor.current && wide cursor.character then
        eatKindUpTo accepts wide count cursor.advanceChar
      else
        cursor

theorem eatBlanksUpTo_eq (count : Nat) (cursor : Cursor) :
    eatBlanksUpTo count cursor = eatKindUpTo isBlankByte isBlank count cursor := by
  induction count generalizing cursor with
  | zero => rfl
  | succ count ih => simp only [eatBlanksUpTo, eatKindUpTo, ih]

theorem eatNameUpTo_eq (count : Nat) (cursor : Cursor) :
    eatNameUpTo count cursor =
      eatKindUpTo continuesNameByte (fun c => isLetter c || isDigit c) count cursor := by
  induction count generalizing cursor with
  | zero => rfl
  | succ count ih => simp only [eatNameUpTo, eatKindUpTo, ih]

theorem eatWhileUpTo_eq (accepts : UInt8 → Bool) (count : Nat) (cursor : Cursor) :
    eatWhileUpTo accepts count cursor = eatKindUpTo accepts (fun _ => false) count cursor := by
  induction count generalizing cursor with
  | zero => rfl
  | succ count ih => simp only [eatWhileUpTo, eatKindUpTo, ih, Bool.and_false, Bool.false_eq_true,
      if_false]

/-- A test of bytes and a test of characters decide together whether a character is of a kind. -/
structure Decides (accepts : UInt8 → Bool) (wide kind : Char → Bool) : Prop where
  /-- The bytes decide plain characters. -/
  part : PlainPart accepts kind
  /-- The characters decide themselves where they are not plain. -/
  wide : ∀ c, isPlain c = false → wide c = kind c
  /-- NUL, which is also read at the end of the text, is not of the kind. -/
  no_nul : kind '\x00' = false

namespace Between

variable {cursor : Cursor} {before after : List Char} {count : Nat}
variable {accepts : UInt8 → Bool} {wide kind : Char → Bool}

theorem eatKindUpTo (decides : Decides accepts wide kind)
    (between : cursor.Between before after) (enough : byteCount after ≤ count) :
    (Cursor.eatKindUpTo accepts wide count cursor).Between (before ++ after.takeWhile kind)
      (after.dropWhile kind) := by
  induction count generalizing cursor before after with
  | zero =>
      obtain rfl := byteCount_eq_zero_iff.mp (Nat.le_zero.mp enough)
      simpa [Cursor.eatKindUpTo] using between
  | succ count ih =>
      cases after with
      | nil =>
          have no_byte := between.accepts_nil decides.part decides.no_nul
          simpa [Cursor.eatKindUpTo, no_byte, between.isWideByte_nil] using between
      | cons c rest =>
          have width := c.utf8Size_pos
          rw [byteCount_cons] at enough
          rw [Cursor.eatKindUpTo, between.accepts_cons decides.part, between.isWideByte_cons,
            between.character_cons]
          cases of_kind : kind c with
          | false =>
              have stays : (!isPlain c && wide c) = false := by
                cases plain : isPlain c with
                | true => rfl
                | false => rw [decides.wide c plain, of_kind, Bool.and_false]
              simpa [of_kind, stays] using between
          | true =>
              rw [List.takeWhile_cons_of_pos of_kind, List.dropWhile_cons_of_pos of_kind,
                List.append_cons]
              cases plain : isPlain c with
              | true => exact ih (between.advance plain) (by omega)
              | false =>
                  have passes : wide c = true := (decides.wide c plain).trans of_kind
                  simpa [passes] using ih between.advanceChar (by omega)

theorem eatBlanks (between : cursor.Between before after) :
    cursor.eatBlanks.Between (before ++ after.takeWhile isBlank) (after.dropWhile isBlank) := by
  have decides : Decides isBlankByte isBlank isBlank := ⟨isBlank_plainPart, fun _ _ => rfl, rfl⟩
  rw [Cursor.eatBlanks, eatBlanksUpTo_eq]
  exact between.eatKindUpTo decides (Nat.le_of_eq between.ahead.symm)

theorem eatName (between : cursor.Between before after) :
    (eatNameUpTo cursor.ahead cursor).Between (before ++ after.takeWhile Lexeme.continuesName)
      (after.dropWhile Lexeme.continuesName) := by
  have decides : Decides continuesNameByte (fun c => isLetter c || isDigit c)
      Lexeme.continuesName := by
    refine ⟨continuesName_plainPart, ?_, by decide +kernel⟩
    intro c wide
    rw [Lexeme.continuesName, Lexeme.startsName, beq_of_wide wide (by decide),
      beq_of_wide wide (by decide), Bool.or_false, Bool.or_false]
  rw [eatNameUpTo_eq]
  exact between.eatKindUpTo decides (Nat.le_of_eq between.ahead.symm)

/-- The plain characters at the start of a run are part of the run. -/
theorem takeWhile_plain_append (kind : Char → Bool) (text : List Char) :
    text.takeWhile (fun c => isPlain c && kind c) ++
        (text.dropWhile (fun c => isPlain c && kind c)).takeWhile kind = text.takeWhile kind ∧
      (text.dropWhile (fun c => isPlain c && kind c)).dropWhile kind = text.dropWhile kind := by
  induction text with
  | nil => exact ⟨rfl, rfl⟩
  | cons c rest ih =>
      cases of_kind : kind c <;> cases plain : isPlain c <;> simp [of_kind, plain, ih]

theorem eatWhile (between : cursor.Between before after) (part : PlainPart accepts kind)
    (no_nul : kind '\x00' = false) :
    (cursor.eatWhile accepts).Between (before ++ after.takeWhile (fun c => isPlain c && kind c))
      (after.dropWhile (fun c => isPlain c && kind c)) := by
  have decides : Decides accepts (fun _ => false) (fun c => isPlain c && kind c) := by
    refine ⟨⟨?_, part.rejects⟩, ?_, by rw [no_nul, Bool.and_false]⟩
    · intro c plain
      rw [part.agrees c plain, plain, Bool.true_and]
    · intro c wide
      rw [wide, Bool.false_and]
  rw [Cursor.eatWhile, eatWhileUpTo_eq]
  exact between.eatKindUpTo decides (Nat.le_of_eq between.ahead.symm)

/-- Whether a character belongs to the digits and points that `eatDigits` moves over. -/
def isDigitOr (points : Bool) (c : Char) : Bool := isDigit c || (points && c == '.')

theorem isDigitOr_plainPart (points : Bool) :
    PlainPart (fun byte => isDigitByte byte || (points && byte == '.'.toUInt8))
      (isDigitOr points) :=
  isDigit_plainPart.or ((beq_plainPart (by decide)).guard points)

theorem isDigitOr_nul (points : Bool) : isDigitOr points '\x00' = false := by
  cases points <;> decide

theorem eatDigitsUpTo (points : Bool) (between : cursor.Between before after)
    (enough : byteCount after ≤ count) :
    (Cursor.eatDigitsUpTo points count cursor).Between
      (before ++ after.takeWhile (isDigitOr points)) (after.dropWhile (isDigitOr points)) := by
  induction count generalizing cursor before after with
  | zero =>
      obtain rfl := byteCount_eq_zero_iff.mp (Nat.le_zero.mp enough)
      simpa [Cursor.eatDigitsUpTo] using between
  | succ count ih =>
      have moved := between.eatWhile (isDigitOr_plainPart points) (isDigitOr_nul points)
      obtain ⟨run, left⟩ := takeWhile_plain_append (isDigitOr points) after
      have stops := List.head?_dropWhile_not (fun c => isPlain c && isDigitOr points c) after
      have size := congrArg byteCount
        (List.takeWhile_append_dropWhile
          (p := fun c => isPlain c && isDigitOr points c) (l := after))
      rw [byteCount_append] at size
      rw [Cursor.eatDigitsUpTo, ← run, ← left]
      generalize after.takeWhile (fun c => isPlain c && isDigitOr points c) = plainRun at *
      generalize after.dropWhile (fun c => isPlain c && isDigitOr points c) = others at *
      cases others with
      | nil => simpa [moved.isWideByte_nil] using moved
      | cons c rest =>
          rw [moved.isWideByte_cons, moved.character_cons]
          have width := c.utf8Size_pos
          rw [byteCount_cons] at size
          cases passes : !isPlain c && isDigit c with
          | true =>
              obtain ⟨_, digit⟩ := Bool.and_eq_true_iff.mp passes
              have of_kind : isDigitOr points c = true := by rw [isDigitOr, digit, Bool.true_or]
              simpa [of_kind] using ih moved.advanceChar (by omega)
          | false =>
              have of_kind : isDigitOr points c = false := by
                cases plain : isPlain c with
                | true => simpa [plain] using stops
                | false =>
                    have not_digit : isDigit c = false := by simpa [plain] using passes
                    rw [isDigitOr, not_digit, beq_of_wide plain (by decide), Bool.and_false,
                      Bool.or_false]
              simpa [of_kind] using moved

theorem eatDigits (points : Bool) (between : cursor.Between before after) :
    (cursor.eatDigits points).Between (before ++ after.takeWhile (isDigitOr points))
      (after.dropWhile (isDigitOr points)) :=
  between.eatDigitsUpTo points (Nat.le_of_eq between.ahead.symm)

end Between
end Cursor
end ConfigLexer
