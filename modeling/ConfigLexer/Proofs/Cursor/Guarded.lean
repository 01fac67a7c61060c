import ConfigLexer.Proofs.Cursor.Reading

/-!
# Guarded cursors

The moves of a cursor test no bounds.  That none of them needs a test is seen from a second reader,
which tests everything that a move relies on and breaks off where it does not hold.  It makes the
same moves in the same order, and where the cursor stands between two characters it never breaks
off: it reads what the cursor reads.
-/

namespace ConfigLexer

/-- What a scan relies on and what does not hold. -/
inductive Breach where
  /-- A byte or a character is passed at the end of the window or behind it. -/
  | pastEnd
  /-- The cursor comes to stand behind the end of the window. -/
  | outside
  /-- A character is passed from its inside. -/
  | insideCharacter
  /-- A character is passed that goes on behind the end of the window. -/
  | clamped
  /-- An offset is greater than 32 bits hold. -/
  | wrapped
  /-- A slice or a window ends before it starts. -/
  | inverted
  /-- The offsets of a slice or of a window cut no text out, or an empty word. -/
  | noText
  /-- A loop is broken off where it would go on. -/
  | unfinished
  /-- A step reads nothing. -/
  | noProgress
deriving DecidableEq, Repr

/-- What comes of a move, unless it breaks off. -/
abbrev Checked := Except Breach

namespace Cursor

/-! ## The guarded reader -/

namespace Guarded

/-- See that a cursor stands in its window. -/
def arrive (place : Cursor) : Checked Cursor :=
  if place.pos ≤ place.stop then .ok place else .error .outside

/-- Move over one byte. -/
def advance (cursor : Cursor) : Checked Cursor :=
  if cursor.stop ≤ cursor.pos then .error .pastEnd
  else if UInt32.size ≤ cursor.pos.toNat + 1 then .error .wrapped
  else arrive cursor.advance

/-- Move over one character. -/
def advanceChar (cursor : Cursor) : Checked Cursor :=
  let reached := cursor.pos.toNat + (charWidth cursor.current).toNat
  if cursor.stop ≤ cursor.pos then .error .pastEnd
  else if !Text.isBoundary cursor.text cursor.pos.toNat then .error .insideCharacter
  else if UInt32.size ≤ reached then .error .wrapped
  else if cursor.stop.toNat < reached then .error .clamped
  else arrive cursor.advanceChar

/-- The word between an offset and the cursor. -/
def sliceFrom (cursor : Cursor) (start : UInt32) : Checked String :=
  if cursor.pos < start then .error .inverted
  else
    match Text.slice? cursor.text start.toNat cursor.pos.toNat with
    | none => .error .noText
    | some word => if word.isEmpty then .error .noText else .ok word

/-- Move over characters of a kind, at most a given number of them, as the loops over blanks, names
and classes of bytes do. -/
def eatKindUpTo (accepts : UInt8 → Bool) (wide : Char → Bool) : Nat → Cursor → Checked Cursor
  | 0, cursor =>
      if accepts cursor.current || (isWideByte cursor.current && wide cursor.character) then
        .error .unfinished
      else .ok cursor
  | count + 1, cursor =>
      if accepts cursor.current then
        advance cursor >>= eatKindUpTo accepts wide count
      else if isWideByte cursor.current && wide cursor.character then
        advanceChar cursor >>= eatKindUpTo accepts wide count
      else .ok cursor

/-- Move over blanks. -/
def eatBlanks (cursor : Cursor) : Checked Cursor :=
  eatKindUpTo isBlankByte Text.isBlank cursor.ahead cursor

/-- Move over the bytes of a class. -/
def eatWhile (accepts : UInt8 → Bool) (cursor : Cursor) : Checked Cursor :=
  eatKindUpTo accepts (fun _ => false) cursor.ahead cursor

/-- Move over the characters of a name after its start. -/
def eatName (cursor : Cursor) : Checked Cursor :=
  eatKindUpTo continuesNameByte (fun c => Text.isLetter c || Text.isDigit c) cursor.ahead cursor

/-- Move byte by byte to the first place, among a given number of them, where a condition on the
cursor holds. -/
def seekUpTo (found : Cursor → Bool) : Nat → Cursor → Checked Cursor
  | 0, cursor => if cursor.atEnd then .ok cursor else .error .unfinished
  | count + 1, cursor =>
      if found cursor then .ok cursor else advance cursor >>= seekUpTo found count

/-- Move to the first place where a condition on the cursor holds, or to the end of the window. -/
def seek (found : Cursor → Bool) (cursor : Cursor) : Checked Cursor :=
  if cursor.atEnd then arrive cursor.toEnd else seekUpTo found cursor.ahead cursor

/-- Move to the next line break. -/
def seekLineEnd : Cursor → Checked Cursor := seek fun place => place.current == '\n'.toUInt8

/-- Move to the next quote or backslash. -/
def seekStringMark : Cursor → Checked Cursor :=
  seek fun place => place.current == '"'.toUInt8 || place.current == '\\'.toUInt8

/-- Move past the next closing mark of a block comment. -/
def eatPastBlockEnd (cursor : Cursor) : Checked Cursor := do
  let place ← seek atBlockEnd cursor
  if place.atEnd then .ok place else advance place >>= advance

/-- Move over the given bytes as far as they stand at the cursor. -/
def eatInOrder : List UInt8 → Cursor → Checked Cursor
  | [], cursor => .ok cursor
  | byte :: bytes, cursor =>
      if cursor.current == byte then advance cursor >>= eatInOrder bytes else .ok cursor

/-- Move over a string after its opening quote, past at most a given number of quotes and
backslashes. -/
def eatStringUpTo : Nat → Cursor → Checked Cursor
  | 0, _ => .error .unfinished
  | count + 1, cursor => do
      let mark ← seekStringMark cursor
      if mark.current == '"'.toUInt8 then
        advance mark
      else if mark.current == '\\'.toUInt8 then
        let escaped ← advance mark
        (if escaped.atEnd then .ok escaped else advanceChar escaped) >>= eatStringUpTo count
      else .ok mark

/-- Move over a string after its opening quote. -/
def eatString (cursor : Cursor) : Checked Cursor := eatStringUpTo (cursor.ahead + 1) cursor

/-- Move over decimal digits, and points if they are wanted, past at most a given number of wider
digits. -/
def eatDigitsUpTo (points : Bool) : Nat → Cursor → Checked Cursor
  | 0, cursor =>
      if (isDigitByte cursor.current || (points && cursor.current == '.'.toUInt8)) ||
          (isWideByte cursor.current && Text.isDigit cursor.character) then
        .error .unfinished
      else .ok cursor
  | count + 1, cursor => do
      let place ← eatWhile (fun byte => isDigitByte byte || (points && byte == '.'.toUInt8)) cursor
      if isWideByte place.current && Text.isDigit place.character then
        advanceChar place >>= eatDigitsUpTo points count
      else .ok place

/-- Move over decimal digits of any script, and points if they are wanted. -/
def eatDigits (points : Bool) (cursor : Cursor) : Checked Cursor :=
  eatDigitsUpTo points cursor.ahead cursor

/-- Move over a number. -/
def eatNumber (cursor : Cursor) : Checked Cursor := do
  let mantissa ← eatDigits true cursor
  if mantissa.current == 'e'.toUInt8 || mantissa.current == 'E'.toUInt8 then
    let mark ← advance mantissa
    (if mark.current == '+'.toUInt8 || mark.current == '-'.toUInt8 then advance mark
      else .ok mark) >>= eatDigits false
  else .ok mantissa

/-- Read a name. -/
def readName (vocabulary : Vocabulary) (cursor : Cursor) : Checked (Tag × Cursor) := do
  let first ← advanceChar cursor
  let place ← eatName first
  let word ← sliceFrom place cursor.pos
  .ok (if vocabulary.contains word then .keyword else .identifier, place)

/-- Read what a slash starts. -/
def readSlash (cursor : Cursor) : Checked (Tag × Cursor) := do
  let slash ← advance cursor
  if slash.current == '/'.toUInt8 then
    (advance slash >>= seekLineEnd).map (.lineComment, ·)
  else if slash.current == '*'.toUInt8 then
    (advance slash >>= eatPastBlockEnd).map (.blockComment, ·)
  else .ok (.operator, slash)

/-- Read what a character of more than one byte starts. -/
def readWide (vocabulary : Vocabulary) (cursor : Cursor) : Checked (Tag × Cursor) :=
  let character := cursor.character
  if Text.isBlank character then (eatBlanks cursor).map (.whitespace, ·)
  else if Text.isDigit character then (eatNumber cursor).map (.number, ·)
  else if Text.isLetter character then readName vocabulary cursor
  else (advanceChar cursor).map (.badCharacter, ·)

/-- Read a delimiter, an operator, or a character that starts nothing. -/
def readMark (cursor : Cursor) : Checked (Tag × Cursor) :=
  match delimiterTag? cursor.current, operatorTail? cursor.current with
  | some tag, _ => (advance cursor).map (tag, ·)
  | none, some bytes => (advance cursor >>= eatInOrder bytes).map (.operator, ·)
  | none, none => (advance cursor).map (.badCharacter, ·)

/-- Read one token. -/
def readToken (vocabulary : Vocabulary) (cursor : Cursor) : Checked (Tag × Cursor) :=
  let byte := cursor.current
  if isBlankByte byte then (eatBlanks cursor).map (.whitespace, ·)
  else if byte == '#'.toUInt8 then (advance cursor >>= seekLineEnd).map (.lineComment, ·)
  else if byte == '/'.toUInt8 then readSlash cursor
  else if byte == '"'.toUInt8 then (advance cursor >>= eatString).map (.string, ·)
  else if isDigitByte byte then (eatNumber cursor).map (.number, ·)
  else if startsNameByte byte then readName vocabulary cursor
  else if isWideByte byte then readWide vocabulary cursor
  else readMark cursor

end Guarded

open Text

/-! ## Single moves -/

/-- The cursor stands between two characters, or at either end of the text. -/
def Placed (cursor : Cursor) : Prop := ∃ before after, cursor.Between before after

/-- A guarded move does not break off.  It ends between characters and not further from the end of
the window than it began. -/
structure Arrives (result : Checked Cursor) (cursor place : Cursor) : Prop where
  /-- The move does not break off. -/
  ok : result = .ok place
  /-- The move ends between characters. -/
  placed : place.Placed
  /-- The move does not lead back. -/
  ahead_le : place.ahead ≤ cursor.ahead

/-- A guarded move that leads on. -/
structure Proceeds (result : Checked Cursor) (cursor place : Cursor) : Prop
    extends Arrives result cursor place where
  /-- The move ends closer to the end of the window. -/
  ahead_lt : place.ahead < cursor.ahead

variable {cursor place last : Cursor} {result other : Checked Cursor}

theorem Arrives.stay (placed : cursor.Placed) : Arrives (.ok cursor) cursor cursor :=
  ⟨rfl, placed, Nat.le_refl _⟩

theorem Arrives.bind {next : Cursor → Checked Cursor} (first : Arrives result cursor place)
    (second : Arrives (next place) place last) : Arrives (result >>= next) cursor last where
  ok := by
    rw [first.ok]
    exact second.ok
  placed := second.placed
  ahead_le := Nat.le_trans second.ahead_le first.ahead_le

theorem Arrives.ite {test : Bool} (yes : test = true → Arrives result cursor place)
    (no : test = false → Arrives other cursor last) :
    Arrives (if test then result else other) cursor (if test then place else last) := by
  cases test with
  | true => exact yes rfl
  | false => exact no rfl

theorem Arrives.tagged (arrives : Arrives result cursor place) (tag : Tag) :
    result.map (tag, ·) = .ok (tag, place) := by
  rw [arrives.ok]
  rfl

theorem Placed.arrive_eq (placed : cursor.Placed) : Guarded.arrive cursor = .ok cursor := by
  obtain ⟨before, after, between⟩ := placed
  have inside : cursor.pos ≤ cursor.stop := by
    rw [UInt32.le_iff_toNat_le, between.pos, between.stop]
    exact Nat.le_add_right _ _
  exact if_pos inside

theorem Placed.exists_cons (placed : cursor.Placed) (more : cursor.atEnd = false) :
    ∃ before c rest, cursor.Between before (c :: rest) := by
  obtain ⟨before, after, between⟩ := placed
  cases after with
  | nil =>
      rw [between.atEnd] at more
      contradiction
  | cons c rest => exact ⟨before, c, rest, between⟩

theorem pos_lt_stop (more : cursor.atEnd = false) : cursor.pos.toNat < cursor.stop.toNat := by
  rwa [Cursor.atEnd, decide_eq_false_iff_not, UInt32.not_le, UInt32.lt_iff_toNat_lt] at more

theorem toNat_advance (more : cursor.atEnd = false) :
    cursor.advance.pos.toNat = cursor.pos.toNat + 1 := by
  rw [Cursor.advance, UInt32.toNat_add]
  exact Nat.mod_eq_of_lt (Nat.lt_of_le_of_lt (pos_lt_stop more) cursor.stop.toNat_lt_size)

theorem Guarded.advance_eq (more : cursor.atEnd = false) :
    Guarded.advance cursor = .ok cursor.advance := by
  have inside := pos_lt_stop more
  have bound := cursor.stop.toNat_lt_size
  have still_inside : cursor.advance.pos ≤ cursor.advance.stop := by
    rw [UInt32.le_iff_toNat_le, toNat_advance more]
    exact inside
  rw [Guarded.advance, if_neg (by rwa [UInt32.not_le]), if_neg (by omega)]
  exact if_pos still_inside

theorem Between.proceeds {before rest : List Char} {c : Char}
    (between : cursor.Between before (c :: rest)) (moved : place.Between (before ++ [c]) rest)
    (ok : result = .ok place) : Proceeds result cursor place := by
  have closer : place.ahead < cursor.ahead := by
    rw [moved.ahead, between.ahead, byteCount_cons]
    exact Nat.lt_add_of_pos_left c.utf8Size_pos
  exact ⟨⟨ok, ⟨_, _, moved⟩, Nat.le_of_lt closer⟩, closer⟩

theorem Placed.advanceChar (placed : cursor.Placed) (more : cursor.atEnd = false) :
    Proceeds (Guarded.advanceChar cursor) cursor cursor.advanceChar := by
  obtain ⟨before, c, rest, between⟩ := placed.exists_cons more
  have moved := between.advanceChar
  have width : (charWidth cursor.current).toNat = c.utf8Size := by
    rw [between.current_cons, charWidth_firstByte]
  have fits : cursor.pos.toNat + c.utf8Size ≤ cursor.stop.toNat := by
    rw [between.pos, between.stop, byteCount_cons]
    omega
  have bound := cursor.stop.toNat_lt_size
  have boundary : isBoundary cursor.text cursor.pos.toNat = true :=
    isBoundary_iff.mpr ⟨_, _, between.text, between.pos.symm⟩
  have inside : ¬cursor.stop ≤ cursor.pos := by simpa [Cursor.atEnd] using more
  refine between.proceeds moved ?_
  rw [Guarded.advanceChar, width, if_neg inside, boundary, if_neg (by simp), if_neg (by omega),
    if_neg (by omega)]
  exact Placed.arrive_eq ⟨_, _, moved⟩

theorem Between.proceeds_plain {before rest : List Char} {c : Char}
    (between : cursor.Between before (c :: rest)) (plain : isPlain c = true) :
    Proceeds (Guarded.advance cursor) cursor cursor.advance :=
  between.proceeds (between.advance plain) (Guarded.advance_eq between.atEnd)

/-- A byte of a class without NUL and without the bytes of wider characters is passed. -/
theorem Placed.advance {accepts : UInt8 → Bool} {kind : Char → Bool} (placed : cursor.Placed)
    (part : PlainPart accepts kind) (no_nul : kind '\x00' = false)
    (accepted : accepts cursor.current = true) :
    Proceeds (Guarded.advance cursor) cursor cursor.advance := by
  obtain ⟨before, after, between⟩ := placed
  rcases after with _ | ⟨c, rest⟩
  · rw [between.accepts_nil part no_nul] at accepted
    contradiction
  · rw [between.accepts_cons part] at accepted
    exact between.proceeds_plain (Bool.and_eq_true_iff.mp accepted).1

theorem Placed.advance_mark {mark : Char} (placed : cursor.Placed) (known : isMark mark = true)
    (accepted : (cursor.current == mark.toUInt8) = true) :
    Proceeds (Guarded.advance cursor) cursor cursor.advance := by
  obtain ⟨plain, not_nul⟩ := isMark_iff.mp known
  exact placed.advance (beq_plainPart plain) (beq_false_of_ne not_nul.symm) accepted

theorem Placed.advance_either (mark other : Char) (placed : cursor.Placed)
    (known : isMark mark = true) (other_known : isMark other = true)
    (accepted : (cursor.current == mark.toUInt8 || cursor.current == other.toUInt8) = true) :
    Proceeds (Guarded.advance cursor) cursor cursor.advance := by
  rcases Bool.or_eq_true_iff.mp accepted with first | second
  · exact placed.advance_mark known first
  · exact placed.advance_mark other_known second

/-! ## Loops -/

section Loops

variable {accepts : UInt8 → Bool} {wide kind : Char → Bool} {count : Nat}

theorem Placed.not_atEnd_of_wide (placed : cursor.Placed)
    (wide : isWideByte cursor.current = true) : cursor.atEnd = false := by
  obtain ⟨before, after, between⟩ := placed
  rw [between.atEnd]
  rcases after with _ | ⟨c, rest⟩
  · rw [between.isWideByte_nil] at wide
    contradiction
  · rfl

/-- At the end of the window no class of bytes without NUL goes on. -/
theorem Placed.rejects_at_end (placed : cursor.Placed) (part : PlainPart accepts kind)
    (no_nul : kind '\x00' = false) (no_more : cursor.ahead = 0) :
    accepts cursor.current = false ∧ isWideByte cursor.current = false := by
  obtain ⟨before, after, between⟩ := placed
  rw [between.ahead, byteCount_eq_zero_iff] at no_more
  subst no_more
  exact ⟨between.accepts_nil part no_nul, between.isWideByte_nil⟩

theorem Placed.eatKindUpTo (placed : cursor.Placed) (part : PlainPart accepts kind)
    (no_nul : kind '\x00' = false) (enough : cursor.ahead ≤ count) :
    Arrives (Guarded.eatKindUpTo accepts wide count cursor) cursor
      (Cursor.eatKindUpTo accepts wide count cursor) := by
  induction count generalizing cursor with
  | zero =>
      obtain ⟨rejected, narrow⟩ := placed.rejects_at_end part no_nul (Nat.le_zero.mp enough)
      rw [Guarded.eatKindUpTo, rejected, narrow]
      exact .stay placed
  | succ count eaten =>
      refine .ite (fun accepted => ?_) fun _ => .ite (fun wide_kind => ?_) fun _ => .stay placed
      · have step := placed.advance part no_nul accepted
        have closer := step.ahead_lt
        exact step.toArrives.bind (eaten step.placed (by omega))
      · have is_wide := (Bool.and_eq_true_iff.mp wide_kind).1
        have step := placed.advanceChar (placed.not_atEnd_of_wide is_wide)
        have closer := step.ahead_lt
        exact step.toArrives.bind (eaten step.placed (by omega))

theorem Placed.eatBlanks (placed : cursor.Placed) :
    Arrives (Guarded.eatBlanks cursor) cursor cursor.eatBlanks := by
  rw [Cursor.eatBlanks, eatBlanksUpTo_eq]
  exact placed.eatKindUpTo isBlank_plainPart rfl (Nat.le_refl _)

theorem Placed.eatName (placed : cursor.Placed) :
    Arrives (Guarded.eatName cursor) cursor (eatNameUpTo cursor.ahead cursor) := by
  rw [eatNameUpTo_eq]
  exact placed.eatKindUpTo continuesName_plainPart (by decide +kernel) (Nat.le_refl _)

theorem Placed.eatWhile (placed : cursor.Placed) (part : PlainPart accepts kind)
    (no_nul : kind '\x00' = false) :
    Arrives (Guarded.eatWhile accepts cursor) cursor (cursor.eatWhile accepts) := by
  rw [Cursor.eatWhile, eatWhileUpTo_eq]
  exact placed.eatKindUpTo part no_nul (Nat.le_refl _)

/-- A class with NUL does not stop at the end of the window. -/
example : Guarded.eatKindUpTo (fun byte => byte == 0) (fun _ => false) 1 ⟨"", 0, 0⟩ =
    .error .pastEnd := rfl

theorem Placed.eatDigitsUpTo (placed : cursor.Placed) (points : Bool)
    (enough : cursor.ahead ≤ count) :
    Arrives (Guarded.eatDigitsUpTo points count cursor) cursor
      (Cursor.eatDigitsUpTo points count cursor) := by
  induction count generalizing cursor with
  | zero =>
      obtain ⟨rejected, narrow⟩ := placed.rejects_at_end (Between.isDigitOr_plainPart points)
        (Between.isDigitOr_nul points) (Nat.le_zero.mp enough)
      rw [Guarded.eatDigitsUpTo, rejected, narrow]
      exact .stay placed
  | succ count eaten =>
      have run := placed.eatWhile (Between.isDigitOr_plainPart points)
        (Between.isDigitOr_nul points)
      refine run.bind (.ite (fun wide_digit => ?_) fun _ => .stay run.placed)
      have is_wide := (Bool.and_eq_true_iff.mp wide_digit).1
      have step := run.placed.advanceChar (run.placed.not_atEnd_of_wide is_wide)
      have closer := step.ahead_lt
      have not_further := run.ahead_le
      exact step.toArrives.bind (eaten step.placed (by omega))

theorem Placed.eatDigits (placed : cursor.Placed) (points : Bool) :
    Arrives (Guarded.eatDigits points cursor) cursor (cursor.eatDigits points) :=
  placed.eatDigitsUpTo points (Nat.le_refl _)

end Loops

/-! ## Searches -/

section Searches

variable {found : Cursor → Bool} {hit : List Char → Bool} {count : Nat}

/-- A search passes at most the bytes that are left, so every one of them lies in the window. -/
theorem Guarded.seekUpTo_eq (left : cursor.pos.toNat + count = cursor.stop.toNat) :
    Guarded.seekUpTo found count cursor = .ok (Cursor.seekUpTo found count cursor) := by
  induction count generalizing cursor with
  | zero =>
      have at_end : cursor.atEnd = true := decide_eq_true (by rw [UInt32.le_iff_toNat_le]; omega)
      rw [Guarded.seekUpTo, at_end]
      rfl
  | succ count sought =>
      have more : cursor.atEnd = false :=
        decide_eq_false (by rw [UInt32.le_iff_toNat_le]; omega)
      have left_behind : cursor.advance.pos.toNat + count = cursor.advance.stop.toNat := by
        rw [toNat_advance more, Nat.add_right_comm]
        exact left
      rw [Guarded.seekUpTo, Cursor.seekUpTo]
      cases found cursor with
      | true => rfl
      | false =>
          rw [Guarded.advance_eq more]
          exact sought left_behind

theorem Guarded.seek_eq (found : Cursor → Bool) (cursor : Cursor) :
    Guarded.seek found cursor = .ok (cursor.seek found) := by
  rw [Guarded.seek, Cursor.seek]
  cases at_end : cursor.atEnd with
  | true => exact if_pos (UInt32.le_refl _)
  | false =>
      rw [Cursor.atEnd, decide_eq_false_iff_not, UInt32.le_iff_toNat_le] at at_end
      exact Guarded.seekUpTo_eq (by rw [Cursor.ahead]; omega)

theorem Placed.seek (placed : cursor.Placed) (spots : Spots found hit) :
    Arrives (Guarded.seek found cursor) cursor (cursor.seek found) := by
  obtain ⟨before, after, between⟩ := placed
  have moved := between.seek spots
  have size := congrArg byteCount (List.take_append_drop (distance hit after) after)
  refine ⟨Guarded.seek_eq found cursor, ⟨_, _, moved⟩, ?_⟩
  rw [byteCount_append] at size
  rw [moved.ahead, between.ahead]
  omega

theorem Placed.seekLineEnd (placed : cursor.Placed) :
    Arrives (Guarded.seekLineEnd cursor) cursor cursor.seekLineEnd :=
  placed.seek (spots_byte (by decide))

theorem Placed.seekStringMark (placed : cursor.Placed) :
    Arrives (Guarded.seekStringMark cursor) cursor cursor.seekStringMark :=
  placed.seek ((spots_byte (by decide)).or (spots_byte (by decide)))

theorem Placed.eatPastBlockEnd (placed : cursor.Placed) :
    Arrives (Guarded.eatPastBlockEnd cursor) cursor cursor.eatPastBlockEnd := by
  have sought := placed.seek spots_atBlockEnd
  refine sought.bind (.ite (fun _ => .stay sought.placed) fun more => ?_)
  obtain ⟨before, after, between⟩ := placed
  have moved := between.seek spots_atBlockEnd
  rw [moved.atEnd] at more
  rcases drop_distance startsBlockEnd after with no_mark | mark
  · simp [no_mark] at more
  · obtain ⟨left, joined⟩ := startsBlockEnd_iff.mp mark
    rw [joined] at moved
    have star := moved.proceeds_plain (by decide)
    have slash := (moved.advance (by decide)).proceeds_plain (by decide)
    exact star.toArrives.bind slash.toArrives

theorem Placed.eatStringUpTo (placed : cursor.Placed) (enough : cursor.ahead < count) :
    Arrives (Guarded.eatStringUpTo count cursor) cursor (Cursor.eatStringUpTo count cursor) := by
  induction count generalizing cursor with
  | zero => exact absurd enough (Nat.not_lt_zero _)
  | succ count eaten =>
      have mark := placed.seekStringMark
      have not_further := mark.ahead_le
      refine mark.bind (.ite (fun quote => ?_) fun _ => .ite (fun escape => ?_) fun _ => ?_)
      · exact (mark.placed.advance_mark (by decide) quote).toArrives
      · have escaped := mark.placed.advance_mark (by decide) escape
        have closer := escaped.ahead_lt
        have passed : Arrives _ _ _ := .ite (fun _ => .stay escaped.placed) fun more =>
          (escaped.placed.advanceChar more).toArrives
        have passed_not_further := passed.ahead_le
        exact escaped.toArrives.bind (passed.bind (eaten passed.placed (by omega)))
      · exact .stay mark.placed

theorem Placed.eatString (placed : cursor.Placed) :
    Arrives (Guarded.eatString cursor) cursor cursor.eatString :=
  placed.eatStringUpTo (Nat.lt_succ_self _)

end Searches

/-! ## Tokens -/

section Tokens

variable {vocabulary : Vocabulary} {before rest after : List Char} {first : Char}

theorem Placed.eatInOrder {marks : List Char} (placed : cursor.Placed)
    (known : ∀ mark ∈ marks, isMark mark = true) :
    Arrives (Guarded.eatInOrder (marks.map Char.toUInt8) cursor) cursor
      (Cursor.eatInOrder (marks.map Char.toUInt8) cursor) := by
  induction marks generalizing cursor with
  | nil => exact .stay placed
  | cons mark marks eaten =>
      refine .ite (fun stands => ?_) fun _ => .stay placed
      have step := placed.advance_mark (known mark List.mem_cons_self) stands
      exact step.toArrives.bind
        (eaten step.placed fun other member => known other (List.mem_cons_of_mem _ member))

theorem Placed.eatNumber (placed : cursor.Placed) :
    Arrives (Guarded.eatNumber cursor) cursor cursor.eatNumber := by
  have mantissa := placed.eatDigits true
  refine mantissa.bind (.ite (fun marked => ?_) fun _ => .stay mantissa.placed)
  have mark := mantissa.placed.advance_either 'e' 'E' (by decide) (by decide) marked
  have sign : Arrives _ _ _ := .ite
    (fun signed => (mark.placed.advance_either '+' '-' (by decide) (by decide) signed).toArrives)
    fun _ => .stay mark.placed
  exact mark.toArrives.bind (sign.bind (sign.placed.eatDigits false))

theorem Between.sliceFrom_eq (between : cursor.Between before ((first :: rest) ++ after))
    (moved : place.Between (before ++ (first :: rest)) after) :
    Guarded.sliceFrom place cursor.pos = .ok (place.sliceFrom cursor.pos) := by
  have in_order : ¬place.pos < cursor.pos := by
    rw [UInt32.not_lt, UInt32.le_iff_toNat_le, between.pos, moved.pos, byteCount_append]
    exact Nat.le_add_right _ _
  have word : slice? place.text cursor.pos.toNat place.pos.toNat =
      some (String.ofList (first :: rest)) := by
    rw [between.pos, moved.pos]
    exact slice?_of_split moved.text
  have not_empty : ¬(String.ofList (first :: rest)).isEmpty = true := by
    rw [String.isEmpty_iff, ← String.toList_inj, String.toList_ofList]
    exact List.cons_ne_nil _ _
  rw [Guarded.sliceFrom, if_neg in_order, word, between.sliceFrom moved]
  exact if_neg not_empty

theorem Between.readName_eq (between : cursor.Between before (first :: rest)) :
    Guarded.readName vocabulary cursor = .ok (cursor.readName vocabulary) := by
  have start := Placed.advanceChar ⟨_, _, between⟩ between.atEnd
  have name := start.placed.eatName
  have whole : cursor.Between before ((first :: rest.takeWhile Lexeme.continuesName) ++
      rest.dropWhile Lexeme.continuesName) := by
    rwa [List.cons_append, List.takeWhile_append_dropWhile]
  have moved := between.advanceChar.eatName
  rw [List.append_assoc, List.singleton_append] at moved
  rw [Guarded.readName, start.ok]
  change (Guarded.eatName _ >>= _) = _
  rw [name.ok]
  change (Guarded.sliceFrom _ _ >>= _) = _
  rw [whole.sliceFrom_eq moved]
  rfl

theorem Between.readSlash_eq (between : cursor.Between before ('/' :: rest)) :
    Guarded.readSlash cursor = .ok cursor.readSlash := by
  have slash := between.proceeds_plain (by decide)
  rw [Guarded.readSlash, slash.ok, Cursor.readSlash]
  change (if _ then _ else if _ then _ else _) = _
  cases line : cursor.advance.current == '/'.toUInt8 with
  | true =>
      have second := slash.placed.advance_mark (by decide) line
      exact (second.toArrives.bind second.placed.seekLineEnd).tagged _
  | false =>
      cases block : cursor.advance.current == '*'.toUInt8 with
      | true =>
          have second := slash.placed.advance_mark (by decide) block
          exact (second.toArrives.bind second.placed.eatPastBlockEnd).tagged _
      | false => rfl

theorem Between.readWide_eq (between : cursor.Between before (first :: rest)) :
    Guarded.readWide vocabulary cursor = .ok (cursor.readWide vocabulary) := by
  have placed : cursor.Placed := ⟨_, _, between⟩
  rw [Guarded.readWide, Cursor.readWide]
  cases isBlank cursor.character with
  | true => exact placed.eatBlanks.tagged _
  | false =>
      cases isDigit cursor.character with
      | true => exact placed.eatNumber.tagged _
      | false =>
          cases isLetter cursor.character with
          | true => exact between.readName_eq
          | false => exact (placed.advanceChar between.atEnd).toArrives.tagged _

theorem Between.readMark_eq (between : cursor.Between before (first :: rest))
    (plain : isPlain first = true) (not_slash : first ≠ '/') :
    Guarded.readMark cursor = .ok cursor.readMark := by
  have mark := between.proceeds_plain plain
  rw [Guarded.readMark, Cursor.readMark, between.current_cons, firstByte_of_plain plain,
    delimiterTag?_toUInt8 plain, operatorTail?_toUInt8 plain not_slash]
  cases Lexeme.delimiterTag? first with
  | some tag => exact mark.toArrives.tagged _
  | none =>
      cases tail : Lexeme.operatorTail? first with
      | none => exact mark.toArrives.tagged _
      | some marks =>
          have known := Lexeme.isMark_of_operatorTail? tail
          exact (mark.toArrives.bind (mark.placed.eatInOrder known)).tagged _

/-- A cursor before a character reads a token without a breach. -/
theorem Between.readToken_eq (vocabulary : Vocabulary)
    (between : cursor.Between before (first :: rest)) :
    Guarded.readToken vocabulary cursor = .ok (cursor.readToken vocabulary) := by
  have placed : cursor.Placed := ⟨_, _, between⟩
  rw [Guarded.readToken, Cursor.readToken]
  cases isBlankByte cursor.current with
  | true => exact placed.eatBlanks.tagged _
  | false =>
  cases hash : cursor.current == '#'.toUInt8 with
  | true =>
      have mark := placed.advance_mark (by decide) hash
      exact (mark.toArrives.bind mark.placed.seekLineEnd).tagged _
  | false =>
  cases slash : cursor.current == '/'.toUInt8 with
  | true =>
      rw [between.accepts_cons (beq_plainPart (by decide))] at slash
      obtain rfl := eq_of_beq (Bool.and_eq_true_iff.mp slash).2
      exact between.readSlash_eq
  | false =>
  cases quote : cursor.current == '"'.toUInt8 with
  | true =>
      have mark := placed.advance_mark (by decide) quote
      exact (mark.toArrives.bind mark.placed.eatString).tagged _
  | false =>
  cases isDigitByte cursor.current with
  | true => exact placed.eatNumber.tagged _
  | false =>
  cases startsNameByte cursor.current with
  | true => exact between.readName_eq
  | false =>
  cases wide : isWideByte cursor.current with
  | true => exact between.readWide_eq
  | false =>
      rw [between.isWideByte_cons, Bool.not_eq_false'] at wide
      rw [between.accepts_cons (beq_plainPart (by decide)), wide, Bool.true_and] at slash
      exact between.readMark_eq wide (ne_of_beq_false slash)

end Tokens

end Cursor
end ConfigLexer
