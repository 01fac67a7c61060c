import ConfigLexer.Proofs.Cursor.Between
import ConfigLexer.Proofs.Lexeme.Lookahead
import Mathlib.Logic.Function.Iterate

/-!
# Searching for a mark

The searches go byte by byte, through the middle of characters as well.  They stop only at plain
bytes, and no byte of a longer character is plain, so each search stops between two characters: at
the first place where what is left starts with the mark, or at the end of the text.
-/

namespace ConfigLexer
namespace Cursor

open Text Lexeme

/-- The number of characters before the first place where a test of what is left holds. -/
def distance (hit : List Char → Bool) : List Char → Nat
  | [] => 0
  | c :: rest => if hit (c :: rest) then 0 else distance hit rest + 1

theorem drop_distance (hit : List Char → Bool) (text : List Char) :
    text.drop (distance hit text) = [] ∨ hit (text.drop (distance hit text)) = true := by
  induction text with
  | nil => exact .inl rfl
  | cons c rest ih =>
      rw [distance]
      split
      · exact .inr ‹_›
      · exact ih

/-- A test of a cursor that agrees with a test of what is left, and that holds at plain bytes
only. -/
structure Spots (found : Cursor → Bool) (hit : List Char → Bool) : Prop where
  /-- The two agree between characters. -/
  agrees : ∀ {cursor before c rest}, Between cursor before (c :: rest) →
    found cursor = hit (c :: rest)
  /-- The test of the cursor fails at the bytes of longer characters. -/
  rejects : ∀ cursor, 0x80 ≤ cursor.current → found cursor = false

theorem iterate_advance (cursor : Cursor) (steps : Nat)
    (bound : cursor.pos.toNat + steps < UInt32.size) :
    (advance^[steps] cursor).text = cursor.text ∧ (advance^[steps] cursor).stop = cursor.stop ∧
      (advance^[steps] cursor).pos.toNat = cursor.pos.toNat + steps := by
  induction steps with
  | zero => exact ⟨rfl, rfl, rfl⟩
  | succ steps ih =>
      obtain ⟨text, stop, pos⟩ := ih (by omega)
      rw [Function.iterate_succ_apply']
      refine ⟨text, stop, ?_⟩
      rw [advance, UInt32.toNat_add, pos, UInt32.toNat_one]
      exact Nat.mod_eq_of_lt bound

/-- A search passes every byte at which it finds nothing. -/
theorem seekUpTo_iterate {found : Cursor → Bool} (steps count : Nat) (cursor : Cursor)
    (missed : ∀ index < steps, found (advance^[index] cursor) = false) :
    seekUpTo found (steps + count) cursor = seekUpTo found count (advance^[steps] cursor) := by
  induction steps generalizing cursor with
  | zero => rw [Nat.zero_add]; rfl
  | succ steps ih =>
      have first : found cursor = false := missed 0 (Nat.succ_pos steps)
      rw [Nat.succ_add, seekUpTo, first, ih, Function.iterate_succ_apply]
      · rfl
      · intro index inside
        exact missed (index + 1) (Nat.succ_lt_succ inside)

namespace Between

variable {cursor : Cursor} {before after rest : List Char} {c : Char}
variable {found : Cursor → Bool} {hit : List Char → Bool}

theorem pos_add_lt (between : cursor.Between before (c :: rest)) {steps : Nat}
    (inside : steps ≤ c.utf8Size) : cursor.pos.toNat + steps < UInt32.size := by
  have stop := between.stop
  have bound := cursor.stop.toNat_lt_size
  rw [byteCount_cons] at stop
  rw [between.pos]
  omega

theorem iterate_advance (between : cursor.Between before (c :: rest)) :
    (Cursor.advance^[c.utf8Size] cursor).Between (before ++ [c]) rest := by
  obtain ⟨text, stop, pos⟩ :=
    Cursor.iterate_advance cursor c.utf8Size (between.pos_add_lt (Nat.le_refl _))
  have split : cursor.Between before ([c] ++ rest) := between
  apply split.move _ text stop
  rw [pos, byteCount_cons, byteCount_nil, Nat.add_zero]

/-- Where the test fails between two characters it fails at every byte up to the next place. -/
theorem misses (spots : Spots found hit) (between : cursor.Between before (c :: rest))
    (missed : hit (c :: rest) = false) {index : Nat} (inside : index < c.utf8Size) :
    found (Cursor.advance^[index] cursor) = false := by
  cases plain : isPlain c with
  | true =>
      obtain rfl : index = 0 := by
        have width := isPlain_iff_size.mp plain
        omega
      exact (spots.agrees between).trans missed
  | false =>
      obtain ⟨text, -, pos⟩ :=
        Cursor.iterate_advance cursor index (between.pos_add_lt (Nat.le_of_lt inside))
      have wide : 0x80 ≤ (Cursor.advance^[index] cursor).current := by
        rw [current, text, pos, between.pos, byteAt_of_split between.text inside]
        apply wide_byte plain
        rw [List.getD_eq_getElem _ _ (by rwa [String.length_utf8EncodeChar])]
        exact List.getElem_mem _
      exact spots.rejects _ wide

theorem seekUpTo (spots : Spots found hit) (between : cursor.Between before after) :
    (Cursor.seekUpTo found (byteCount after) cursor).Between
      (before ++ after.take (distance hit after)) (after.drop (distance hit after)) := by
  induction after generalizing cursor before with
  | nil => simpa [Cursor.seekUpTo, distance] using between
  | cons c rest ih =>
      rw [byteCount_cons, distance]
      cases place : hit (c :: rest) with
      | true =>
          have width := c.utf8Size_pos
          obtain ⟨count, bytes⟩ : ∃ count, c.utf8Size + byteCount rest = count + 1 :=
            Nat.exists_eq_succ_of_ne_zero (by omega)
          rw [bytes, Cursor.seekUpTo, spots.agrees between, place]
          simpa using between
      | false =>
          rw [seekUpTo_iterate _ _ _ fun index => between.misses spots place]
          simpa using ih between.iterate_advance

/-- A search stops at the first place where what is left passes the test. -/
theorem seek (spots : Spots found hit) (between : cursor.Between before after) :
    (cursor.seek found).Between (before ++ after.take (distance hit after))
      (after.drop (distance hit after)) := by
  rw [Cursor.seek, between.atEnd, between.ahead]
  cases after with
  | nil =>
      have split : cursor.Between before ([] ++ []) := between
      apply split.move cursor.toEnd rfl rfl
      rw [between.pos]
      exact between.stop
  | cons c rest => exact between.seekUpTo spots

end Between

/-! ## The marks -/

/-- What is left starts with a character. -/
def startsWith (mark : Char) (text : List Char) : Bool := text.head? == some mark

theorem spots_byte {mark : Char} (known : isMark mark = true) :
    Spots (fun place => place.current == mark.toUInt8) (startsWith mark) where
  agrees between := between.current_beq known
  rejects _ high := (beq_plainPart (isMark_iff.mp known).1).rejects _ high

theorem Spots.or {found found' : Cursor → Bool} {hit hit' : List Char → Bool}
    (first : Spots found hit) (second : Spots found' hit') :
    Spots (fun place => found place || found' place) (fun text => hit text || hit' text) where
  agrees between := by rw [first.agrees between, second.agrees between]
  rejects cursor high := by rw [first.rejects cursor high, second.rejects cursor high, Bool.or_self]

/-- What is left starts with the closing mark of a block comment. -/
def startsBlockEnd (text : List Char) : Bool := text.head? == some '*' && startsWith '/' text.tail

theorem spots_atBlockEnd : Spots atBlockEnd startsBlockEnd where
  agrees := by
    intro cursor before c rest between
    rw [atBlockEnd, startsBlockEnd, between.current_beq (by decide)]
    cases star : (c :: rest).head? == some '*' with
    | false => rfl
    | true =>
        obtain rfl : c = '*' := by simpa using star
        rw [between.following_cons (by decide),
          (between.advance (by decide)).current_beq (by decide)]
        rfl
  rejects cursor high := by
    have not_star : (cursor.current == '*'.toUInt8) = false :=
      (beq_plainPart (by decide)).rejects _ high
    rw [atBlockEnd, not_star, Bool.false_and]

/-- What is left starts with a quote or with a backslash. -/
def startsStringMark (text : List Char) : Bool := startsWith '"' text || startsWith '\\' text

/-! ## The reach of the searches -/

theorem lineReach_eq (text : List Char) : lineReach text = distance (startsWith '\n') text := by
  induction text with
  | nil => rfl
  | cons c rest ih =>
      rw [lineReach] at ih
      by_cases newline : c = '\n'
      · simp [lineReach, distance, startsWith, newline]
      · simpa [lineReach, distance, startsWith, newline] using ih

theorem startsBlockEnd_iff {text : List Char} :
    startsBlockEnd text = true ↔ ∃ rest, text = '*' :: '/' :: rest := by
  rcases text with _ | ⟨c, _ | ⟨d, rest⟩⟩ <;> simp [startsBlockEnd, startsWith]

theorem blockReach_eq (text : List Char) :
    blockReach text = distance startsBlockEnd text +
      if text.drop (distance startsBlockEnd text) = [] then 0 else 2 := by
  induction text with
  | nil => rfl
  | cons c rest ih =>
      rw [blockReach_cons, distance]
      cases place : startsBlockEnd (c :: rest) with
      | true =>
          obtain ⟨left, joined⟩ := startsBlockEnd_iff.mp place
          obtain ⟨rfl, rfl⟩ := List.cons.inj joined
          rfl
      | false =>
          have no_mark : ¬(c = '*' ∧ rest.head? = some '/') := by
            rintro ⟨rfl, head⟩
            simp [startsBlockEnd, startsWith, head] at place
          rw [if_neg no_mark, ih]
          simp only [Bool.false_eq_true, if_false, List.drop_succ_cons]
          omega

theorem stringReach_eq (text : List Char) :
    stringReach text = distance startsStringMark text +
      match text.drop (distance startsStringMark text) with
      | [] => 0
      | [_] => 1
      | mark :: _ :: rest => if mark = '"' then 1 else stringReach rest + 2 := by
  induction text with
  | nil => rfl
  | cons c rest ih =>
      rw [distance]
      cases place : startsStringMark (c :: rest) with
      | true =>
          have mark : c = '"' ∨ c = '\\' := by
            simpa [startsStringMark, startsWith] using place
          rcases mark with rfl | rfl
          · cases rest <;> simp
          · cases rest with
            | nil => rfl
            | cons d rest => simp
      | false =>
          obtain ⟨not_quote, not_escape⟩ : c ≠ '"' ∧ c ≠ '\\' := by
            simpa [startsStringMark, startsWith] using place
          rw [stringReach_cons not_quote not_escape, ih, Nat.add_right_comm]
          rfl

namespace Between

variable {cursor place : Cursor} {before after : List Char} {count : Nat}

theorem join {first second : Nat}
    (between : place.Between (before ++ after.take first ++ (after.drop first).take second)
      ((after.drop first).drop second)) :
    place.Between (before ++ after.take (first + second)) (after.drop (first + second)) := by
  rwa [List.take_add, ← List.append_assoc, ← List.drop_drop]

theorem seekLineEnd (between : cursor.Between before after) :
    cursor.seekLineEnd.Between (before ++ after.take (lineReach after))
      (after.drop (lineReach after)) := by
  rw [lineReach_eq]
  exact between.seek (spots_byte (by decide))

theorem eatPastBlockEnd (between : cursor.Between before after) :
    cursor.eatPastBlockEnd.Between (before ++ after.take (blockReach after))
      (after.drop (blockReach after)) := by
  have moved := between.seek spots_atBlockEnd
  rw [Cursor.eatPastBlockEnd, blockReach_eq, moved.atEnd]
  rcases drop_distance startsBlockEnd after with no_mark | mark
  · simpa [no_mark] using moved
  · obtain ⟨left, joined⟩ := startsBlockEnd_iff.mp mark
    have nonempty : after.drop (distance startsBlockEnd after) ≠ [] := by simp [joined]
    rw [if_neg nonempty]
    apply join
    rw [joined] at moved ⊢
    have closed := (moved.advance (by decide)).advance (by decide)
    simpa using closed

theorem seekStringMark (between : cursor.Between before after) :
    cursor.seekStringMark.Between (before ++ after.take (distance startsStringMark after))
      (after.drop (distance startsStringMark after)) :=
  between.seek ((spots_byte (by decide)).or (spots_byte (by decide)))

theorem eatStringUpTo (between : cursor.Between before after) (enough : byteCount after < count) :
    (Cursor.eatStringUpTo count cursor).Between (before ++ after.take (stringReach after))
      (after.drop (stringReach after)) := by
  induction count generalizing cursor before after with
  | zero => exact absurd enough (Nat.not_lt_zero _)
  | succ count ih =>
      have moved := between.seekStringMark
      have size := congrArg byteCount
        (List.take_append_drop (distance startsStringMark after) after)
      rw [byteCount_append] at size
      rw [Cursor.eatStringUpTo, stringReach_eq, moved.current_beq (by decide),
        moved.current_beq (by decide)]
      apply join
      generalize before ++ after.take (distance startsStringMark after) = passed at *
      rcases drop_distance startsStringMark after with no_mark | found
      · simpa [no_mark] using moved
      generalize after.drop (distance startsStringMark after) = left at *
      rcases left with _ | ⟨mark, left⟩
      · simp [startsStringMark, startsWith] at found
      have known : mark = '"' ∨ mark = '\\' := by
        simpa [startsStringMark, startsWith] using found
      rcases known with rfl | rfl
      · cases left <;> simpa using moved.advance (by decide)
      · have escaped := moved.advance (by decide)
        have not_quote : ((some '\\' : Option Char) == some '"') = false := rfl
        simp only [List.head?_cons, not_quote, beq_self_eq_true, if_true, escaped.atEnd,
          Bool.false_eq_true, if_false]
        have escape_width := '\\'.utf8Size_pos
        rw [byteCount_cons] at size
        have room : byteCount left < count := by omega
        cases left with
        | nil => simpa [stringReach] using ih escaped room
        | cons d rest =>
            rw [byteCount_cons] at room
            simpa using ih escaped.advanceChar (by omega)

theorem eatString (between : cursor.Between before after) :
    cursor.eatString.Between (before ++ after.take (stringReach after))
      (after.drop (stringReach after)) := by
  rw [Cursor.eatString, between.ahead]
  exact between.eatStringUpTo (Nat.lt_succ_self _)

end Between
end Cursor
end ConfigLexer
