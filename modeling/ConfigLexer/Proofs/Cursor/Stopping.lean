import ConfigLexer.Proofs.Cursor.Eating
import ConfigLexer.Proofs.Cursor.Seeking
import ConfigLexer.Proofs.Text.Marks
import ConfigLexer.Proofs.Window.Fits
import Mathlib.Order.Bounds.Basic

/-!
# Where the moves of a cursor stop

A cursor looks at bytes, and what it looks for are characters.  Each of its moves stops between two
characters of its window: behind the next character, or at the first place where the characters say
that it has to stop, or at the end of the window if there is no such place.  No byte of a longer
character is taken for a character that is looked for.
-/

namespace ConfigLexer

open Text

/-! ## Places in a window -/

/-- The offsets in a window at which a character of a kind stands. -/
def standings (source : String) (window : Window) (kind : Char → Bool) : Set Nat :=
  {offset | window.start.toNat ≤ offset ∧ offset < window.stop.toNat ∧
    (charAt? source offset).any kind = true}

/-- The offsets in a window at which a star stands and a slash behind it. -/
def blockEnds (source : String) (window : Window) : Set Nat :=
  {offset | window.start.toNat ≤ offset ∧ offset + 1 < window.stop.toNat ∧
    charAt? source offset = some '*' ∧ charAt? source (offset + 1) = some '/'}

/-- The character ends the plain part of a string. -/
def isStringMark (c : Char) : Bool := c == '"' || c == '\\'

/-- A cursor has moved in a window, a number of bytes behind the first of some offsets, or to the
end if there are none. -/
structure StopsAt (source : String) (window : Window) (targets : Set Nat) (width : Nat)
    (place : Cursor) : Prop where
  /-- The cursor is that of the part of the window which is left. -/
  left : place = Cursor.ofWindow source ⟨place.pos, window.stop⟩
  /-- The cursor stands between characters and not behind the end of the window. -/
  fits : Window.Fits ⟨place.pos, window.stop⟩ source
  /-- The cursor has not moved back. -/
  start_le : window.start ≤ place.pos
  /-- If there are such offsets, the first of them decides. -/
  found : ∀ offset, IsLeast targets offset → place.pos.toNat = offset + width
  /-- If there is no such offset, the cursor stops at the end. -/
  missing : targets = ∅ → place.pos = window.stop

variable {source : String} {window : Window} {place : Cursor} {kind : Char → Bool}
variable {hit : List Char → Bool} {start offset width count : Nat} {targets : Set Nat}
variable {before middle passed rest after text : List Char} {c : Char}

theorem isLeast_standings (behind : window.start.toNat ≤ offset)
    (inside : offset < window.stop.toNat) (stands : (charAt? source offset).any kind = true)
    (none_before : ∀ earlier < offset, (charAt? source earlier).any kind = false) :
    IsLeast (standings source window kind) offset := by
  refine ⟨⟨behind, inside, stands⟩, ?_⟩
  rintro other ⟨-, -, other_stands⟩
  by_contra earlier
  rw [none_before other (Nat.lt_of_not_le earlier)] at other_stands
  exact Bool.false_ne_true other_stands

/-- A character is read in a window where the text of the window has it. -/
theorem Window.Cuts.charAt?_eq_some_iff (cuts : window.Cuts source before middle after) :
    window.start.toNat ≤ offset ∧ offset < window.stop.toNat ∧ charAt? source offset = some c ↔
      ∃ passed rest, middle = passed ++ c :: rest ∧
        offset = window.start.toNat + byteCount passed := by
  constructor
  · rintro ⟨behind, inside, found⟩
    have toNat_offset : offset.toUInt32.toNat = offset :=
      UInt32.toNat_ofNat_of_lt' (Nat.lt_trans inside window.stop.toNat_lt_size)
    have boundary : isBoundary source offset = true := by
      obtain ⟨upTo, beyond, split, size⟩ := Text.charAt?_eq_some_iff.mp found
      exact isBoundary_iff.mpr ⟨_, _, split, size⟩
    rw [← toNat_offset] at boundary
    obtain ⟨passed, left, rfl, place⟩ := cuts.exists_split boundary
      (by rwa [UInt32.le_iff_toNat_le, toNat_offset])
      (by rw [UInt32.le_iff_toNat_le, toNat_offset]; exact Nat.le_of_lt inside)
    rw [toNat_offset] at place
    have split : source.toList = (before ++ passed) ++ (left ++ after) := by
      rw [cuts.text]
      simp only [List.append_assoc]
    have size : offset = byteCount (before ++ passed) := by
      rw [place, cuts.start, byteCount_append]
    rw [size, charAt?_of_split split] at found
    cases left with
    | nil =>
        rw [cuts.stop_eq, place, List.append_nil] at inside
        exact absurd inside (Nat.lt_irrefl _)
    | cons d rest =>
        obtain rfl : d = c := by simpa using found
        exact ⟨passed, rest, rfl, place⟩
  · rintro ⟨passed, rest, rfl, rfl⟩
    have split : source.toList = (before ++ passed) ++ c :: (rest ++ after) := by
      rw [cuts.text]
      simp only [List.append_assoc, List.cons_append]
    refine ⟨Nat.le_add_right _ _, ?_, ?_⟩
    · have width := c.utf8Size_pos
      rw [cuts.stop_eq, byteCount_append, byteCount_cons]
      omega
    · rw [cuts.start, ← byteCount_append]
      exact Text.charAt?_eq_some_iff.mpr ⟨_, _, split, rfl⟩

namespace Cursor

/-! ## Places in a text -/

/-- The offsets of the parts of a text that pass a test from their start on, if the text starts at
an offset. -/
def hits (hit : List Char → Bool) (start : Nat) (text : List Char) : Set Nat :=
  {offset | ∃ passed c rest, text = passed ++ c :: rest ∧ hit (c :: rest) = true ∧
    offset = start + byteCount passed}

theorem distance_le (split : text = passed ++ c :: rest) (holds : hit (c :: rest) = true) :
    distance hit text ≤ passed.length := by
  induction passed generalizing text with
  | nil =>
      rw [split, List.nil_append, distance, if_pos holds]
      exact Nat.zero_le _
  | cons d passed ih =>
      rw [split, List.cons_append, distance, List.length_cons]
      split_ifs
      · exact Nat.zero_le _
      · exact Nat.succ_le_succ (ih rfl)

/-- There are no hits where the distance leads to the end, and it leads to the first one
otherwise. -/
theorem hits_distance (hit : List Char → Bool) (start : Nat) (text : List Char) :
    text.drop (distance hit text) = [] ∧ hits hit start text = ∅ ∨
      text.drop (distance hit text) ≠ [] ∧
        IsLeast (hits hit start text) (start + byteCount (text.take (distance hit text))) := by
  have parts := List.take_append_drop (distance hit text) text
  have found := drop_distance hit text
  cases left : text.drop (distance hit text) with
  | nil =>
      refine .inl ⟨rfl, Set.eq_empty_iff_forall_notMem.mpr ?_⟩
      rintro offset ⟨passed, c, rest, split, holds, -⟩
      have not_before := distance_le split holds
      have at_end := List.drop_eq_nil_iff.mp left
      rw [congrArg List.length split, List.length_append, List.length_cons] at at_end
      omega
  | cons c rest =>
      rw [left] at parts found
      have holds := found.resolve_left (List.cons_ne_nil _ _)
      refine .inr ⟨List.cons_ne_nil _ _, ⟨_, c, rest, parts.symm, holds, rfl⟩, ?_⟩
      rintro offset ⟨passed, d, others, split, holds, rfl⟩
      have begins : passed <+: text := ⟨_, split.symm⟩
      have short : (text.take (distance hit text)).length ≤ passed.length :=
        (List.length_take_le _ _).trans (distance_le split holds)
      obtain ⟨others, joined⟩ :=
        List.prefix_of_prefix_length_le (List.take_prefix _ _) begins short
      rw [← joined, byteCount_append]
      omega

end Cursor

/-! ## Moves -/

namespace Window.Cuts

open Cursor

theorem stopsAt (cuts : window.Cuts source before (passed ++ rest) after)
    (moved : place.Between (before ++ passed) rest)
    (found : ∀ offset, IsLeast targets offset →
      window.start.toNat + byteCount passed = offset + width)
    (missing : targets = ∅ → rest = []) : StopsAt source window targets width place := by
  have pos : place.pos.toNat = window.start.toNat + byteCount passed := by
    rw [moved.pos, byteCount_append, cuts.start]
  obtain ⟨-, behind⟩ := cuts.split pos
  refine ⟨behind.between.unique moved, behind.fits, ?_, ?_, ?_⟩
  · rw [UInt32.le_iff_toNat_le, pos]
    exact Nat.le_add_right _ _
  · intro offset least
    rw [pos, found offset least]
  · intro nothing
    rw [← UInt32.toNat_inj, pos, cuts.stop_eq, missing nothing, List.append_nil]

/-- A cursor that has passed the text before the first hit, or that hit as well. -/
theorem stopsAt_of_hits (cuts : window.Cuts source before middle after)
    (moved : place.Between (before ++ middle.take count) (middle.drop count))
    (targets_eq : targets = hits hit window.start.toNat middle)
    (at_hit : middle.drop (distance hit middle) ≠ [] →
      byteCount (middle.take count) = byteCount (middle.take (distance hit middle)) + width)
    (at_end : middle.drop (distance hit middle) = [] → middle.drop count = []) :
    StopsAt source window targets width place := by
  rw [← List.take_append_drop count middle] at cuts
  rcases hits_distance hit window.start.toNat middle with ⟨at_last, none⟩ | ⟨inside, first⟩
  · rw [← targets_eq] at none
    refine cuts.stopsAt moved ?_ fun _ => at_end at_last
    rintro offset ⟨member, -⟩
    rw [none] at member
    exact absurd member (Set.notMem_empty offset)
  · rw [← targets_eq] at first
    refine cuts.stopsAt moved ?_ ?_
    · intro offset least
      rw [least.unique first, at_hit inside, Nat.add_assoc]
    · intro none
      exact absurd first.1 (none ▸ Set.notMem_empty _)

theorem standings_eq (cuts : window.Cuts source before middle after)
    (agrees : ∀ c rest, hit (c :: rest) = kind c) :
    standings source window kind = hits hit window.start.toNat middle := by
  ext offset
  constructor
  · rintro ⟨behind, inside, stands⟩
    obtain ⟨c, found, of_kind⟩ := (Option.any_eq_true _ _).mp stands
    obtain ⟨passed, rest, split, place⟩ := cuts.charAt?_eq_some_iff.mp ⟨behind, inside, found⟩
    exact ⟨passed, c, rest, split, (agrees c rest).trans of_kind, place⟩
  · rintro ⟨passed, c, rest, split, holds, place⟩
    obtain ⟨behind, inside, found⟩ := cuts.charAt?_eq_some_iff.mpr ⟨passed, rest, split, place⟩
    refine ⟨behind, inside, ?_⟩
    rw [found, Option.any_some, ← agrees c rest, holds]

theorem blockEnds_eq (cuts : window.Cuts source before middle after) :
    blockEnds source window = hits startsBlockEnd window.start.toNat middle := by
  have star_size : '*'.utf8Size = 1 := rfl
  ext offset
  constructor
  · rintro ⟨behind, inside, star, slash⟩
    obtain ⟨passed, rest, split, star_place⟩ :=
      cuts.charAt?_eq_some_iff.mp ⟨behind, by omega, star⟩
    obtain ⟨through, others, slash_split, slash_place⟩ :=
      cuts.charAt?_eq_some_iff.mp ⟨by omega, inside, slash⟩
    have begins : passed ++ ['*'] <+: middle := ⟨rest, by rw [split, List.append_assoc]; rfl⟩
    have sizes : byteCount (passed ++ ['*']) = byteCount through := by
      rw [byteCount_append, byteCount_cons, byteCount_nil, star_size]
      omega
    obtain rfl := eq_of_byteCount_eq begins ⟨_, slash_split.symm⟩ sizes
    have closed : '*' :: rest = '*' :: '/' :: others := by
      rwa [split, List.append_assoc, List.append_cancel_left_eq] at slash_split
    exact ⟨passed, '*', rest, split, startsBlockEnd_iff.mpr ⟨others, closed⟩, star_place⟩
  · rintro ⟨passed, c, rest, split, holds, star_place⟩
    obtain ⟨others, closed⟩ := startsBlockEnd_iff.mp holds
    obtain ⟨rfl, rfl⟩ := List.cons.inj closed
    have slash_split : middle = (passed ++ ['*']) ++ '/' :: others := by
      rw [split, List.append_assoc]
      rfl
    have slash_place : offset + 1 = window.start.toNat + byteCount (passed ++ ['*']) := by
      rw [star_place, byteCount_append, byteCount_cons, byteCount_nil, star_size, Nat.add_assoc]
    obtain ⟨behind, -, star⟩ := cuts.charAt?_eq_some_iff.mpr ⟨passed, _, split, star_place⟩
    obtain ⟨-, inside, slash⟩ := cuts.charAt?_eq_some_iff.mpr ⟨_, _, slash_split, slash_place⟩
    exact ⟨behind, inside, star, slash⟩

end Window.Cuts

theorem Window.Fits.current_of_charAt? (fits : window.Fits source)
    (inside : window.start < window.stop) (known : isMark c = true)
    (stands : charAt? source window.start.toNat = some c) :
    (Cursor.ofWindow source window).current = c.toUInt8 := by
  obtain ⟨before, middle, after, cuts⟩ := fits.cuts
  obtain ⟨passed, rest, rfl, place⟩ := cuts.charAt?_eq_some_iff.mp
    ⟨Nat.le_refl _, UInt32.lt_iff_toNat_lt.mp inside, stands⟩
  obtain rfl : passed = [] := byteCount_eq_zero_iff.mp (by omega)
  rw [cuts.between.current_cons, firstByte_of_plain (isMark_iff.mp known).1]

theorem Window.Fits.current_at_stop (fits : window.Fits source)
    (at_stop : window.start = window.stop) : (Cursor.ofWindow source window).current = 0 := by
  obtain ⟨before, middle, after, cuts⟩ := fits.cuts
  have size := cuts.stop_eq
  rw [at_stop] at size
  obtain rfl : middle = [] := byteCount_eq_zero_iff.mp (by omega)
  exact cuts.between.current_nil

theorem charWidth_of_charAt? (found : charAt? source offset = some c) :
    (Cursor.charWidth (byteAt source offset)).toNat = c.utf8Size := by
  obtain ⟨before, rest, split, rfl⟩ := charAt?_eq_some_iff.mp found
  have first := byteAt_of_split split c.utf8Size_pos
  rw [Nat.add_zero] at first
  rw [first, charWidth_firstByte]

namespace Cursor

/-- What is left starts with a character of a kind. -/
def startsKind (kind : Char → Bool) (text : List Char) : Bool := text.head?.any kind

theorem run_eq_distance (kind : Char → Bool) (text : List Char) :
    text.takeWhile (fun c => !kind c) = text.take (distance (startsKind kind) text) ∧
      text.dropWhile (fun c => !kind c) = text.drop (distance (startsKind kind) text) := by
  induction text with
  | nil => exact ⟨rfl, rfl⟩
  | cons c rest ih =>
      rw [distance]
      cases of_kind : kind c <;> simp [startsKind, of_kind, ih]

theorem eatBlanks_stops (cuts : window.Cuts source before middle after) :
    StopsAt source window (standings source window fun c => !isBlank c) 0
      (ofWindow source window).eatBlanks := by
  have moved := cuts.between.eatBlanks
  obtain ⟨taken, dropped⟩ := run_eq_distance (fun c => !isBlank c) middle
  simp only [Bool.not_not] at taken dropped
  rw [taken, dropped] at moved
  exact cuts.stopsAt_of_hits moved (cuts.standings_eq fun _ _ => rfl) (fun _ => rfl) id

theorem seekLineEnd_stops (cuts : window.Cuts source before middle after) :
    StopsAt source window (standings source window (· == '\n')) 0
      (ofWindow source window).seekLineEnd := by
  have moved := cuts.between.seekLineEnd
  rw [lineReach_eq] at moved
  exact cuts.stopsAt_of_hits moved (cuts.standings_eq fun _ _ => rfl) (fun _ => rfl) id

theorem seekStringMark_stops (cuts : window.Cuts source before middle after) :
    StopsAt source window (standings source window isStringMark) 0
      (ofWindow source window).seekStringMark :=
  cuts.stopsAt_of_hits cuts.between.seekStringMark (cuts.standings_eq fun _ _ => rfl) (fun _ => rfl)
    id

theorem seekStringMark_current (cuts : window.Cuts source before middle after) :
    (∀ offset, IsLeast (standings source window isStringMark) offset →
      ∃ mark, isStringMark mark = true ∧ charAt? source offset = some mark ∧
        (ofWindow source window).seekStringMark.current = mark.toUInt8) ∧
    (standings source window isStringMark = ∅ →
      (ofWindow source window).seekStringMark.current = 0) := by
  have stops := seekStringMark_stops cuts
  rw [stops.left]
  constructor
  · intro offset least
    obtain ⟨-, inside, stands⟩ := least.1
    obtain ⟨mark, found, known⟩ := (Option.any_eq_true _ _).mp stands
    have pos := stops.found offset least
    rw [Nat.add_zero] at pos
    have mark_known : isMark mark = true := by
      rcases Bool.or_eq_true_iff.mp known with quote | escape
      · exact eq_of_beq quote ▸ by decide
      · exact eq_of_beq escape ▸ by decide
    rw [← pos] at inside found
    exact ⟨mark, known, pos ▸ found, stops.fits.current_of_charAt?
      (UInt32.lt_iff_toNat_lt.mpr inside) mark_known found⟩
  · intro nothing
    exact stops.fits.current_at_stop (stops.missing nothing)

theorem eatPastBlockEnd_stops (cuts : window.Cuts source before middle after) :
    StopsAt source window (blockEnds source window) 2 (ofWindow source window).eatPastBlockEnd := by
  refine cuts.stopsAt_of_hits cuts.between.eatPastBlockEnd cuts.blockEnds_eq ?_ ?_
  · intro inside
    obtain ⟨rest, mark⟩ := startsBlockEnd_iff.mp ((drop_distance _ _).resolve_left inside)
    rw [blockReach_eq, if_neg inside, List.take_add, mark, byteCount_append]
    rfl
  · intro at_end
    rw [blockReach_eq, if_pos at_end, Nat.add_zero, at_end]

theorem advanceChar_stops (cuts : window.Cuts source before (c :: rest) after) :
    StopsAt source window {window.start.toNat} c.utf8Size (ofWindow source window).advanceChar := by
  have one : window.Cuts source before ([c] ++ rest) after := cuts
  refine one.stopsAt cuts.between.advanceChar ?_ ?_
  · rintro offset ⟨rfl, -⟩
    rw [byteCount_cons, byteCount_nil, Nat.add_zero]
  · intro nothing
    exact absurd nothing (Set.singleton_ne_empty _)

/-- Each move stops at the first place where the characters say so, or at the end of the window.
Widths and marks are told by bytes. -/
theorem moves_stop (source : String) (window : Window) (fits : window.Fits source) :
    (window.start < window.stop → ∃ c, charAt? source window.start.toNat = some c ∧
      StopsAt source window {window.start.toNat} c.utf8Size
        (ofWindow source window).advanceChar) ∧
    StopsAt source window (standings source window fun c => !isBlank c) 0
      (ofWindow source window).eatBlanks ∧
    StopsAt source window (standings source window (· == '\n')) 0
      (ofWindow source window).seekLineEnd ∧
    StopsAt source window (blockEnds source window) 2 (ofWindow source window).eatPastBlockEnd ∧
    StopsAt source window (standings source window isStringMark) 0
      (ofWindow source window).seekStringMark ∧
    (∀ offset, IsLeast (standings source window isStringMark) offset →
      ∃ mark, isStringMark mark = true ∧ charAt? source offset = some mark ∧
        (ofWindow source window).seekStringMark.current = mark.toUInt8) ∧
    (standings source window isStringMark = ∅ →
      (ofWindow source window).seekStringMark.current = 0) ∧
    (∀ offset c, charAt? source offset = some c →
      (charWidth (byteAt source offset)).toNat = c.utf8Size) ∧
    ∀ offset mark, isMark mark = true →
      (byteAt source offset = mark.toUInt8 ↔ charAt? source offset = some mark) := by
  obtain ⟨before, middle, after, cuts⟩ := fits.cuts
  obtain ⟨string_mark, no_string_mark⟩ := seekStringMark_current cuts
  refine ⟨?_, eatBlanks_stops cuts, seekLineEnd_stops cuts, eatPastBlockEnd_stops cuts,
    seekStringMark_stops cuts, string_mark, no_string_mark, fun _ _ => charWidth_of_charAt?,
    fun _ _ => byteAt_eq_mark_iff⟩
  intro more
  have size := cuts.stop_eq
  rw [UInt32.lt_iff_toNat_lt] at more
  cases middle with
  | nil =>
      rw [byteCount_nil] at size
      omega
  | cons c rest =>
      obtain ⟨-, -, stands⟩ := cuts.charAt?_eq_some_iff.mpr ⟨[], rest, rfl, rfl⟩
      exact ⟨c, stands, advanceChar_stops cuts⟩

/-- A wide blank and a tab stand in front of a wide letter and a closing mark.  The window ends
inside of a second mark. -/
theorem moves_stop_wide :
    (⟨0, 10⟩ : Window).Fits "\u00a0\té*/\"**/" ∧
      (ofWindow "\u00a0\té*/\"**/" ⟨0, 10⟩).eatBlanks.pos.toNat = 3 ∧
      (ofWindow "\u00a0\té*/\"**/" ⟨0, 10⟩).seekLineEnd.pos = 10 ∧
      (ofWindow "\u00a0\té*/\"**/" ⟨0, 10⟩).eatPastBlockEnd.pos.toNat = 7 ∧
      (ofWindow "\u00a0\té*/\"**/" ⟨0, 10⟩).seekStringMark.pos.toNat = 7 := by
  have fits : (⟨0, 10⟩ : Window).Fits "\u00a0\té*/\"**/" := by decide +kernel
  obtain ⟨-, blanks, lines, blocks, strings, -⟩ := moves_stop _ _ fits
  have letter : IsLeast (standings "\u00a0\té*/\"**/" ⟨0, 10⟩ fun c => !isBlank c) 3 :=
    isLeast_standings (by decide) (by decide) (by decide +kernel) (by decide +kernel)
  have quote : IsLeast (standings "\u00a0\té*/\"**/" ⟨0, 10⟩ isStringMark) 7 :=
    isLeast_standings (by decide) (by decide) (by decide +kernel) (by decide +kernel)
  have no_line : ∀ offset < 10,
      (charAt? "\u00a0\té*/\"**/" offset).any (· == '\n') = false := by decide +kernel
  have no_break : standings "\u00a0\té*/\"**/" ⟨0, 10⟩ (· == '\n') = ∅ :=
    Set.eq_empty_iff_forall_notMem.mpr fun offset ⟨_, inside, stands⟩ => by
      simp [no_line offset inside] at stands
  have no_star : ∀ offset < 5, charAt? "\u00a0\té*/\"**/" offset ≠ some '*' := by decide +kernel
  have mark : IsLeast (blockEnds "\u00a0\té*/\"**/" ⟨0, 10⟩) 5 :=
    ⟨⟨by decide, by decide, by decide +kernel, by decide +kernel⟩, fun offset ⟨_, _, star, _⟩ =>
      Nat.le_of_not_lt fun earlier => no_star offset earlier star⟩
  exact ⟨fits, blanks.found 3 letter, lines.missing no_break, blocks.found 5 mark,
    strings.found 7 quote⟩

end Cursor
end ConfigLexer
