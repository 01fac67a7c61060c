import ConfigLexer.Proofs.Cursor.Guarded
import ConfigLexer.Proofs.Lexeme.Escaping
import ConfigLexer.Proofs.Session.Run
import ConfigLexer.Proofs.Text.Marks
import Mathlib.Data.Set.Basic
import Mathlib.Order.Bounds.Defs

/-!
# Where a string ends

A string ends with the first quote behind an even number of backslashes in a row, and at the end of
the window if there is no such quote.  It is read in rounds, each of which takes one backslash and
the character after it; as each round leaves fewer bytes, there is a last one.
-/

namespace ConfigLexer

open Text Lexeme

/-! ## The rounds -/

namespace Cursor

/-- Move over a backslash and over the character after it, if there is one. -/
def passEscape (mark : Cursor) : Cursor :=
  if mark.advance.atEnd then mark.advance else mark.advance.advanceChar

/-- A string is read from one cursor to another, in as many rounds as it takes. -/
inductive ReadsString : Cursor → Cursor → Prop
  /-- A quote ends the string. -/
  | closed {cursor : Cursor} : cursor.seekStringMark.current = '"'.toUInt8 →
      ReadsString cursor cursor.seekStringMark.advance
  /-- A backslash is passed with the character after it, and the string goes on. -/
  | escaped {cursor last : Cursor} : cursor.seekStringMark.current = '\\'.toUInt8 →
      ReadsString cursor.seekStringMark.passEscape last → ReadsString cursor last
  /-- Where there is neither, the window ends. -/
  | unclosed {cursor : Cursor} : cursor.seekStringMark.current ≠ '"'.toUInt8 →
      cursor.seekStringMark.current ≠ '\\'.toUInt8 → ReadsString cursor cursor.seekStringMark

variable {cursor : Cursor} {count : Nat}

theorem Placed.passEscape (placed : cursor.Placed)
    (escape : (cursor.current == '\\'.toUInt8) = true) :
    cursor.passEscape.Placed ∧ cursor.passEscape.ahead < cursor.ahead := by
  have escaped := placed.advance_mark (by decide) escape
  rw [Cursor.passEscape]
  split_ifs with ended
  · exact ⟨escaped.placed, escaped.ahead_lt⟩
  · have passed := escaped.placed.advanceChar (by simpa using ended)
    exact ⟨passed.placed, Nat.lt_trans passed.ahead_lt escaped.ahead_lt⟩

theorem Placed.readsString_upTo (placed : cursor.Placed) (enough : cursor.ahead < count) :
    ReadsString cursor (Cursor.eatStringUpTo count cursor) := by
  induction count generalizing cursor with
  | zero => exact absurd enough (Nat.not_lt_zero _)
  | succ count reads =>
      have mark := placed.seekStringMark
      have not_further := mark.ahead_le
      rw [Cursor.eatStringUpTo]
      dsimp only
      split
      · rename_i quote
        exact .closed (eq_of_beq quote)
      · rename_i no_quote
        split
        · rename_i escape
          obtain ⟨passed, closer⟩ := mark.placed.passEscape escape
          exact .escaped (eq_of_beq escape) (reads passed (by omega))
        · rename_i no_escape
          exact .unclosed (by simpa using no_quote) (by simpa using no_escape)

/-- Every string is read in finitely many rounds. -/
theorem Placed.readsString (placed : cursor.Placed) : ReadsString cursor cursor.eatString :=
  placed.readsString_upTo (Nat.lt_succ_self _)

end Cursor

/-! ## The closing quote -/

/-- The number of backslashes in a row that end in front of an offset and start behind the opening
quote. -/
def backslashesBefore (source : String) (opening : Nat) : Nat → Nat
  | 0 => 0
  | offset + 1 =>
      if opening < offset ∧ byteAt source offset = '\\'.toUInt8 then
        backslashesBefore source opening offset + 1
      else 0

/-- The offsets in a window, behind the quote at its start, of the quotes that stand behind an even
number of backslashes. -/
def closings (source : String) (window : Window) : Set Nat :=
  {offset | window.start.toNat < offset ∧ offset < window.stop.toNat ∧
    byteAt source offset = '"'.toUInt8 ∧
    Even (backslashesBefore source window.start.toNat offset)}

variable {vocabulary : Vocabulary} {source : String} {window : Window} {offset opening : Nat}
variable {before body rest after : List Char}

theorem backslashesBefore_eq (split : source.toList = before ++ body ++ after)
    (begins : byteCount before = opening + 1) :
    backslashesBefore source opening (opening + 1 + byteCount body) = escapes body := by
  induction body using List.reverseRecOn generalizing after with
  | nil =>
      rw [byteCount_nil, Nat.add_zero, backslashesBefore,
        if_neg fun both => Nat.lt_irrefl _ both.1]
      rfl
  | append_singleton body c ih =>
      have width := c.utf8Size_pos
      have c_split : source.toList = (before ++ body) ++ c :: after := by simpa using split
      have plain : isPlain '\\' = true := by decide
      have last : c.utf8Size - 1 < c.utf8Size := by omega
      have last_byte := byteAt_eq_iff plain c_split last
      have place : byteCount (before ++ body) + (c.utf8Size - 1) + 1 =
          opening + 1 + byteCount (body ++ [c]) := by
        simp only [byteCount_append, byteCount_cons, byteCount_nil, begins]
        omega
      have behind : opening < byteCount (before ++ body) + (c.utf8Size - 1) := by
        rw [byteCount_append]
        omega
      rw [← place, backslashesBefore, escapes_concat]
      by_cases escape : c = '\\'
      · have body_split : source.toList = before ++ body ++ (c :: after) := by simpa using c_split
        have earlier := ih body_split
        have start : byteCount (before ++ body) + (c.utf8Size - 1) =
            opening + 1 + byteCount body := by
          rw [byteCount_append, begins, escape]
          rfl
        rw [if_pos ⟨behind, last_byte.mpr escape⟩, if_pos escape, start, earlier]
      · rw [if_neg fun both => escape (last_byte.mp both.2), if_neg escape]

theorem closings_eq (cuts : window.Cuts source before ('"' :: rest) after) :
    closings source window =
      {offset | ∃ body tail, rest = body ++ '"' :: tail ∧
        offset = window.start.toNat + 1 + byteCount body ∧ Even (escapes body)} := by
  have split : source.toList = (before ++ ['"']) ++ rest ++ after := by simpa using cuts.text
  have begins : byteCount (before ++ ['"']) = window.start.toNat + 1 := by
    rw [byteCount_append, cuts.start]
    rfl
  have stop : window.stop.toNat = byteCount (before ++ ['"'] ++ rest) := by
    rw [cuts.stop, List.append_assoc, List.singleton_append]
  have run_length {body tail : List Char} (rest_eq : rest = body ++ '"' :: tail) :
      backslashesBefore source window.start.toNat (window.start.toNat + 1 + byteCount body) =
        escapes body := by
    have body_split : source.toList = (before ++ ['"']) ++ body ++ ('"' :: tail ++ after) := by
      rw [split, rest_eq]
      simp
    exact backslashesBefore_eq body_split begins
  have plain : isPlain '"' = true := by decide
  ext offset
  constructor
  · rintro ⟨behind, inside, quote, even⟩
    obtain ⟨body, tail, rest_eq, rfl⟩ :=
      exists_split_of_byteAt plain split (by omega) (by omega) quote
    rw [begins] at even ⊢
    rw [run_length rest_eq] at even
    exact ⟨body, tail, rest_eq, rfl, even⟩
  · rintro ⟨body, tail, rest_eq, rfl, even⟩
    have quote_split : source.toList = (before ++ ['"'] ++ body) ++ '"' :: (tail ++ after) := by
      rw [split, rest_eq]
      simp
    have quote := (byteAt_eq_iff plain quote_split '"'.utf8Size_pos).mpr rfl
    rw [Nat.add_zero, byteCount_append, begins] at quote
    refine ⟨by omega, ?_, quote, by rwa [run_length rest_eq]⟩
    rw [stop, byteCount_append, begins, rest_eq, byteCount_append, byteCount_cons]
    have width := '"'.utf8Size_pos
    omega

theorem lex_quote (vocabulary : Vocabulary) (rest : List Char) :
    lex vocabulary ('"' :: rest) =
      ⟨.string, '"' :: rest.take (stringReach rest)⟩ ::
        lex vocabulary (rest.drop (stringReach rest)) := by
  have reached : reach vocabulary '"' rest = (.string, stringReach rest) := by
    have rule : ruleOf '"' = .quote := by decide +kernel
    rw [reach_eq, rule]
    rfl
  rw [lex_cons, reached]

/-- Behind its opening quote a string consists of the characters through the first quote that is not
escaped. -/
theorem take_stringReach_of_least {tail : List Char} (split : rest = body ++ '"' :: tail)
    (closes : Even (escapes body))
    (least : ∀ other left, rest = other ++ '"' :: left → Even (escapes other) →
      byteCount body ≤ byteCount other) :
    rest.take (stringReach rest) = body ++ ['"'] := by
  have not_further : stringReach rest ≤ body.length + 1 := by
    rw [split]
    exact stringReach_le even_escapes_nil closes tail
  have size : body.length + 1 ≤ rest.length := by
    rw [split, List.length_append, List.length_cons]
    omega
  have reach : stringReach rest = body.length + 1 := by
    rcases stringReach_cases even_escapes_nil rest with
      to_end | ⟨other, left, other_split, other_closes, reach⟩
    · omega
    · have body_begins : body <+: rest := ⟨_, split.symm⟩
      have other_begins : other <+: rest := ⟨_, other_split.symm⟩
      have shorter := (prefix_of_byteCount_le body_begins other_begins
        (least other left other_split other_closes)).length_le
      omega
  rw [reach, split, List.append_cons]
  exact List.take_left' (by rw [List.length_append]; rfl)

theorem take_stringReach_of_none
    (none_closes : ∀ body tail, rest = body ++ '"' :: tail → ¬Even (escapes body)) :
    rest.take (stringReach rest) = rest := by
  rcases stringReach_cases even_escapes_nil rest with
    to_end | ⟨body, tail, split, closes, -⟩
  · rw [to_end, List.take_length]
  · exact absurd closes (none_closes body tail split)

theorem exists_cuts_of_quote (fits : window.Fits source) (nonempty : window.start < window.stop)
    (opens : byteAt source window.start.toNat = '"'.toUInt8) :
    ∃ before rest after, window.Cuts source before ('"' :: rest) after := by
  obtain ⟨before, middle, after, cuts⟩ := fits.cuts
  rw [UInt32.lt_iff_toNat_lt, cuts.stop, cuts.start, byteCount_append] at nonempty
  cases middle with
  | nil => exact absurd nonempty (Nat.lt_irrefl _)
  | cons c rest =>
      have split : source.toList = before ++ c :: (rest ++ after) := by simpa using cuts.text
      rw [cuts.start] at opens
      have plain : isPlain '"' = true := by decide
      obtain rfl := (byteAt_eq_iff plain split c.utf8Size_pos).mp opens
      exact ⟨before, rest, after, cuts⟩

/-- A string ends behind the first quote that stands behind an even number of backslashes, or with
the window.  It is read in finitely many rounds. -/
theorem tokenAt_string (vocabulary : Vocabulary) (source : String) (window : Window)
    (fits : window.Fits source) (nonempty : window.start < window.stop)
    (opens : byteAt source window.start.toNat = '"'.toUInt8) :
    ∃ token, tokenAt vocabulary source window.stop window.start = .ok token ∧
      token.tag = .string ∧ token.start = window.start ∧
      (∀ offset, IsLeast (closings source window) offset → token.stop.toNat = offset + 1) ∧
      (closings source window = ∅ → token.stop = window.stop) ∧
      ∃ last, (Cursor.ofWindow source window).advance.ReadsString last ∧ last.pos = token.stop := by
  obtain ⟨before, rest, after, cuts⟩ := exists_cuts_of_quote fits nonempty opens
  have lexed := lex_quote vocabulary rest
  have quote_size : '"'.utf8Size = 1 := rfl
  have stop : window.stop.toNat = window.start.toNat + 1 + byteCount rest := by
    rw [cuts.stop, byteCount_append, byteCount_cons, quote_size, ← cuts.start, Nat.add_assoc]
  have token_stop : (window.start.toNat +
      byteCount ('"' :: rest.take (stringReach rest))).toUInt32.toNat =
      window.start.toNat + 1 + byteCount (rest.take (stringReach rest)) := by
    have inside := Session.toNat_stop_of_lex cuts lexed
    dsimp only at inside
    rw [inside, byteCount_cons, quote_size, Nat.add_assoc]
  refine ⟨_, Session.tokenAt_of_lex cuts lexed, rfl, rfl, ?_, ?_, ?_⟩
  · rintro offset ⟨closing, least⟩
    rw [closings_eq cuts] at closing least
    obtain ⟨body, tail, split, rfl, closes⟩ := closing
    have taken := take_stringReach_of_least split closes fun other left other_split other_closes =>
      Nat.le_of_add_le_add_left (least ⟨other, left, other_split, rfl, other_closes⟩)
    dsimp only
    rw [token_stop, taken, byteCount_append]
    rfl
  · intro none_closes
    rw [closings_eq cuts, Set.eq_empty_iff_forall_notMem] at none_closes
    have taken := take_stringReach_of_none fun body tail split closes =>
      none_closes _ ⟨body, tail, split, rfl, closes⟩
    apply UInt32.toNat_inj.mp
    dsimp only
    rw [token_stop, taken, stop]
  · have behind := cuts.between.advance (by decide)
    refine ⟨_, Cursor.Placed.readsString ⟨_, _, behind⟩, ?_⟩
    rw [behind.eatString.pos_eq, cuts.start]
    simp only [byteCount_append, byteCount_cons, byteCount_nil, Nat.add_assoc, Nat.add_zero]

/-- An escaped quote does not close a string, and a quote behind an escaped backslash does. -/
theorem tokenAt_string_escaped :
    (⟨2, 9⟩ : Window).Fits "é\"\\\"\\\\\"\"" ∧ byteAt "é\"\\\"\\\\\"\"" 2 = '"'.toUInt8 ∧
      IsLeast (closings "é\"\\\"\\\\\"\"" ⟨2, 9⟩) 7 ∧
      ∃ token, tokenAt .builtin "é\"\\\"\\\\\"\"" 9 2 = .ok token ∧
        token.tag = .string ∧ token.stop.toNat = 8 := by
  have fits : (⟨2, 9⟩ : Window).Fits "é\"\\\"\\\\\"\"" := by decide +kernel
  have opens : byteAt "é\"\\\"\\\\\"\"" 2 = '"'.toUInt8 := by decide +kernel
  have none_earlier : ∀ offset < 7, 2 < offset →
      byteAt "é\"\\\"\\\\\"\"" offset = '"'.toUInt8 →
        ¬Even (backslashesBefore "é\"\\\"\\\\\"\"" 2 offset) := by decide +kernel
  have closing : 7 ∈ closings "é\"\\\"\\\\\"\"" ⟨2, 9⟩ :=
    ⟨by decide, by decide, by decide +kernel, by decide +kernel⟩
  have least : IsLeast (closings "é\"\\\"\\\\\"\"" ⟨2, 9⟩) 7 :=
    ⟨closing, fun offset ⟨behind, _, quote, even⟩ =>
      Nat.le_of_not_lt fun earlier => none_earlier offset earlier behind quote even⟩
  obtain ⟨token, found, tag, -, closed, -⟩ :=
    tokenAt_string .builtin _ ⟨2, 9⟩ fits (by decide) opens
  exact ⟨fits, opens, least, token, found, tag, closed 7 least⟩

end ConfigLexer
