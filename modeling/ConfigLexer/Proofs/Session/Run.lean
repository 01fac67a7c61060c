import ConfigLexer.Proofs.Cursor.Reading
import ConfigLexer.Proofs.Lexeme.Layout
import ConfigLexer.Proofs.Window.Fits
import ConfigLexer.Session

/-!
# The run of a session

One step of a session reads one lexeme.  So a session whose cursor stands before some characters
hands out the tokens of their lexemes, one after another, and then stays at the end of its window.
-/

namespace ConfigLexer
namespace Session

open Text Lexeme

variable {session : Session} {before after : List Char} {lexeme : Lexeme} {lexemes : List Lexeme}
variable {vocabulary : Vocabulary} {source : String} {window : Window} {middle : List Char}

/-- The session that has read everything up to a place, the end of its window. -/
def finished (vocabulary : Vocabulary) (place : Cursor) : Session where
  cursor := place
  vocabulary := vocabulary
  token := ⟨.endOfInput, place.stop, place.stop⟩

/-- At the end of the window a step finishes the session. -/
theorem advance_at_end (between : session.cursor.Between before []) :
    session.advance = finished session.vocabulary session.cursor.toEnd := by
  have at_end : session.cursor.atEnd = true := between.atEnd
  rw [advance, finished, between.toEnd_nil]
  exact if_pos at_end

/-- What a step does before a lexeme: it reads the token of the lexeme and moves behind it. -/
structure StepsOver (session next : Session) (before : List Char) (lexeme : Lexeme)
    (after : List Char) : Prop where
  /-- The token is that of the lexeme. -/
  token : next.token = ⟨lexeme.tag, (byteCount before).toUInt32,
    (byteCount before + byteCount lexeme.text).toUInt32⟩
  /-- The cursor stands behind the lexeme. -/
  between : next.cursor.Between (before ++ lexeme.text) after
  /-- The end of the window stays where it is. -/
  toEnd : next.cursor.toEnd = session.cursor.toEnd
  /-- The vocabulary stays as it is. -/
  vocabulary : next.vocabulary = session.vocabulary

/-- Before a lexeme a step reads it. -/
theorem advance_stepsOver
    (lexed : lex session.vocabulary (textOf (lexeme :: lexemes)) = lexeme :: lexemes)
    (between : session.cursor.Between before (textOf (lexeme :: lexemes))) :
    session.StepsOver session.advance before lexeme (textOf lexemes) := by
  obtain ⟨first, body, shape, reached, -⟩ := reach_of_lex lexed
  have split : textOf (lexeme :: lexemes) = first :: (body ++ textOf lexemes) := by
    rw [textOf_cons, shape, List.cons_append]
  rw [split] at between
  have not_at_end : session.cursor.atEnd = false := between.atEnd
  obtain ⟨tag, moved⟩ := between.readToken session.vocabulary
  rw [reached] at tag moved
  rw [List.take_left, List.drop_left, ← shape] at moved
  have stepped : session.advance =
      { session with
        cursor := (session.cursor.readToken session.vocabulary).2
        token := ⟨(session.cursor.readToken session.vocabulary).1, session.cursor.pos,
          (session.cursor.readToken session.vocabulary).2.pos⟩ } := by
    rw [advance, not_at_end]
    rfl
  rw [stepped]
  refine ⟨?_, moved, ?_, rfl⟩
  · rw [tag, between.pos_eq, moved.pos_eq, byteCount_append]
  · have same : before ++ lexeme.text ++ textOf lexemes =
        before ++ first :: (body ++ textOf lexemes) := by
      rw [List.append_assoc, shape, List.cons_append]
    exact between.toEnd_eq moved same

/-- A cursor before lexemes that their own text gives back hands out all of them. -/
theorem take_lexemes {count : Nat} (lexed : lex session.vocabulary (textOf lexemes) = lexemes)
    (between : session.cursor.Between before (textOf lexemes)) (enough : lexemes.length ≤ count) :
    session.advance.take count =
      (layOut (byteCount before) lexemes, finished session.vocabulary session.cursor.toEnd) := by
  induction lexemes generalizing session before count with
  | nil =>
      rw [advance_at_end between]
      cases count <;> rfl
  | cons lexeme lexemes ih =>
      have step := advance_stepsOver lexed between
      obtain ⟨count, rfl⟩ : ∃ fewer, count = fewer + 1 :=
        Nat.exists_eq_succ_of_ne_zero (Nat.ne_of_gt (Nat.lt_of_lt_of_le (Nat.succ_pos _) enough))
      have tag_ne : lexeme.tag ≠ .endOfInput :=
        tag_ne_of_mem_lex (lexed ▸ List.mem_cons_self)
      have handed : session.advance.next? =
          some (session.advance.token, session.advance.advance) := by
        rw [next?, step.token]
        exact if_neg (by simpa using tag_ne)
      have later : lex session.advance.vocabulary (textOf lexemes) = lexemes := by
        rw [step.vocabulary]
        exact lex_tail lexed
      have others := ih later step.between (Nat.le_of_succ_le_succ enough)
      rw [take, handed]
      dsimp only
      rw [others, step.token, step.vocabulary, step.toEnd, layOut, byteCount_append]

/-- A session hands out the tokens of all lexemes that its cursor sees and then is finished. -/
theorem take_advance {count : Nat} (between : session.cursor.Between before after)
    (enough : (lex session.vocabulary after).length ≤ count) :
    session.advance.take count =
      (layOut (byteCount before) (lex session.vocabulary after),
        finished session.vocabulary session.cursor.toEnd) := by
  obtain ⟨lexemes, rfl, lexed⟩ := exists_textOf_eq session.vocabulary after
  rw [lexed] at enough ⊢
  exact take_lexemes lexed between enough

/-- The bytes behind the current token are as many steps as collecting needs. -/
theorem length_lex_le_ahead (between : session.cursor.Between before after) :
    (lex session.vocabulary after).length ≤ session.advance.cursor.ahead + 1 := by
  obtain ⟨lexemes, rfl, lexed⟩ := exists_textOf_eq session.vocabulary after
  rw [lexed]
  cases lexemes with
  | nil => exact Nat.zero_le _
  | cons lexeme lexemes =>
      have count_le := length_lex_le session.vocabulary (textOf lexemes)
      rw [lex_tail lexed] at count_le
      rw [(advance_stepsOver lexed between).between.ahead, List.length_cons]
      exact Nat.succ_le_succ (Nat.le_trans count_le (length_le_byteCount _))

/-! ## Windows -/

theorem ofWindow_of_fits (fits : window.Fits source) :
    ofWindow vocabulary source window = .ok (ofCursor vocabulary (.ofWindow source window)) := by
  rw [ofWindow, Window.error?_eq_none_iff.mpr fits]

theorem take_ofCursor {count : Nat} (cuts : window.Cuts source before middle after)
    (enough : (lex vocabulary middle).length ≤ count) :
    (ofCursor vocabulary (.ofWindow source window)).take count =
      (layOut window.start.toNat (lex vocabulary middle),
        finished vocabulary (Cursor.ofWindow source window).toEnd) := by
  rw [ofCursor, cuts.start]
  exact take_advance cuts.between enough

theorem collect_ofCursor (cuts : window.Cuts source before middle after) :
    (ofCursor vocabulary (.ofWindow source window)).collect =
      (layOut window.start.toNat (lex vocabulary middle),
        finished vocabulary (Cursor.ofWindow source window).toEnd) := by
  let fresh : Session :=
    { cursor := .ofWindow source window, vocabulary,
      token := ⟨.endOfInput, window.start, window.start⟩ }
  have between : fresh.cursor.Between before middle := cuts.between
  exact take_ofCursor cuts (length_lex_le_ahead between)

theorem tokensIn_of_cuts (vocabulary : Vocabulary)
    (cuts : window.Cuts source before middle after) :
    tokensIn vocabulary source window =
      .ok (layOut window.start.toNat (lex vocabulary middle)) := by
  rw [tokensIn, ofWindow_of_fits cuts.fits, Except.map, tokens, collect_ofCursor cuts]

theorem fits_of_tokensIn {scanned : List Token}
    (found : tokensIn vocabulary source window = .ok scanned) : window.Fits source := by
  rw [tokensIn, ofWindow] at found
  cases refused : window.error? source with
  | none => exact Window.error?_eq_none_iff.mp refused
  | some error => simp [refused, Except.map] at found

/-- The token at an offset is the first one after it, or the end of the input. -/
theorem tokenAt_of_cuts (vocabulary : Vocabulary)
    (cuts : window.Cuts source before middle after) :
    tokenAt vocabulary source window.stop window.start =
      .ok ((layOut window.start.toNat (lex vocabulary middle)).headD
        ⟨.endOfInput, window.stop, window.stop⟩) := by
  rw [tokenAt, ofWindow_of_fits cuts.fits, Except.map, ofCursor]
  have between := cuts.between
  obtain ⟨lexemes, rfl, lexed⟩ := exists_textOf_eq vocabulary middle
  rw [lexed]
  cases lexemes with
  | nil =>
      rw [advance_at_end between]
      rfl
  | cons lexeme lexemes =>
      rw [(advance_stepsOver lexed between).token, layOut, cuts.start]
      rfl

theorem tokenAt_of_lex (cuts : window.Cuts source before middle after)
    (lexed : lex vocabulary middle = lexeme :: lexemes) :
    tokenAt vocabulary source window.stop window.start =
      .ok ⟨lexeme.tag, window.start,
        (window.start.toNat + byteCount lexeme.text).toUInt32⟩ := by
  rw [tokenAt_of_cuts vocabulary cuts, lexed, layOut, List.headD_cons]
  exact congrArg (fun start => Except.ok (Token.mk _ start _)) UInt32.ofNat_toNat

theorem toNat_stop_of_lex (cuts : window.Cuts source before middle after)
    (lexed : lex vocabulary middle = lexeme :: lexemes) :
    (window.start.toNat + byteCount lexeme.text).toUInt32.toNat =
      window.start.toNat + byteCount lexeme.text := by
  have bound := window.stop.toNat_lt_size
  rw [cuts.stop_eq, ← textOf_of_lex lexed, textOf_cons, byteCount_append] at bound
  exact toNat_toUInt32 (by omega)

theorem tokensIn_of_lex_singleton (cuts : window.Cuts source before middle after)
    (lexed : lex vocabulary middle = [lexeme]) :
    tokensIn vocabulary source window =
      .ok [⟨lexeme.tag, window.start,
        (window.start.toNat + byteCount lexeme.text).toUInt32⟩] := by
  rw [tokensIn_of_cuts vocabulary cuts, lexed, layOut, layOut]
  exact congrArg (fun start => Except.ok [Token.mk _ start _]) UInt32.ofNat_toNat

theorem tokens_of_cuts (vocabulary : Vocabulary)
    (cuts : (Window.whole source).Cuts source before middle after) :
    ConfigLexer.tokens vocabulary source = layOut 0 (lex vocabulary middle) := by
  rw [ConfigLexer.tokens, ofSource, tokens, collect_ofCursor cuts]
  rfl

end Session
end ConfigLexer
