import ConfigLexer.Proofs.Session.Partition

/-!
# Sessions under requests

A session keeps nothing of its history.  Whatever was asked of it, it is the session that a scan
begins with, in the window from the start of its token to the end of its own window.  So its token,
the place of its cursor and all tokens that are left can be told from that window alone.
-/

namespace ConfigLexer

open Text Lexeme

namespace Session

variable {vocabulary : Vocabulary} {source : String} {window : Window} {session : Session}
variable {before middle after : List Char}

theorem advance_congr {other : Session} (cursor : session.cursor = other.cursor)
    (vocabulary : session.vocabulary = other.vocabulary) : session.advance = other.advance := by
  rw [advance, advance, cursor, vocabulary]

/-- What is known of a session that begins to scan a window. -/
structure Begun (session : Session) (source : String) (window : Window) : Prop where
  /-- The token starts where the window does. -/
  start : session.token.start = window.start
  /-- The cursor is the one that scans the window behind the token. -/
  cursor : session.cursor = .ofWindow source ⟨session.token.stop, window.stop⟩
  /-- The window behind the token fits as well. -/
  fits : Window.Fits ⟨session.token.stop, window.stop⟩ source

theorem begun_of_nil (cuts : window.Cuts source before [] after) :
    (ofCursor vocabulary (.ofWindow source window)).Begun source window := by
  have ended : ofCursor vocabulary (.ofWindow source window) =
      finished vocabulary (Cursor.ofWindow source window).toEnd := advance_at_end cuts.between
  have empty : window.stop = window.start := UInt32.toNat_inj.mp cuts.stop_eq
  rw [ended]
  exact ⟨empty, rfl, UInt32.le_refl _, cuts.fits.inside, cuts.fits.stop, cuts.fits.stop⟩

theorem begun_of_cons {lexeme : Lexeme} {lexemes : List Lexeme}
    (lexed : lex vocabulary (textOf (lexeme :: lexemes)) = lexeme :: lexemes)
    (cuts : window.Cuts source before (textOf (lexeme :: lexemes)) after) :
    (ofCursor vocabulary (.ofWindow source window)).Begun source window := by
  let blank : Session :=
    { cursor := .ofWindow source window, vocabulary,
      token := ⟨.endOfInput, window.start, window.start⟩ }
  have step : blank.StepsOver (ofCursor vocabulary (.ofWindow source window)) before lexeme
      (textOf lexemes) := advance_stepsOver lexed cuts.between
  generalize ofCursor vocabulary (.ofWindow source window) = session at step ⊢
  have bound := window.stop.toNat_lt_size
  rw [cuts.stop_eq, cuts.start, textOf_cons, byteCount_append] at bound
  have start : session.token.start.toNat = byteCount before := by
    rw [step.token]
    exact toNat_toUInt32 (by omega)
  have stop : session.token.stop.toNat = byteCount before + byteCount lexeme.text := by
    rw [step.token]
    exact toNat_toUInt32 (by omega)
  have text : session.cursor.toEnd.text = blank.cursor.toEnd.text := by rw [step.toEnd]
  have window_stop : session.cursor.toEnd.stop = blank.cursor.toEnd.stop := by rw [step.toEnd]
  have pos : session.cursor.pos = session.token.stop := by
    rw [← UInt32.toNat_inj, step.between.pos, stop, byteCount_append]
  refine ⟨?_, ?_, ?_⟩
  · rw [← UInt32.toNat_inj, start, cuts.start]
  · calc
      session.cursor =
          ⟨session.cursor.toEnd.text, session.cursor.pos, session.cursor.toEnd.stop⟩ := rfl
      _ = .ofWindow source ⟨session.token.stop, window.stop⟩ := by
        rw [text, pos, window_stop]
        rfl
  · rw [← cuts.start] at stop
    exact (cuts.split stop).2.fits

theorem begun_ofCursor (vocabulary : Vocabulary) (fits : window.Fits source) :
    (ofCursor vocabulary (.ofWindow source window)).Begun source window := by
  obtain ⟨before, middle, after, cuts⟩ := fits.cuts
  obtain ⟨lexemes, rfl, lexed⟩ := exists_textOf_eq vocabulary middle
  cases lexemes with
  | nil => exact begun_of_nil cuts
  | cons lexeme lexemes => exact begun_of_cons lexed cuts

/-! ## What every request keeps -/

/-- The session is as if it had just begun to scan a window of a source. -/
def Fresh (session : Session) (vocabulary : Vocabulary) (source : String) : Prop :=
  ∃ window : Window, window.Fits source ∧ session = ofCursor vocabulary (.ofWindow source window)

theorem eq_of_next? {found : Token × Session} (handed : session.next? = some found) :
    found = (session.token, session.advance) := by
  rw [next?] at handed
  split at handed
  · simp at handed
  · exact (Option.some.inj handed).symm

theorem ofWindow_eq_error_iff (vocabulary : Vocabulary) {error : WindowError} :
    ofWindow vocabulary source window = .error error ↔ window.error? source = some error := by
  rw [ofWindow]
  split <;> simp_all

/-- What a session is turned to is what a scan with its vocabulary begins with. -/
theorem reset_eq_ofWindow (session : Session) (source : String) (window : Window) :
    session.reset source window = ofWindow session.vocabulary source window := by
  rw [reset, ofWindow]
  cases window.error? source <;> rfl

theorem vocabulary_advance (session : Session) :
    session.advance.vocabulary = session.vocabulary := by
  rw [advance]
  split <;> rfl

namespace Fresh

theorem of_ofWindow (accepted : ofWindow vocabulary source window = .ok session) :
    session.Fresh vocabulary source := by
  rw [ofWindow] at accepted
  cases refused : window.error? source with
  | some error => simp [refused] at accepted
  | none =>
      refine ⟨window, Window.error?_eq_none_iff.mp refused, ?_⟩
      simpa [refused] using accepted.symm

theorem ofSource (vocabulary : Vocabulary) (source : String) :
    (ofSource vocabulary source).Fresh vocabulary source :=
  ⟨.whole source, Window.whole_fits source, rfl⟩

theorem vocabulary_eq (fresh : session.Fresh vocabulary source) :
    session.vocabulary = vocabulary := by
  obtain ⟨window, -, rfl⟩ := fresh
  exact vocabulary_advance _

/-- Reading the next token is beginning anew behind the current one. -/
theorem advance (fresh : session.Fresh vocabulary source) :
    session.advance.Fresh vocabulary source := by
  have same := fresh.vocabulary_eq
  obtain ⟨window, fits, rfl⟩ := fresh
  have begun := begun_ofCursor vocabulary fits
  exact ⟨_, begun.fits, advance_congr begun.cursor same⟩

theorem take (fresh : session.Fresh vocabulary source) (count : Nat) :
    (session.take count).2.Fresh vocabulary source := by
  induction count generalizing session with
  | zero => exact fresh
  | succ count ih =>
      rw [Session.take]
      cases handed : session.next? with
      | none => exact fresh
      | some found =>
          obtain rfl := eq_of_next? handed
          exact ih fresh.advance

end Fresh

namespace Request

/-- The source that is scanned after a request. -/
def sourceAfter (source : String) : Request → String
  | scan other => other
  | scanWindow other window => if window.Fits other then other else source
  | reset other window => if window.Fits other then other else source
  | _ => source

end Request

theorem Fresh.orKeep (fresh : session.Fresh vocabulary source) (other : String) (window : Window) :
    (session.orKeep (ofWindow session.vocabulary other window)).1.Fresh vocabulary
      (if window.Fits other then other else source) := by
  rw [fresh.vocabulary_eq]
  split
  · rename_i fits
    rw [ofWindow_of_fits fits]
    exact ⟨window, fits, rfl⟩
  · rename_i fits
    obtain ⟨error, refused⟩ : ∃ error, window.error? other = some error := by
      rwa [← Option.isSome_iff_exists, ← Option.ne_none_iff_isSome, ne_eq,
        Window.error?_eq_none_iff]
    rw [(ofWindow_eq_error_iff vocabulary).mpr refused]
    exact fresh

/-- Whatever is asked of a fresh session, it is fresh again. -/
theorem Fresh.perform (fresh : session.Fresh vocabulary source) (request : Request) :
    (session.perform request).1.Fresh vocabulary (request.sourceAfter source) := by
  cases request with
  | scan other =>
      rw [← fresh.vocabulary_eq]
      exact .ofSource session.vocabulary other
  | scanWindow other window => exact fresh.orKeep other window
  | reset other window =>
      rw [Session.perform, reset_eq_ofWindow]
      exact fresh.orKeep other window
  | advance => exact fresh.advance
  | next =>
      rw [Session.perform]
      cases handed : session.next? with
      | none => exact fresh
      | some found =>
          obtain rfl := eq_of_next? handed
          exact fresh.advance
  | take count => exact fresh.take count
  | collect =>
      rw [Session.perform, collect]
      exact fresh.take _

theorem Fresh.performAll (fresh : session.Fresh vocabulary source) (requests : List Request) :
    (session.performAll requests).1.Fresh vocabulary
      (requests.foldl Request.sourceAfter source) := by
  induction requests generalizing session source with
  | nil => exact fresh
  | cons request requests ih => exact ih (fresh.perform request)

/-! ## What can be told from the window -/

theorem take_fst_of_le {count more : Nat} (fewer : count ≤ more) (session : Session) :
    (session.take count).1 = (session.take more).1.take count := by
  induction count generalizing more session with
  | zero => rfl
  | succ count ih =>
      obtain ⟨more, rfl⟩ := Nat.exists_eq_succ_of_ne_zero (Nat.ne_zero_of_lt fewer)
      rw [take, take]
      cases session.next? with
      | none => rfl
      | some found => exact congrArg (found.1 :: ·) (ih (Nat.le_of_succ_le_succ fewer) found.2)

/-- The parts of a session that can be told from its window. -/
structure InStep (session : Session) (vocabulary : Vocabulary) (source : String) : Prop where
  /-- The token is the one that is found at its start. -/
  token : tokenAt vocabulary source session.cursor.stop session.token.start = .ok session.token
  /-- The cursor stands behind the token. -/
  cursor : session.cursor.pos = session.token.stop
  /-- The tokens that are left are those between the start of the token and the end of the
  window. -/
  left : tokensIn vocabulary source ⟨session.token.start, session.cursor.stop⟩ = .ok session.tokens
  /-- Any number of steps hands out as many of them. -/
  take : ∀ count, (session.take count).1 = session.tokens.take count

theorem Fresh.inStep (fresh : session.Fresh vocabulary source) :
    session.InStep vocabulary source := by
  obtain ⟨window, fits, same⟩ := fresh
  have begun := begun_ofCursor vocabulary fits
  rw [← same] at begun
  have stop : session.cursor.stop = window.stop := by rw [begun.cursor]; rfl
  have scanned : ofWindow vocabulary source ⟨session.token.start, session.cursor.stop⟩ =
      .ok session := by
    rw [begun.start, stop, ofWindow_of_fits fits, ← same]
  refine ⟨?_, ?_, ?_, ?_⟩
  · rw [tokenAt, scanned, Except.map]
  · rw [begun.cursor]
    rfl
  · rw [tokensIn, scanned, Except.map]
  · intro count
    obtain ⟨before, middle, after, cuts⟩ := fits.cuts
    have fewer := Nat.le_max_left count (lex vocabulary middle).length
    have enough := Nat.le_max_right count (lex vocabulary middle).length
    rw [take_fst_of_le fewer, tokens, same, take_ofCursor cuts enough, collect_ofCursor cuts]

/-- A session that a scan begins with. -/
inductive Starts (vocabulary : Vocabulary) (source : String) : Session → Prop
  | whole : Starts vocabulary source (ofSource vocabulary source)
  | window {window : Window} {session : Session} :
      ofWindow vocabulary source window = .ok session → Starts vocabulary source session

theorem Starts.fresh (starts : Starts vocabulary source session) :
    session.Fresh vocabulary source := by
  cases starts with
  | whole => exact .ofSource vocabulary source
  | window accepted => exact .of_ofWindow accepted

theorem perform_reset_of_fits (session : Session) (fits : window.Fits source) :
    session.perform (.reset source window) =
      (ofCursor session.vocabulary (.ofWindow source window), .done) := by
  rw [perform, reset_eq_ofWindow, ofWindow_of_fits fits, orKeep]

theorem perform_reset_eq_refused_iff {error : WindowError} :
    session.perform (.reset source window) = (session, .refused error) ↔
      window.error? source = some error := by
  rw [← ofWindow_eq_error_iff session.vocabulary, perform, reset_eq_ofWindow]
  cases ofWindow session.vocabulary source window <;> simp [orKeep]

/-- Whatever is asked of a session, its parts can be told from its window.  Another window is then
accepted or refused as if a scan began with it. -/
theorem performAll_inStep {vocabulary : Vocabulary} {source : String} {start : Session}
    (starts : Starts vocabulary source start) (requests : List Request) :
    ∃ session, (start.performAll requests).1 = session ∧
      session.InStep vocabulary (requests.foldl Request.sourceAfter source) ∧
      ∀ other window,
        (window.Fits other →
          ∃ fresh, ofWindow vocabulary other window = .ok fresh ∧
            session.perform (.reset other window) = (fresh, .done)) ∧
        ∀ error,
          (window.Refused other error ↔ ofWindow vocabulary other window = .error error) ∧
          (window.Refused other error ↔
            session.perform (.reset other window) = (session, .refused error)) := by
  have fresh := starts.fresh.performAll requests
  refine ⟨_, rfl, fresh.inStep, fun other window => ⟨fun fits => ?_, fun error => ⟨?_, ?_⟩⟩⟩
  · refine ⟨_, ofWindow_of_fits fits, ?_⟩
    rw [perform_reset_of_fits _ fits, fresh.vocabulary_eq]
  · exact Window.refused_iff.trans (ofWindow_eq_error_iff vocabulary).symm
  · exact Window.refused_iff.trans perform_reset_eq_refused_iff.symm

/-- A session is told a window that cuts a letter in two, read to its end, and then turned to
another source. -/
theorem performAll_inStep_turned :
    Starts .builtin "if é" (ofSource .builtin "if é") ∧
      ∃ session,
        ((ofSource .builtin "if é").performAll
          [.next, .reset "é" ⟨1, 2⟩, .collect, .reset "a = 1" ⟨2, 5⟩, .next]).1 = session ∧
        session.InStep .builtin "a = 1" ∧
        session.perform (.reset "é" ⟨0, 1⟩) = (session, .refused (.splitsCharacter 1)) := by
  have starts : Starts .builtin "if é" (ofSource .builtin "if é") := .whole
  obtain ⟨session, run, in_step, resets⟩ := performAll_inStep starts
    [.next, .reset "é" ⟨1, 2⟩, .collect, .reset "a = 1" ⟨2, 5⟩, .next]
  have current : [.next, .reset "é" ⟨1, 2⟩, .collect, .reset "a = 1" ⟨2, 5⟩, .next].foldl
      Request.sourceAfter "if é" = "a = 1" := by decide +kernel
  rw [current] at in_step
  have refused : Window.Refused ⟨0, 1⟩ "é" (.splitsCharacter 1) :=
    .stop (by decide) (by decide +kernel) (by decide +kernel) (by decide +kernel)
  exact ⟨starts, session, run, in_step, ((resets _ _).2 _).2.mp refused⟩

end Session
end ConfigLexer
