import ConfigLexer.Proofs.Cursor.Guarded
import ConfigLexer.Proofs.Session.Requests

/-!
# Guarded sessions

A guarded session reads each token with the guarded reader, sees that the token is not empty, and
sees that a window is one before it starts to scan it.  Whatever is asked of it, one request after
another, nothing breaks off: it answers as a session does.
-/

namespace ConfigLexer
namespace Session

/-! ## The guarded session -/

namespace Guarded

/-- Read the next token. -/
def advance (session : Session) : Checked Session :=
  let cursor := session.cursor
  if cursor.atEnd then
    .ok { session with token := ⟨.endOfInput, cursor.stop, cursor.stop⟩ }
  else do
    let (tag, place) ← Cursor.Guarded.readToken session.vocabulary cursor
    if place.pos ≤ cursor.pos then .error .noProgress
    else .ok { session with cursor := place, token := ⟨tag, cursor.pos, place.pos⟩ }

/-- The session that has read the first token of a window. -/
def start (vocabulary : Vocabulary) (source : String) (window : Window) : Checked Session :=
  if window.stop < window.start then .error .inverted
  else if !Text.isBoundary source window.stop.toNat then .error .insideCharacter
  else if (Text.slice? source 0 window.stop.toNat).isNone then .error .noText
  else
    let cursor := Cursor.ofWindow source window
    advance { cursor, vocabulary, token := ⟨.endOfInput, cursor.pos, cursor.pos⟩ }

/-- A session over the whole of a source. -/
def ofSource (vocabulary : Vocabulary) (source : String) : Checked Session :=
  start vocabulary source (.whole source)

/-- A session over a window of a source. -/
def ofWindow (vocabulary : Vocabulary) (source : String) (window : Window) :
    Checked (Except WindowError Session) :=
  match window.error? source with
  | some error => .ok (.error error)
  | none => (start vocabulary source window).map .ok

/-- Hand out the current token and read the one after it. -/
def next? (session : Session) : Checked (Option (Token × Session)) :=
  if session.token.tag == .endOfInput then .ok none
  else (advance session).map fun rest => some (session.token, rest)

/-- Hand out tokens, at most a given number of them. -/
def take : Nat → Session → Checked (List Token × Session)
  | 0, session => .ok ([], session)
  | count + 1, session => do
      match ← next? session with
      | none => .ok ([], session)
      | some (token, rest) =>
          let (tokens, last) ← take count rest
          .ok (token :: tokens, last)

/-- Hand out every token that is left. -/
def collect (session : Session) : Checked (List Token × Session) := do
  let (tokens, last) ← take (session.cursor.ahead + 1) session
  if last.token.tag == .endOfInput then .ok (tokens, last) else .error .unfinished

/-- Carry out a request. -/
def perform (session : Session) : Request → Checked (Session × Reply)
  | .scan source => (ofSource session.vocabulary source).map (·, .done)
  | .scanWindow source window =>
      (ofWindow session.vocabulary source window).map session.orKeep
  | .reset source window => (ofWindow session.vocabulary source window).map session.orKeep
  | .advance => (advance session).map (·, .done)
  | .next => do
      match ← next? session with
      | none => .ok (session, .handed none)
      | some (token, rest) => .ok (rest, .handed (some token))
  | .take count => do
      let (tokens, rest) ← take count session
      .ok (rest, .handedAll tokens)
  | .collect => do
      let (tokens, rest) ← collect session
      .ok (rest, .handedAll tokens)

/-- Carry out requests one after another. -/
def performAll : Session → List Request → Checked (Session × List Reply)
  | session, [] => .ok (session, [])
  | session, request :: requests => do
      let (next, reply) ← perform session request
      let (last, replies) ← performAll next requests
      .ok (last, reply :: replies)

/-- Carry out requests in a session, unless there is none because its window was refused. -/
def performFrom (requests : List Request) :
    Except WindowError Session → Checked (Except WindowError (Session × List Reply))
  | .error error => .ok (.error error)
  | .ok session => (performAll session requests).map .ok

end Guarded

open Text Lexeme

variable {vocabulary : Vocabulary} {source : String} {window : Window} {session : Session}

/-! ## Steps -/

/-- Between characters a step breaks off nowhere and makes progress. -/
theorem advance_guarded (placed : session.cursor.Placed) :
    Guarded.advance session = .ok session.advance := by
  obtain ⟨before, after, between⟩ := placed
  rw [Guarded.advance, Session.advance]
  cases more : session.cursor.atEnd with
  | true => rfl
  | false =>
      obtain ⟨before, first, rest, between⟩ := Cursor.Placed.exists_cons ⟨_, _, between⟩ more
      have place := (between.readToken session.vocabulary).place
      have progress :
          ¬(session.cursor.readToken session.vocabulary).2.pos ≤ session.cursor.pos := by
        have size := first.utf8Size_pos
        rw [UInt32.le_iff_toNat_le, place.pos, between.pos, byteCount_append, byteCount_cons]
        omega
      simp only [Bool.false_eq_true, if_false]
      rw [between.readToken_eq]
      exact if_neg progress

theorem Fresh.placed (fresh : session.Fresh vocabulary source) : session.cursor.Placed := by
  obtain ⟨window, fits, rfl⟩ := fresh
  have begun := begun_ofCursor vocabulary fits
  obtain ⟨before, middle, after, cuts⟩ := begun.fits.cuts
  rw [begun.cursor]
  exact ⟨_, _, cuts.between⟩

theorem Fresh.advance_guarded (fresh : session.Fresh vocabulary source) :
    Guarded.advance session = .ok session.advance :=
  Session.advance_guarded fresh.placed

/-- In a window that fits a source nothing breaks off up to the end of the first token. -/
theorem start_guarded (vocabulary : Vocabulary) (fits : window.Fits source) :
    Guarded.start vocabulary source window =
      .ok (ofCursor vocabulary (.ofWindow source window)) := by
  obtain ⟨before, middle, after, cuts⟩ := fits.cuts
  have placed : (Cursor.ofWindow source window).Placed := ⟨_, _, cuts.between⟩
  rw [Guarded.start, if_neg (UInt32.not_lt.mpr fits.ordered), fits.stop, cuts.visible]
  exact Session.advance_guarded placed

theorem ofSource_guarded (vocabulary : Vocabulary) (source : String) :
    Guarded.ofSource vocabulary source = .ok (ofSource vocabulary source) :=
  start_guarded vocabulary (Window.whole_fits source)

theorem ofWindow_guarded (vocabulary : Vocabulary) (source : String) (window : Window) :
    Guarded.ofWindow vocabulary source window = .ok (ofWindow vocabulary source window) := by
  rw [Guarded.ofWindow, ofWindow]
  cases accepted : window.error? source with
  | some error => rfl
  | none =>
      have fits := Window.error?_eq_none_iff.mp accepted
      simp only [start_guarded vocabulary fits]
      rfl

/-! ## Requests -/

namespace Fresh

theorem next?_guarded (fresh : session.Fresh vocabulary source) :
    Guarded.next? session = .ok session.next? := by
  rw [Guarded.next?, Session.next?, fresh.advance_guarded]
  split <;> rfl

theorem take_guarded (fresh : session.Fresh vocabulary source) (count : Nat) :
    Guarded.take count session = .ok (session.take count) := by
  induction count generalizing session with
  | zero => rfl
  | succ count taken =>
      rw [Guarded.take, Session.take, fresh.next?_guarded]
      cases handed : session.next? with
      | none => rfl
      | some found =>
          obtain rfl := eq_of_next? handed
          change (Guarded.take count session.advance >>= _) = _
          rw [taken fresh.advance]
          rfl

theorem collect_guarded (fresh : session.Fresh vocabulary source) :
    Guarded.collect session = .ok session.collect := by
  have ended : session.collect.2.token.tag = .endOfInput := by
    obtain ⟨window, fits, rfl⟩ := fresh
    obtain ⟨before, middle, after, cuts⟩ := fits.cuts
    rw [collect_ofCursor cuts]
    rfl
  rw [Guarded.collect, fresh.take_guarded]
  exact if_pos (beq_iff_eq.mpr ended)

theorem perform_guarded (fresh : session.Fresh vocabulary source) (request : Request) :
    Guarded.perform session request = .ok (session.perform request) := by
  cases request with
  | scan other =>
      rw [Guarded.perform, ofSource_guarded]
      rfl
  | scanWindow other window =>
      rw [Guarded.perform, ofWindow_guarded]
      rfl
  | reset other window =>
      rw [Guarded.perform, ofWindow_guarded, Session.perform, reset_eq_ofWindow]
      rfl
  | advance =>
      rw [Guarded.perform, fresh.advance_guarded]
      rfl
  | next =>
      rw [Guarded.perform, fresh.next?_guarded, Session.perform]
      cases session.next? <;> rfl
  | take count =>
      rw [Guarded.perform, fresh.take_guarded]
      rfl
  | collect =>
      rw [Guarded.perform, fresh.collect_guarded]
      rfl

theorem performAll_guarded (fresh : session.Fresh vocabulary source) (requests : List Request) :
    Guarded.performAll session requests = .ok (session.performAll requests) := by
  induction requests generalizing session source with
  | nil => rfl
  | cons request requests performed =>
      rw [Guarded.performAll, fresh.perform_guarded]
      change (Guarded.performAll (session.perform request).1 requests >>= _) = _
      rw [performed (fresh.perform request)]
      rfl

end Fresh

/-- Whatever is asked of a session over a source or a window, at no point does anything fail to hold
that the reader relies on. -/
theorem performAll_unbroken (vocabulary : Vocabulary) (source : String) (window : Window)
    (requests : List Request) :
    (Guarded.ofSource vocabulary source >>= fun session => Guarded.performAll session requests) =
        .ok ((ofSource vocabulary source).performAll requests) ∧
      (Guarded.ofWindow vocabulary source window >>= Guarded.performFrom requests) =
        .ok ((ofWindow vocabulary source window).map fun session =>
          session.performAll requests) := by
  constructor
  · rw [ofSource_guarded]
    exact (Fresh.ofSource vocabulary source).performAll_guarded requests
  · rw [ofWindow_guarded]
    cases accepted : ofWindow vocabulary source window with
    | error error => rfl
    | ok session =>
        have performed := (Fresh.of_ofWindow accepted).performAll_guarded requests
        change (Guarded.performAll session requests).map Except.ok = _
        rw [performed]
        rfl

end Session
end ConfigLexer
