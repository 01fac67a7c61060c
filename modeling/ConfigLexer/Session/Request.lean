import ConfigLexer.Session

/-!
# Requests to a session

An editor drives a session by requests.  A request that names a bad window leaves the session as
it was.
-/

namespace ConfigLexer
namespace Session

/-- What an editor asks of a session. -/
inductive Request where
  /-- Begin anew with the whole of a source. -/
  | scan (source : String)
  /-- Begin anew with a window of a source. -/
  | scanWindow (source : String) (window : Window)
  /-- Turn the session to a window of a source. -/
  | reset (source : String) (window : Window)
  /-- Read the next token. -/
  | advance
  /-- Hand out one token. -/
  | next
  /-- Hand out at most so many tokens. -/
  | take (count : Nat)
  /-- Hand out every token that is left. -/
  | collect
deriving DecidableEq, Repr

/-- What a session answers. -/
inductive Reply where
  /-- The request was carried out and yields nothing. -/
  | done
  /-- The window was refused. -/
  | refused (error : WindowError)
  /-- The token that was handed out, if there was one left. -/
  | handed (token : Option Token)
  /-- The tokens that were handed out. -/
  | handedAll (tokens : List Token)
deriving DecidableEq, Repr

/-- Go on with another session, or with this one if there is none. -/
def orKeep (session : Session) : Except WindowError Session → Session × Reply
  | .ok other => (other, .done)
  | .error error => (session, .refused error)

/-- Carry out a request. -/
def perform (session : Session) : Request → Session × Reply
  | .scan source => (ofSource session.vocabulary source, .done)
  | .scanWindow source window => session.orKeep (ofWindow session.vocabulary source window)
  | .reset source window => session.orKeep (session.reset source window)
  | .advance => (session.advance, .done)
  | .next =>
      match session.next? with
      | none => (session, .handed none)
      | some (token, rest) => (rest, .handed (some token))
  | .take count =>
      let (tokens, rest) := session.take count
      (rest, .handedAll tokens)
  | .collect =>
      let (tokens, rest) := session.collect
      (rest, .handedAll tokens)

end Session
end ConfigLexer
