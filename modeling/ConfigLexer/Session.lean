import ConfigLexer.Cursor.Token

/-!
# Scan sessions

A session scans a window token by token and always has the next token ready.  It carries nothing
from one token to the next but the place where the last one ended, so a session that starts at a
token border finds the tokens that any earlier session would have found from there.
-/

namespace ConfigLexer

/-- A scan under way. -/
structure Session where
  /-- Where the next token starts. -/
  cursor : Cursor
  /-- The words that are reserved. -/
  vocabulary : Vocabulary
  /-- The token that ends at the cursor. -/
  token : Token
deriving DecidableEq, Repr

namespace Session

/-- Read the next token.  At the end of the window it is the empty token there. -/
def advance (session : Session) : Session :=
  let cursor := session.cursor
  if cursor.atEnd then
    { session with token := ⟨.endOfInput, cursor.stop, cursor.stop⟩ }
  else
    let (tag, place) := cursor.readToken session.vocabulary
    { session with cursor := place, token := ⟨tag, cursor.pos, place.pos⟩ }

/-- The session that has read the first token after a cursor. -/
def ofCursor (vocabulary : Vocabulary) (cursor : Cursor) : Session :=
  advance { cursor, vocabulary, token := ⟨.endOfInput, cursor.pos, cursor.pos⟩ }

/-- A session over the whole of a source. -/
def ofSource (vocabulary : Vocabulary) (source : String) : Session :=
  ofCursor vocabulary (.ofWindow source (.whole source))

/-- A session over a window of a source. -/
def ofWindow (vocabulary : Vocabulary) (source : String) (window : Window) :
    Except WindowError Session :=
  match window.error? source with
  | some error => .error error
  | none => .ok (ofCursor vocabulary (.ofWindow source window))

/-- Turn a session to another window: move its cursor there, forget its token and read the first
one.  The vocabulary stays. -/
def reset (session : Session) (source : String) (window : Window) : Except WindowError Session :=
  match window.error? source with
  | some error => .error error
  | none => .ok (advance { session with
      cursor := .ofWindow source window
      token := ⟨.endOfInput, window.start, window.start⟩ })

/-- The state a host has to keep to scan again from a token border.  No token depends on anything
before its start, so there is only one state. -/
def state (_session : Session) : UInt32 := 0

/-- Hand out the current token and read the one after it. -/
def next? (session : Session) : Option (Token × Session) :=
  if session.token.tag == .endOfInput then none else some (session.token, session.advance)

/-- Hand out tokens, at most a given number of them. -/
def take : Nat → Session → List Token × Session
  | 0, session => ([], session)
  | count + 1, session =>
      match session.next? with
      | none => ([], session)
      | some (token, rest) =>
          let (tokens, last) := take count rest
          (token :: tokens, last)

/-- Hand out every token that is left.  Each but the current one takes at least one byte. -/
def collect (session : Session) : List Token × Session :=
  session.take (session.cursor.ahead + 1)

/-- Every token that is left. -/
def tokens (session : Session) : List Token := session.collect.1

end Session

/-- Every token of a source. -/
def tokens (vocabulary : Vocabulary) (source : String) : List Token :=
  (Session.ofSource vocabulary source).tokens

/-- Every token of a window of a source. -/
def tokensIn (vocabulary : Vocabulary) (source : String) (window : Window) :
    Except WindowError (List Token) :=
  (Session.ofWindow vocabulary source window).map Session.tokens

/-- Every token of a configuration file. -/
def tokenize (source : String) : List Token := tokens .builtin source

/-- The token that starts at an offset, in a source that ends at another offset. -/
def tokenAt (vocabulary : Vocabulary) (source : String) (stop pos : UInt32) :
    Except WindowError Token :=
  (Session.ofWindow vocabulary source ⟨pos, stop⟩).map Session.token

end ConfigLexer
