import ConfigLexer.Tag
import ConfigLexer.Window.Text

/-!
# Tokens

A token is a tag and a span of byte offsets.  It holds no text: the text is read back from the
source that was scanned.
-/

namespace ConfigLexer

/-- A tagged span of byte offsets. -/
structure Token where
  /-- Category of the token. -/
  tag : Tag
  /-- Offset of the first byte. -/
  start : UInt32
  /-- Offset just past the last byte. -/
  stop : UInt32
deriving DecidableEq, Repr

namespace Token

/-- The length of the span in bytes, for a span whose end is not before its start. -/
def size (token : Token) : UInt32 := token.stop - token.start

/-- The span holds no byte. -/
def isEmpty (token : Token) : Bool := token.start == token.stop

/-- The text of the token, empty if the span does not delimit one in this source. -/
def text (source : String) (token : Token) : String :=
  Text.slice source token.start.toNat token.stop.toNat

/-- The window that the token covers. -/
def span (token : Token) : Window := ⟨token.start, token.stop⟩

/-- The short form of a token, its tag and its span. -/
def label (token : Token) : String := token.tag.name ++ "(" ++ token.span.text ++ ")"

end Token
end ConfigLexer
