import ConfigLexer.Session

/-!
# Highlighting

A highlighted token has a key.  Colour schemes style a key by its external name, or else by the
general class that it falls back to.  Names, white space and the end of input have no key.
-/

namespace ConfigLexer

/-- A class of tokens that are styled alike. -/
inductive HighlightKey where
  | comment
  | string
  | number
  | keyword
  | operator
  | braces
  | brackets
  | parens
  | badCharacter
deriving DecidableEq, Repr

namespace HighlightKey

/-- Every key, by rank. -/
def all : List HighlightKey :=
  [comment, string, number, keyword, operator, braces, brackets, parens, badCharacter]

/-- The key of both halves of a pair. -/
def ofDelimiter : Delimiter → HighlightKey
  | .brace => braces
  | .bracket => brackets
  | .paren => parens

/-- The key of a tag. -/
def ofTag? : Tag → Option HighlightKey
  | .lineComment => some comment
  | .blockComment => some comment
  | .string => some string
  | .number => some number
  | .keyword => some keyword
  | .operator => some operator
  | .opening delimiter => some (ofDelimiter delimiter)
  | .closing delimiter => some (ofDelimiter delimiter)
  | .badCharacter => some badCharacter
  | .identifier => none
  | .whitespace => none
  | .endOfInput => none

/-- The place of a key among all keys. -/
def rank : HighlightKey → Nat
  | comment => 0
  | string => 1
  | number => 2
  | keyword => 3
  | operator => 4
  | braces => 5
  | brackets => 6
  | parens => 7
  | badCharacter => 8

/-- The name that colour schemes style. -/
def externalName : HighlightKey → String
  | comment => "TERRAMATE_COMMENT"
  | string => "TERRAMATE_STRING"
  | number => "TERRAMATE_NUMBER"
  | keyword => "TERRAMATE_KEYWORD"
  | operator => "TERRAMATE_OPERATOR"
  | braces => "TERRAMATE_BRACES"
  | brackets => "TERRAMATE_BRACKETS"
  | parens => "TERRAMATE_PARENS"
  | badCharacter => "TERRAMATE_BAD_CHARACTER"

/-- The general class that styles a key of which a colour scheme says nothing. -/
def fallback : HighlightKey → String
  | comment => "LINE_COMMENT"
  | string => "STRING"
  | number => "NUMBER"
  | keyword => "KEYWORD"
  | operator => "OPERATION_SIGN"
  | braces => "BRACES"
  | brackets => "BRACKETS"
  | parens => "PARENTHESES"
  | badCharacter => "BAD_CHARACTER"

end HighlightKey

/-- A highlighted span. -/
structure HighlightRun where
  /-- How the span is styled. -/
  key : HighlightKey
  /-- Offset of the first byte. -/
  start : UInt32
  /-- Offset just past the last byte. -/
  stop : UInt32
deriving DecidableEq, Repr

namespace HighlightRun

/-- The window that a run covers. -/
def span (run : HighlightRun) : Window := ⟨run.start, run.stop⟩

/-- The run of a token. -/
def ofToken? (token : Token) : Option HighlightRun :=
  (HighlightKey.ofTag? token.tag).map fun key => ⟨key, token.start, token.stop⟩

end HighlightRun

/-- The highlighted spans of a source, in order. -/
def highlight (vocabulary : Vocabulary) (source : String) : List HighlightRun :=
  (tokens vocabulary source).filterMap HighlightRun.ofToken?

end ConfigLexer
