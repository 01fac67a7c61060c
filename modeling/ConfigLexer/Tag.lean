/-!
# Token tags

Every byte of a scanned window belongs to exactly one token, and every token has exactly one tag.
The numbers of the tags are grouped by kind and stay below 32, so that a set of tags fits in a
32-bit word.
-/

namespace ConfigLexer

/-- A kind of paired delimiter. -/
inductive Delimiter where
  | brace
  | bracket
  | paren
deriving DecidableEq, Repr

namespace Delimiter

/-- Every kind of delimiter, braces first. -/
def all : List Delimiter := [brace, bracket, paren]

/-- The character that opens a pair. -/
def opener : Delimiter → Char
  | brace => '\x7b'
  | bracket => '['
  | paren => '('

/-- The character that closes a pair. -/
def closer : Delimiter → Char
  | brace => '\x7d'
  | bracket => ']'
  | paren => ')'

/-- Only braces delimit blocks, so only for them may an editor insert the closer. -/
def isStructural (delimiter : Delimiter) : Bool := delimiter == brace

end Delimiter

/-- The category of a token. -/
inductive Tag where
  /-- A name that is not reserved. -/
  | identifier
  /-- A reserved name. -/
  | keyword
  /-- A double-quoted string, which may lack its closing quote. -/
  | string
  /-- A loosely shaped number, such as `1.2.3` or `1e`. -/
  | number
  /-- An operator of one to three characters. -/
  | operator
  /-- The opening half of a pair. -/
  | opening (delimiter : Delimiter)
  /-- The closing half of a pair. -/
  | closing (delimiter : Delimiter)
  /-- A run of blanks, line breaks included. -/
  | whitespace
  /-- A comment that ends before the line break. -/
  | lineComment
  /-- A comment between its own marks, which may lack the closing one. -/
  | blockComment
  /-- One character that starts no other token. -/
  | badCharacter
  /-- The end of the window, which holds no text. -/
  | endOfInput
deriving DecidableEq, Repr

namespace Tag

/-- Every tag, by ascending number. -/
def all : List Tag :=
  [identifier, keyword, string, number, operator, opening .brace, closing .brace,
    opening .bracket, closing .bracket, opening .paren, closing .paren, whitespace, lineComment,
    blockComment, badCharacter, endOfInput]

/-- The stable name of a tag in reports. -/
def name : Tag → String
  | identifier => "IDENTIFIER"
  | keyword => "KEYWORD"
  | string => "STRING"
  | number => "NUMBER"
  | operator => "OPERATOR"
  | opening .brace => "LBRACE"
  | closing .brace => "RBRACE"
  | opening .bracket => "LBRACK"
  | closing .bracket => "RBRACK"
  | opening .paren => "LPAREN"
  | closing .paren => "RPAREN"
  | whitespace => "WHITESPACE"
  | lineComment => "LINE_COMMENT"
  | blockComment => "BLOCK_COMMENT"
  | badCharacter => "BAD_CHARACTER"
  | endOfInput => "EOF"

/-- The tag with a given name. -/
def ofName? (name : String) : Option Tag := all.find? fun tag => tag.name == name

/-- The number of a tag, its bit in a set of tags. -/
def index : Tag → Nat
  | identifier => 0
  | keyword => 1
  | string => 2
  | number => 3
  | operator => 8
  | opening .brace => 16
  | closing .brace => 17
  | opening .bracket => 18
  | closing .bracket => 19
  | opening .paren => 20
  | closing .paren => 21
  | whitespace => 24
  | lineComment => 25
  | blockComment => 26
  | badCharacter => 30
  | endOfInput => 31

/-- The text of a token, for the tags whose tokens all have the same text. -/
def lexeme? : Tag → Option String
  | opening delimiter => some (String.singleton delimiter.opener)
  | closing delimiter => some (String.singleton delimiter.closer)
  | _ => none

/-- The kind of delimiter that a tag opens or closes. -/
def delimiter? : Tag → Option Delimiter
  | opening delimiter => some delimiter
  | closing delimiter => some delimiter
  | _ => none

/-- The tag is that of a comment. -/
def isComment (tag : Tag) : Bool := tag == lineComment || tag == blockComment

/-- The tag is that of text without meaning, white space or a comment. -/
def isTrivia (tag : Tag) : Bool := tag == whitespace || tag.isComment

/-- The tag opens a pair. -/
def isOpening : Tag → Bool
  | opening _ => true
  | _ => false

/-- The tag closes a pair. -/
def isClosing : Tag → Bool
  | closing _ => true
  | _ => false

theorem mem_all (tag : Tag) : tag ∈ all := by
  rcases tag with _ | _ | _ | _ | _ | (_ | _ | _) | (_ | _ | _) | _ | _ | _ | _ | _ <;> decide

theorem index_lt (tag : Tag) : tag.index < 32 := by
  rcases tag with _ | _ | _ | _ | _ | (_ | _ | _) | (_ | _ | _) | _ | _ | _ | _ | _ <;> decide

end Tag
end ConfigLexer
