import ConfigLexer.Cursor
import ConfigLexer.Token
import ConfigLexer.Vocabulary
import ConfigLexer.Text.Letter
import ConfigLexer.Text.Digit

/-!
# Reading one token

`Cursor.readToken` moves a cursor over one token and says which.  The first byte decides the rule;
a byte of a wider character is classified by the character.  No rule fails: a string or a comment
that is not closed runs to the end of the window, and a character that starts nothing is a token
by itself.
-/

namespace ConfigLexer
namespace Cursor

/-- The byte is an ASCII digit. -/
def isDigitByte (byte : UInt8) : Bool := '0'.toUInt8 ≤ byte && byte ≤ '9'.toUInt8

/-- The byte is an ASCII letter. -/
def isLetterByte (byte : UInt8) : Bool :=
  ('a'.toUInt8 ≤ byte && byte ≤ 'z'.toUInt8) || ('A'.toUInt8 ≤ byte && byte ≤ 'Z'.toUInt8)

/-- The byte may start a name. -/
def startsNameByte (byte : UInt8) : Bool := isLetterByte byte || byte == '_'.toUInt8

/-- The byte may stand in a name after its start. -/
def continuesNameByte (byte : UInt8) : Bool :=
  startsNameByte byte || isDigitByte byte || byte == '-'.toUInt8

/-- The delimiter tag of a byte. -/
def delimiterTag? (byte : UInt8) : Option Tag :=
  Delimiter.all.findSome? fun delimiter =>
    if byte == delimiter.opener.toUInt8 then some (.opening delimiter)
    else if byte == delimiter.closer.toUInt8 then some (.closing delimiter)
    else none

/-- The bytes that may follow an operator's first byte in the same operator, each only after the
ones before it. -/
def operatorTail? (byte : UInt8) : Option (List UInt8) :=
  if byte == '='.toUInt8 || byte == '!'.toUInt8 || byte == '<'.toUInt8 || byte == '>'.toUInt8 then
    some ['='.toUInt8]
  else if byte == '&'.toUInt8 then
    some ['&'.toUInt8]
  else if byte == '|'.toUInt8 then
    some ['|'.toUInt8]
  else if byte == '.'.toUInt8 then
    some ['.'.toUInt8, '.'.toUInt8]
  else if byte == '+'.toUInt8 || byte == '-'.toUInt8 || byte == '*'.toUInt8 ||
      byte == '%'.toUInt8 || byte == ':'.toUInt8 || byte == '?'.toUInt8 then
    some []
  else
    none

/-- Move over the given bytes as far as they stand at the cursor. -/
def eatInOrder : List UInt8 → Cursor → Cursor
  | [], cursor => cursor
  | byte :: bytes, cursor =>
      if cursor.current == byte then eatInOrder bytes cursor.advance else cursor

/-- Move over a string after its opening quote, past at most a given number of quotes and
backslashes. -/
def eatStringUpTo : Nat → Cursor → Cursor
  | 0, cursor => cursor
  | count + 1, cursor =>
      let mark := cursor.seekStringMark
      if mark.current == '"'.toUInt8 then
        mark.advance
      else if mark.current == '\\'.toUInt8 then
        let escaped := mark.advance
        eatStringUpTo count (if escaped.atEnd then escaped else escaped.advanceChar)
      else
        mark

/-- Move over a string after its opening quote.  A backslash takes the next character with it. -/
def eatString (cursor : Cursor) : Cursor := eatStringUpTo (cursor.ahead + 1) cursor

/-- Move over decimal digits, and points if they are wanted, past at most a given number of wider
digits. -/
def eatDigitsUpTo (points : Bool) : Nat → Cursor → Cursor
  | 0, cursor => cursor
  | count + 1, cursor =>
      let place := cursor.eatWhile fun byte => isDigitByte byte || (points && byte == '.'.toUInt8)
      if isWideByte place.current && Text.isDigit place.character then
        eatDigitsUpTo points count place.advanceChar
      else
        place

/-- Move over decimal digits of any script, and points if they are wanted. -/
def eatDigits (points : Bool) (cursor : Cursor) : Cursor :=
  eatDigitsUpTo points cursor.ahead cursor

/-- Move over a number: digits and points, then an exponent mark, a sign and digits as far as they
stand there. -/
def eatNumber (cursor : Cursor) : Cursor :=
  let mantissa := cursor.eatDigits true
  if mantissa.current == 'e'.toUInt8 || mantissa.current == 'E'.toUInt8 then
    let mark := mantissa.advance
    let sign :=
      if mark.current == '+'.toUInt8 || mark.current == '-'.toUInt8 then mark.advance else mark
    sign.eatDigits false
  else
    mantissa

/-- Move over the characters of a name after its start, at most a given number of them. -/
def eatNameUpTo : Nat → Cursor → Cursor
  | 0, cursor => cursor
  | count + 1, cursor =>
      if continuesNameByte cursor.current then
        eatNameUpTo count cursor.advance
      else if isWideByte cursor.current &&
          (Text.isLetter cursor.character || Text.isDigit cursor.character) then
        eatNameUpTo count cursor.advanceChar
      else
        cursor

/-- Read a name, whose first character is already known to start one. -/
def readName (vocabulary : Vocabulary) (cursor : Cursor) : Tag × Cursor :=
  let first := cursor.advanceChar
  let place := eatNameUpTo first.ahead first
  (if vocabulary.contains (place.sliceFrom cursor.pos) then .keyword else .identifier, place)

/-- Read what a slash starts: either kind of comment, or an operator. -/
def readSlash (cursor : Cursor) : Tag × Cursor :=
  let slash := cursor.advance
  if slash.current == '/'.toUInt8 then
    (.lineComment, slash.advance.seekLineEnd)
  else if slash.current == '*'.toUInt8 then
    (.blockComment, slash.advance.eatPastBlockEnd)
  else
    (.operator, slash)

/-- Read what a character of more than one byte starts. -/
def readWide (vocabulary : Vocabulary) (cursor : Cursor) : Tag × Cursor :=
  let character := cursor.character
  if Text.isBlank character then
    (.whitespace, cursor.eatBlanks)
  else if Text.isDigit character then
    (.number, cursor.eatNumber)
  else if Text.isLetter character then
    cursor.readName vocabulary
  else
    (.badCharacter, cursor.advanceChar)

/-- Read a delimiter, an operator, or a character that starts nothing. -/
def readMark (cursor : Cursor) : Tag × Cursor :=
  match delimiterTag? cursor.current, operatorTail? cursor.current with
  | some tag, _ => (tag, cursor.advance)
  | none, some bytes => (.operator, eatInOrder bytes cursor.advance)
  | none, none => (.badCharacter, cursor.advance)

/-- Read one token.  The cursor is not at the end of its window. -/
def readToken (vocabulary : Vocabulary) (cursor : Cursor) : Tag × Cursor :=
  let byte := cursor.current
  if isBlankByte byte then (.whitespace, cursor.eatBlanks)
  else if byte == '#'.toUInt8 then (.lineComment, cursor.advance.seekLineEnd)
  else if byte == '/'.toUInt8 then cursor.readSlash
  else if byte == '"'.toUInt8 then (.string, cursor.advance.eatString)
  else if isDigitByte byte then (.number, cursor.eatNumber)
  else if startsNameByte byte then cursor.readName vocabulary
  else if isWideByte byte then cursor.readWide vocabulary
  else cursor.readMark

end Cursor
end ConfigLexer
