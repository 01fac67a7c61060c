import ConfigLexer.Decimal.Numeral
import ConfigLexer.Text.Offset
import ConfigLexer.Text.Quoted

/-!
# Faults in JSON text

A reader that finds a fault says what is wrong and what was left to read there.  The place of the
fault in the whole text, its line and its column in bytes, follows from that.
-/

namespace ConfigLexer
namespace Json

/-- The value that stands where another type is wanted. -/
inductive Found where
  | null
  | boolean (value : Bool)
  | integer (value : Int)
  /-- A number that is no 64-bit integer, as the double that these bits encode. -/
  | real (bits : UInt64)
  | string (text : String)
  | sequence
  | map
deriving DecidableEq, Repr

/-- What is wrong with a text. -/
inductive Reason where
  | endInValue
  | endInString
  | endInList
  | endInObject
  | noColon
  | noListEnd
  | noObjectEnd
  | noLiteral
  | noValue
  | badEscape
  | badNumber
  | numberTooLarge
  | loneSurrogate
  | noSurrogatePair
  | controlCharacter
  | keyNotString
  | trailingComma
  | trailingCharacters
  /-- The member occurs a second time. -/
  | duplicateField (name : String)
  /-- The name is none of those that are allowed. -/
  | unknownVariant (name : String) (allowed : List String)
  /-- A value of another type than the one that is wanted. -/
  | wrongType (found : Found) (wanted : String)
deriving DecidableEq, Repr

/-- A text between accents. -/
def accented (text : String) : String := "`" ++ text ++ "`"

/-- Numbers are written out from a hundred-thousandth to below ten quadrillions, with at least one
digit after the point, and others with an exponent. -/
def realFormat : Decimal.NumeralFormat := ⟨-5, 15⟩

namespace Found

/-- The report of a value of the wrong type. -/
def message : Found → String
  | null => "null"
  | boolean true => "boolean " ++ accented "true"
  | boolean false => "boolean " ++ accented "false"
  | integer value => "integer " ++ accented (toString value)
  | real bits => "floating point " ++ accented (realFormat.numeral bits)
  | string text => "string " ++ Text.quote text
  | sequence => "sequence"
  | map => "map"

end Found

namespace Reason

/-- The report of what is wrong. -/
def message : Reason → String
  | endInValue => "EOF while parsing a value"
  | endInString => "EOF while parsing a string"
  | endInList => "EOF while parsing a list"
  | endInObject => "EOF while parsing an object"
  | noColon => "expected `:`"
  | noListEnd => "expected `,` or `]`"
  | noObjectEnd => "expected `,` or `\x7d`"
  | noLiteral => "expected ident"
  | noValue => "expected value"
  | badEscape => "invalid escape"
  | badNumber => "invalid number"
  | numberTooLarge => "number out of range"
  | loneSurrogate => "lone leading surrogate in hex escape"
  | noSurrogatePair => "unexpected end of hex escape"
  | controlCharacter => "control character (\\u0000-\\u001F) found while parsing a string"
  | keyNotString => "key must be a string"
  | trailingComma => "trailing comma"
  | trailingCharacters => "trailing characters"
  | duplicateField name => "duplicate field " ++ accented name
  | unknownVariant name allowed =>
      "unknown variant " ++ accented name ++ ", expected one of " ++
        ", ".intercalate (allowed.map accented)
  | wrongType found wanted => "invalid type: " ++ found.message ++ ", expected " ++ wanted

end Reason

/-- Something wrong at a place in a text. -/
structure Fault where
  /-- What is wrong. -/
  reason : Reason
  /-- What was left to read. -/
  rest : List Char
  /-- How many bytes further on the fault is reported, as far as there are so many. -/
  beyond : Nat
deriving DecidableEq, Repr

namespace Fault

/-- A fault before what is left to read. -/
def here (reason : Reason) (rest : List Char) : Fault := ⟨reason, rest, 0⟩

/-- A fault just past the next byte. -/
def next (reason : Reason) (rest : List Char) : Fault := ⟨reason, rest, 1⟩

end Fault

/-- Line and column of the place so many bytes into a text, from a line and a column on.  The
column counts bytes. -/
def placeFrom (line column : Nat) : List Char → Nat → Nat × Nat
  | [], _ => (line, column)
  | c :: rest, count =>
      if count = 0 then (line, column)
      else if c = '\n' then placeFrom (line + 1) 0 rest (count - 1)
      else placeFrom line (column + min c.utf8Size count) rest (count - c.utf8Size)

/-- Something wrong at a line and a column. -/
structure Failure where
  /-- What is wrong. -/
  reason : Reason
  /-- The line, from one on. -/
  line : Nat
  /-- The number of bytes before the place in its line. -/
  column : Nat
deriving DecidableEq, Repr

namespace Failure

/-- The report of a failure. -/
def message (failure : Failure) : String :=
  failure.reason.message ++ " at line " ++ toString failure.line ++ " column " ++
    toString failure.column

end Failure

/-- The failure of reading a text. -/
def Fault.locate (fault : Fault) (text : List Char) : Failure :=
  let total := Text.byteCount text
  let place := placeFrom 1 0 text (min (total - Text.byteCount fault.rest + fault.beyond) total)
  ⟨fault.reason, place.1, place.2⟩

/-- A reader yields what it read, or a fault. -/
abbrev Reading := Except Fault

end Json
end ConfigLexer
