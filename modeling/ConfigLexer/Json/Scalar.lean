import ConfigLexer.Json.Fault
import ConfigLexer.Text.Hex

/-!
# Reading JSON literals, strings and numbers

Each reader takes the text after the character that told it to begin.
-/

namespace ConfigLexer
namespace Json

/-- The character may stand between the parts of a text. -/
def isSpace (c : Char) : Bool := c == ' ' || c == '\n' || c == '\t' || c == '\r'

/-- The text without the spaces at its start. -/
def skipSpaces (text : List Char) : List Char := text.dropWhile isSpace

/-- The character is a decimal digit. -/
def isDigit (c : Char) : Bool := '0' ≤ c && c ≤ '9'

/-- Read the rest of a literal. -/
def readLiteral : List Char → List Char → Except Fault (List Char)
  | [], text => .ok text
  | _ :: _, [] => .error (.here .endInValue [])
  | c :: literal, d :: text =>
      if c = d then readLiteral literal text else .error (.next .noLiteral (d :: text))

/-- Read the four hexadecimal digits of an escape. -/
def readHexEscape (text : List Char) : Reading (Nat × List Char) :=
  if Text.byteCount (text.take 4) < 4 then .error (.here .endInString [])
  else
    match Text.hexValue? 0 (text.take 4) with
    | some code => .ok (code, text.drop 4)
    | none => .error ⟨.badEscape, text, 4⟩

/-- The character after a backslash that stands for another one by itself. -/
def shortEscape? (letter : Char) : Option Char :=
  if letter = '"' then some '"'
  else if letter = '\\' then some '\\'
  else if letter = '/' then some '/'
  else if letter = 'b' then some '\x08'
  else if letter = 'f' then some '\x0c'
  else if letter = 'n' then some '\n'
  else if letter = 'r' then some '\r'
  else if letter = 't' then some '\t'
  else none

/-- The code unit is the first of a surrogate pair. -/
def isHighSurrogate (unit : Nat) : Bool := 0xD800 ≤ unit && unit < 0xDC00

/-- The code unit is the second of a surrogate pair. -/
def isLowSurrogate (unit : Nat) : Bool := 0xDC00 ≤ unit && unit < 0xE000

/-- The character of a surrogate pair. -/
def ofSurrogates (high low : Nat) : Char :=
  Char.ofNat (0x10000 + (high - 0xD800) * 0x400 + (low - 0xDC00))

/-- Read the second half of a surrogate pair. -/
def readLowSurrogate (high : Nat) : List Char → Reading (Char × List Char)
  | [] => .error (.here .endInString [])
  | '\\' :: [] => .error (.here .endInString [])
  | '\\' :: 'u' :: text => do
      let (low, rest) ← readHexEscape text
      if isLowSurrogate low then .ok (ofSurrogates high low, rest)
      else .error (.here .loneSurrogate rest)
  | '\\' :: text => .error (.next .noSurrogatePair text)
  | text => .error (.next .noSurrogatePair text)

/-- Read an escape after its backslash. -/
def readEscape : List Char → Reading (Char × List Char)
  | [] => .error (.here .endInString [])
  | 'u' :: text => do
      let (unit, rest) ← readHexEscape text
      if isLowSurrogate unit then .error (.here .loneSurrogate rest)
      else if isHighSurrogate unit then readLowSurrogate unit rest
      else .ok (Char.ofNat unit, rest)
  | letter :: text =>
      match shortEscape? letter with
      | some c => .ok (c, text)
      | none => .error (.next .badEscape (letter :: text))

/-- The character must be escaped inside a string. -/
def isControl (c : Char) : Bool := c.toNat < 0x20

/-- Read the characters of a string and its closing quote, at most a given number of characters. -/
def readStringUpTo : Nat → List Char → Reading (List Char × List Char)
  | 0, text => .error (.here .endInString text)
  | _ + 1, [] => .error (.here .endInString [])
  | _ + 1, '"' :: text => .ok ([], text)
  | count + 1, '\\' :: text => do
      let (c, after) ← readEscape text
      let (cs, rest) ← readStringUpTo count after
      .ok (c :: cs, rest)
  | count + 1, c :: text =>
      if isControl c then .error (.next .controlCharacter (c :: text))
      else do
        let (cs, rest) ← readStringUpTo count text
        .ok (c :: cs, rest)

/-- Read the characters of a string and its closing quote. -/
def readString (text : List Char) : Reading (List Char × List Char) :=
  readStringUpTo (text.length + 1) text

/-- The greatest integer that a number keeps exactly. -/
def greatestSignificand : Nat := UInt64.size - 1

/-- A number in the making: the digits that were kept, as an integer, and the power of ten that it
is to be multiplied by. -/
structure Mantissa where
  /-- The integer. -/
  significand : Nat
  /-- The exponent of the power of ten. -/
  exponent : Int
deriving DecidableEq, Repr

/-- The value of a decimal digit. -/
def digitValue (c : Char) : Nat := c.toNat - '0'.toNat

namespace Mantissa

/-- One more digit, if the integer with it is kept exactly. -/
def push? (mantissa : Mantissa) (digit : Char) : Option Nat :=
  let longer := mantissa.significand * 10 + digitValue digit
  if longer ≤ greatestSignificand then some longer else none

/-- Take in digits before the point.  From the first that would make the integer too large on, the
digits are dropped and raise the exponent instead. -/
def integerDigits (mantissa : Mantissa) : List Char → Mantissa
  | [] => mantissa
  | digit :: digits =>
      match mantissa.push? digit with
      | some longer => integerDigits { mantissa with significand := longer } digits
      | none => { mantissa with exponent := mantissa.exponent + (digits.length + 1 : Nat) }

/-- Take in digits after the point.  From the first that would make the integer too large on, the
digits are dropped. -/
def fractionDigits (mantissa : Mantissa) : List Char → Mantissa
  | [] => mantissa
  | digit :: digits =>
      match mantissa.push? digit with
      | some longer => fractionDigits ⟨longer, mantissa.exponent - 1⟩ digits
      | none => mantissa

/-- The number times a power of ten, whose exponent is given by its sign and its magnitude. -/
def raise (mantissa : Mantissa) (isMinus : Bool) (exponent : Nat) : Mantissa :=
  ⟨mantissa.significand, mantissa.exponent + (if isMinus then -(exponent : Int) else exponent)⟩

/-- Divide by powers of ten with exponents of at most 308, and nothing else, as often as a given
number of times. -/
def divide (value : Float) (power : Nat) : Nat → Float
  | 0 => value
  | count + 1 =>
      if power ≤ 308 then value / Float.ofScientific 1 false power
      else if value == 0 then value
      else divide (value / Float.ofScientific 1 false 308) (power - 308) count

/-- The double that is next to a number, rounded once for the integer and once for each
multiplication or division.  There is none if the number is too large. -/
def toDouble? (mantissa : Mantissa) : Option Float :=
  let value := mantissa.significand.toUInt64.toFloat
  if mantissa.exponent < 0 then some (divide value mantissa.exponent.natAbs 4)
  else if mantissa.exponent ≤ 308 then
    let product := value * Float.ofScientific 1 false mantissa.exponent.toNat
    if product.isInf then none else some product
  else if mantissa.significand = 0 then some value
  else none

end Mantissa

/-- A double with a sign. -/
def foundReal (isNegative : Bool) (value : Float) : Found :=
  .real (if isNegative then -value else value).toBits

/-- An integer with a sign.  What fits no 64-bit integer, and minus zero, is a
double. -/
def foundInteger (isNegative : Bool) (magnitude : Nat) : Found :=
  if !isNegative then .integer magnitude
  else if magnitude = 0 ∨ UInt64.size / 2 < magnitude then foundReal true magnitude.toUInt64.toFloat
  else .integer (-(magnitude : Int))

/-- A number that is no integer. -/
def finishReal (isNegative : Bool) (mantissa : Mantissa) (rest : List Char) :
    Reading (Found × List Char) :=
  match mantissa.toDouble? with
  | some value => .ok (foundReal isNegative value, rest)
  | none => .error (.here .numberTooLarge rest)

/-- The greatest exponent that is read. -/
def greatestExponent : Nat := UInt32.size / 2 - 1

/-- Read the digits of an exponent after the first.  One that is too large ends the number at once,
unless the number is zero. -/
def readExponent (isNegative : Bool) (mantissa : Mantissa) (isMinus : Bool) :
    Nat → List Char → Reading (Found × List Char)
  | exponent, [] =>
      finishReal isNegative (mantissa.raise isMinus exponent) []
  | exponent, c :: text =>
      if isDigit c then
        let longer := exponent * 10 + digitValue c
        if longer ≤ greatestExponent then
          readExponent isNegative mantissa isMinus longer text
        else if mantissa.significand ≠ 0 ∧ !isMinus then
          .error (.here .numberTooLarge text)
        else
          .ok (foundReal isNegative 0, text.dropWhile isDigit)
      else
        finishReal isNegative (mantissa.raise isMinus exponent) (c :: text)

/-- Read an exponent after its mark. -/
def readExponentPart (isNegative : Bool) (mantissa : Mantissa) (text : List Char) :
    Reading (Found × List Char) :=
  let isMinus := text.head? == some '-'
  let digits := if isMinus || text.head? == some '+' then text.drop 1 else text
  match digits with
  | [] => .error (.here .endInValue [])
  | c :: rest =>
      if isDigit c then readExponent isNegative mantissa isMinus (digitValue c) rest
      else .error (.next .badNumber (c :: rest))

/-- Read an exponent, if there is one, and finish a number that is no integer. -/
def readRealEnd (isNegative : Bool) (mantissa : Mantissa) :
    List Char → Reading (Found × List Char)
  | c :: text =>
      if c = 'e' ∨ c = 'E' then readExponentPart isNegative mantissa text
      else finishReal isNegative mantissa (c :: text)
  | [] => finishReal isNegative mantissa []

/-- Read the digits after a point, and what follows. -/
def readFraction (isNegative : Bool) (mantissa : Mantissa) :
    List Char → Reading (Found × List Char)
  | [] => .error (.next .endInValue [])
  | c :: text =>
      if isDigit c then
        let digits := (c :: text).takeWhile isDigit
        readRealEnd isNegative (mantissa.fractionDigits digits) ((c :: text).dropWhile isDigit)
      else
        .error (.next .badNumber (c :: text))

/-- Read what follows the digits before a point. -/
def readNumberEnd (isNegative : Bool) (mantissa : Mantissa) (text : List Char) :
    Reading (Found × List Char) :=
  match text with
  | '.' :: rest => readFraction isNegative mantissa rest
  | c :: rest =>
      if c = 'e' ∨ c = 'E' then readExponentPart isNegative mantissa rest
      else if mantissa.exponent = 0 then .ok (foundInteger isNegative mantissa.significand, text)
      else finishReal isNegative mantissa text
  | [] =>
      if mantissa.exponent = 0 then .ok (foundInteger isNegative mantissa.significand, [])
      else finishReal isNegative mantissa []

/-- Read a number after its sign. -/
def readMagnitude (isNegative : Bool) : List Char → Reading (Found × List Char)
  | [] => .error (.here .endInValue [])
  | c :: text =>
      if !isDigit c then .error (.next .badNumber (c :: text))
      else if c = '0' ∧ (text.head?.map isDigit).getD false then .error (.next .badNumber text)
      else
        let digits := (c :: text).takeWhile isDigit
        readNumberEnd isNegative (Mantissa.integerDigits ⟨0, 0⟩ digits)
          ((c :: text).dropWhile isDigit)

/-- Read a number. -/
def readNumber : List Char → Reading (Found × List Char)
  | '-' :: text => readMagnitude true text
  | text => readMagnitude false text

end Json
end ConfigLexer
