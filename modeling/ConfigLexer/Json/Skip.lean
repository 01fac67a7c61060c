import ConfigLexer.Json.Scalar

/-!
# Skipping JSON values

A value that nobody asked for is read over.  It may be nested to any depth: the brackets that are
still open are kept in a list, innermost first.
-/

namespace ConfigLexer
namespace Json

/-- Read over an escape after its backslash.  Surrogates need not come in pairs. -/
def skipEscape : List Char → Reading (List Char)
  | [] => .error (.here .endInString [])
  | 'u' :: text => (readHexEscape text).map Prod.snd
  | letter :: text =>
      if (shortEscape? letter).isSome then .ok text
      else .error (.next .badEscape (letter :: text))

/-- Read over the characters of a string and its closing quote, at most a given number of
characters. -/
def skipStringUpTo : Nat → List Char → Reading (List Char)
  | 0, text => .error (.here .endInString text)
  | _ + 1, [] => .error (.here .endInString [])
  | _ + 1, '"' :: text => .ok text
  | count + 1, '\\' :: text => (skipEscape text).bind (skipStringUpTo count)
  | count + 1, c :: text =>
      if isControl c then .error (.here .controlCharacter (c :: text))
      else skipStringUpTo count text

/-- Read over the characters of a string and its closing quote. -/
def skipString (text : List Char) : Reading (List Char) := skipStringUpTo (text.length + 1) text

/-- The text starts with a decimal digit. -/
def startsWithDigit (text : List Char) : Bool := (text.head?.map isDigit).getD false

/-- Read over an exponent, if there is one. -/
def skipExponent : List Char → Reading (List Char)
  | [] => .ok []
  | c :: text =>
      if c = 'e' ∨ c = 'E' then
        let isSigned := text.head? == some '-' || text.head? == some '+'
        let digits := if isSigned then text.drop 1 else text
        if startsWithDigit digits then .ok (digits.dropWhile isDigit)
        else .error (.next .badNumber digits)
      else .ok (c :: text)

/-- Read over a point and the digits after it, if there is one, and what follows. -/
def skipFraction : List Char → Reading (List Char)
  | '.' :: text =>
      if startsWithDigit text then skipExponent (text.dropWhile isDigit)
      else .error (.next .badNumber text)
  | text => skipExponent text

/-- Read over a number after its sign. -/
def skipMagnitude : List Char → Reading (List Char)
  | [] => .error (.next .badNumber [])
  | c :: text =>
      if !isDigit c then .error (.next .badNumber (c :: text))
      else if c = '0' ∧ startsWithDigit text then .error (.next .badNumber text)
      else skipFraction (text.dropWhile isDigit)

/-- What an open bracket encloses. -/
inductive Frame where
  | list
  | object
deriving DecidableEq, Repr

namespace Frame

/-- The bracket that closes a frame. -/
def closer : Frame → Char
  | list => ']'
  | object => '\x7d'

/-- The text ends inside a frame. -/
def unclosed : Frame → Reason
  | list => .endInList
  | object => .endInObject

/-- Something else stands where a frame goes on or ends. -/
def noEnd : Frame → Reason
  | list => .noListEnd
  | object => .noObjectEnd

end Frame

/-- Read over a scalar, or over the bracket that starts a list or an object. -/
def skipStart (text : List Char) : Reading (Option Frame × List Char) :=
  match skipSpaces text with
  | [] => .error (.next .endInValue [])
  | c :: rest =>
      if c = 'n' then (readLiteral ['u', 'l', 'l'] rest).map (none, ·)
      else if c = 't' then (readLiteral ['r', 'u', 'e'] rest).map (none, ·)
      else if c = 'f' then (readLiteral ['a', 'l', 's', 'e'] rest).map (none, ·)
      else if c = '-' then (skipMagnitude rest).map (none, ·)
      else if isDigit c then (skipMagnitude (c :: rest)).map (none, ·)
      else if c = '"' then (skipString rest).map (none, ·)
      else if c = '[' then .ok (some .list, rest)
      else if c = '\x7b' then .ok (some .object, rest)
      else .error (.next .noValue (c :: rest))

/-- Read over closing brackets and a comma, which may come only after an element.  The frames that
are left are those that go on with another element. -/
def skipClosers (afterElement : Bool) : List Frame → List Char → Reading (List Frame × List Char)
  | [], text => .ok ([], text)
  | frame :: outer, text =>
      match skipSpaces text with
      | [] => .error (.next frame.unclosed [])
      | c :: rest =>
          if c = ',' && afterElement then .ok (frame :: outer, rest)
          else if c = frame.closer then skipClosers true outer rest
          else if afterElement then .error (.next frame.noEnd (c :: rest))
          else .ok (frame :: outer, c :: rest)

/-- Read over a colon. -/
def readColon (text : List Char) : Reading (List Char) :=
  match skipSpaces text with
  | [] => .error (.next .endInObject [])
  | ':' :: rest => .ok rest
  | rest => .error (.next .noColon rest)

/-- Read over the key and the colon before an element of an object. -/
def skipKey : Frame → List Char → Reading (List Char)
  | .list, text => .ok text
  | .object, text =>
      match skipSpaces text with
      | [] => .error (.next .endInObject [])
      | '"' :: rest => (skipString rest).bind readColon
      | rest => .error (.next .keyNotString rest)

/-- Read over an element and what follows it, until every frame is closed, past at most a given
number of elements. -/
def skipElementsUpTo : Nat → List Frame → List Char → Reading (List Char)
  | 0, _, text => .error (.here .endInValue text)
  | count + 1, frames, text =>
      match skipStart text with
      | .error fault => .error fault
      | .ok (opened, rest) =>
          match skipClosers opened.isNone (opened.toList ++ frames) rest with
          | .error fault => .error fault
          | .ok ([], rest) => .ok rest
          | .ok (frame :: outer, rest) =>
              match skipKey frame rest with
              | .error fault => .error fault
              | .ok rest => skipElementsUpTo count (frame :: outer) rest

/-- Read over a value.  Each element takes at least one character. -/
def skipValue (text : List Char) : Reading (List Char) :=
  skipElementsUpTo (text.length + 1) [] text

end Json
end ConfigLexer
