import ConfigLexer.Text.Blank
import ConfigLexer.Window

/-!
# Cursors

A cursor reads the bytes of a window from left to right.  It sees nothing at or past the end of
the window: the byte there reads as zero, which no class of bytes accepts.  A real NUL inside the
window reads as zero too and is told apart by its offset.

Loops count down the bytes that are left, so each ends by recursion on that number.
-/

namespace ConfigLexer

/-- A position in a window of a source. -/
structure Cursor where
  /-- The source up to the end of the window. -/
  text : String
  /-- Offset of the next byte. -/
  pos : UInt32
  /-- Offset just past the window. -/
  stop : UInt32
deriving DecidableEq, Repr

namespace Cursor

/-- The cursor at the start of a window.  A window that ends at no boundary keeps the whole
source. -/
def ofWindow (source : String) (window : Window) : Cursor where
  text := (Text.slice? source 0 window.stop.toNat).getD source
  pos := window.start
  stop := window.stop

/-- The next byte, and zero at the end of the window. -/
def current (cursor : Cursor) : UInt8 := Text.byteAt cursor.text cursor.pos.toNat

/-- The byte after the next one. -/
def following (cursor : Cursor) : UInt8 := Text.byteAt cursor.text (cursor.pos.toNat + 1)

/-- The character at the cursor, and NUL inside a character and at the end of the window. -/
def character (cursor : Cursor) : Char :=
  (Text.charAt? cursor.text cursor.pos.toNat).getD '\x00'

/-- The cursor has reached the end of the window. -/
def atEnd (cursor : Cursor) : Bool := cursor.stop ≤ cursor.pos

/-- The number of bytes between the cursor and the end of the window. -/
def ahead (cursor : Cursor) : Nat := cursor.stop.toNat - cursor.pos.toNat

/-- The text between two offsets of the window, empty if they do not delimit one. -/
def slice (cursor : Cursor) (start stop : UInt32) : String :=
  Text.slice cursor.text start.toNat stop.toNat

/-- The text between an offset and the cursor. -/
def sliceFrom (cursor : Cursor) (start : UInt32) : String := cursor.slice start cursor.pos

/-- The cursor at the end of the window. -/
def toEnd (cursor : Cursor) : Cursor := { cursor with pos := cursor.stop }

/-- Move over one byte. -/
def advance (cursor : Cursor) : Cursor := { cursor with pos := cursor.pos + 1 }

/-- The number of bytes in the character that starts with a byte.  A byte that starts none counts
as one. -/
def charWidth (byte : UInt8) : UInt32 :=
  if 0xC0 ≤ byte && byte ≤ 0xDF then 2
  else if 0xE0 ≤ byte && byte ≤ 0xEF then 3
  else if 0xF0 ≤ byte && byte ≤ 0xF7 then 4
  else 1

/-- Move over one character, but not past the end of the window. -/
def advanceChar (cursor : Cursor) : Cursor :=
  { cursor with pos := min (cursor.pos + charWidth cursor.current) cursor.stop }

/-- Move over the bytes of a class, at most a given number of them. -/
def eatWhileUpTo (accepts : UInt8 → Bool) : Nat → Cursor → Cursor
  | 0, cursor => cursor
  | count + 1, cursor =>
      if accepts cursor.current then eatWhileUpTo accepts count cursor.advance else cursor

/-- Move over the bytes of a class. -/
def eatWhile (accepts : UInt8 → Bool) (cursor : Cursor) : Cursor :=
  eatWhileUpTo accepts cursor.ahead cursor

/-- The byte is an ASCII blank. -/
def isBlankByte (byte : UInt8) : Bool := byte == ' '.toUInt8 || (0x09 ≤ byte && byte ≤ 0x0D)

/-- The byte belongs to a character of more than one byte. -/
def isWideByte (byte : UInt8) : Bool := 0x80 ≤ byte

/-- Move over blanks, at most a given number of them. -/
def eatBlanksUpTo : Nat → Cursor → Cursor
  | 0, cursor => cursor
  | count + 1, cursor =>
      if isBlankByte cursor.current then
        eatBlanksUpTo count cursor.advance
      else if isWideByte cursor.current && Text.isBlank cursor.character then
        eatBlanksUpTo count cursor.advanceChar
      else
        cursor

/-- Move over blanks. -/
def eatBlanks (cursor : Cursor) : Cursor := eatBlanksUpTo cursor.ahead cursor

/-- Move to the first place, among a given number of them, where a condition on the cursor
holds. -/
def seekUpTo (found : Cursor → Bool) : Nat → Cursor → Cursor
  | 0, cursor => cursor
  | count + 1, cursor => if found cursor then cursor else seekUpTo found count cursor.advance

/-- Move to the first place where a condition on the cursor holds, or to the end of the window. -/
def seek (found : Cursor → Bool) (cursor : Cursor) : Cursor :=
  if cursor.atEnd then cursor.toEnd else seekUpTo found cursor.ahead cursor

/-- Move to the next line break. -/
def seekLineEnd (cursor : Cursor) : Cursor :=
  cursor.seek fun place => place.current == '\n'.toUInt8

/-- Move to the next quote or backslash. -/
def seekStringMark (cursor : Cursor) : Cursor :=
  cursor.seek fun place => place.current == '"'.toUInt8 || place.current == '\\'.toUInt8

/-- The closing mark of a block comment stands at the cursor. -/
def atBlockEnd (cursor : Cursor) : Bool :=
  cursor.current == '*'.toUInt8 && cursor.following == '/'.toUInt8

/-- Move past the next closing mark of a block comment. -/
def eatPastBlockEnd (cursor : Cursor) : Cursor :=
  let place := cursor.seek atBlockEnd
  if place.atEnd then place else place.advance.advance

end Cursor
end ConfigLexer
