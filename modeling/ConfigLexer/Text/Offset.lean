/-!
# Byte offsets into a text

A text is addressed by the offsets of its UTF-8 bytes.  Bytes can be read anywhere; characters and
slices only at the boundaries between characters.
-/

namespace ConfigLexer
namespace Text

/-- The number of bytes that encode a text. -/
def byteCount (text : List Char) : Nat := (String.ofList text).utf8ByteSize

/-- The byte at an offset, and zero at and past the end. -/
def byteAt (source : String) (offset : Nat) : UInt8 :=
  if inside : offset < source.utf8ByteSize then source.getUTF8Byte ⟨offset⟩ inside else 0

/-- The offset lies between two characters, or at either end of the text. -/
def isBoundary (source : String) (offset : Nat) : Bool :=
  String.Pos.Raw.isValid source ⟨offset⟩

/-- The character that starts at an offset.  There is none inside a character, at the end or past
it. -/
def charAt? (source : String) (offset : Nat) : Option Char :=
  (source.pos? ⟨offset⟩).bind String.Pos.get?

/-- The text between two offsets, if both are boundaries in order. -/
def slice? (source : String) (start stop : Nat) : Option String :=
  match source.pos? ⟨start⟩, source.pos? ⟨stop⟩ with
  | some first, some last => if first ≤ last then some (source.extract first last) else none
  | _, _ => none

/-- The text between two offsets, empty if they do not delimit one. -/
def slice (source : String) (start stop : Nat) : String :=
  (slice? source start stop).getD ""

end Text
end ConfigLexer
