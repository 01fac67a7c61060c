import ConfigLexer.Text.Offset

/-!
# Windows

A window is the part of a source between two byte offsets.  It can be scanned if the offsets are
in order, inside the source, and between characters.
-/

namespace ConfigLexer

/-- A pair of byte offsets. -/
structure Window where
  /-- Offset of the first byte. -/
  start : UInt32
  /-- Offset just past the last byte. -/
  stop : UInt32
deriving DecidableEq, Repr

/-- The reason why a window cannot be scanned. -/
inductive WindowError where
  /-- The window ends before it starts. -/
  | inverted (start stop : UInt32)
  /-- The window ends past a source of this many bytes. -/
  | outOfBounds (stop : UInt32) (size : Nat)
  /-- The offset lies inside a character. -/
  | splitsCharacter (offset : UInt32)
deriving DecidableEq, Repr

namespace WindowError

/-- The report of an error. -/
def message : WindowError → String
  | inverted start stop =>
      "scan window start " ++ toString start.toNat ++ " is past its end " ++ toString stop.toNat
  | outOfBounds stop size =>
      "scan window end " ++ toString stop.toNat ++ " exceeds buffer length " ++ toString size
  | splitsCharacter offset =>
      "scan offset " ++ toString offset.toNat ++ " splits a UTF-8 character"

end WindowError

namespace Window

/-- The first thing wrong with a window of this source: its order, its end, then its start and its
end as boundaries. -/
def error? (source : String) (window : Window) : Option WindowError :=
  if window.stop < window.start then
    some (.inverted window.start window.stop)
  else if source.utf8ByteSize < window.stop.toNat then
    some (.outOfBounds window.stop source.utf8ByteSize)
  else if !Text.isBoundary source window.start.toNat then
    some (.splitsCharacter window.start)
  else if !Text.isBoundary source window.stop.toNat then
    some (.splitsCharacter window.stop)
  else
    none

/-- The greatest boundary of the source that is not past an offset. -/
def boundaryBelow (source : String) : Nat → Nat
  | 0 => 0
  | offset + 1 =>
      if Text.isBoundary source (offset + 1) then offset + 1 else boundaryBelow source offset

/-- The window of the whole source, or of as much of it as 32-bit offsets reach. -/
def whole (source : String) : Window where
  start := 0
  stop := (boundaryBelow source (min source.utf8ByteSize (UInt32.size - 1))).toUInt32

end Window
end ConfigLexer
