import ConfigLexer.Text.Blank
import ConfigLexer.Window

/-!
# Windows as text

A window is written as two decimal numerals with two dots between them.  It is read with blanks
around either numeral, one plus sign before it, and any number of zeros at its start.
-/

namespace ConfigLexer
namespace Window

/-- The offsets of a window in decimal. -/
def text (window : Window) : String :=
  toString window.start.toNat ++ ".." ++ toString window.stop.toNat

/-- What stands before and after the first two dots in a row. -/
def splitAtDots? : List Char → Option (List Char × List Char)
  | '.' :: '.' :: rest => some ([], rest)
  | c :: rest => (splitAtDots? rest).map fun sides => (c :: sides.1, sides.2)
  | [] => none

/-- The characters after a plus sign at the start, if there is one. -/
def dropPlus : List Char → List Char
  | '+' :: rest => rest
  | text => text

/-- The offset that a numeral writes. -/
def readOffset? (text : List Char) : Option UInt32 :=
  let numeral := dropPlus (Text.trim text)
  let offset := Nat.ofDigitChars 10 numeral 0
  if numeral ≠ [] ∧ numeral.all Char.isDigit ∧ offset < UInt32.size then some offset.toUInt32
  else none

/-- The window that a text writes. -/
def ofText? (text : String) : Option Window := do
  let (start, stop) ← splitAtDots? text.toList
  some ⟨← readOffset? start, ← readOffset? stop⟩

end Window
end ConfigLexer
