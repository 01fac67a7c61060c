import ConfigLexer.Text.CharSet

/-!
# Blank characters

The characters with the Unicode property `White_Space`.  `trim` removes them from both ends of a
text.
-/

namespace ConfigLexer
namespace Text

/-- Every character with the property `White_Space`. -/
def blanks : CharSet where
  ranges := [
    (0x9, 0xD), (0x20, 0x20), (0x85, 0x85), (0xA0, 0xA0), (0x1680, 0x1680), (0x2000, 0x200A),
    (0x2028, 0x2029), (0x202F, 0x202F), (0x205F, 0x205F), (0x3000, 0x3000)]

/-- The character is white space. -/
def isBlank (c : Char) : Bool := blanks.contains c

/-- The text without the blanks at its start. -/
def trimStart (text : List Char) : List Char := text.dropWhile isBlank

/-- The text without the blanks at its start and at its end. -/
def trim (text : List Char) : List Char := (trimStart (trimStart text).reverse).reverse

/-- The text holds nothing but blanks. -/
def isBlankText (text : List Char) : Bool := text.all isBlank

end Text
end ConfigLexer
