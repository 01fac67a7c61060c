import ConfigLexer.Text.Blank

/-!
# Comments

Lines are commented out with `#` and a space after their indentation.  Commenting in also takes
`//`, which scans as a line comment too.
-/

namespace ConfigLexer

/-- A line of text, without its line break. -/
abbrev Line := List Char

namespace Line

/-- The spaces and tabs at the start of a line. -/
def indent (line : Line) : Line := line.takeWhile fun c => c == ' ' || c == '\t'

/-- The line from the first character on that is neither a space nor a tab. -/
def body (line : Line) : Line := line.dropWhile fun c => c == ' ' || c == '\t'

/-- A line after its comment marker and one space after that, if it starts with a marker. -/
def afterMarker? : Line → Option Line
  | '/' :: '/' :: ' ' :: rest => some rest
  | '/' :: '/' :: rest => some rest
  | '#' :: ' ' :: rest => some rest
  | '#' :: rest => some rest
  | _ => none

/-- Comment out a line.  A blank line stays as it is. -/
def comment (line : Line) : Line :=
  if Text.isBlankText line.body then line else line.indent ++ '#' :: ' ' :: line.body

/-- Comment in a line, if it is a line comment. -/
def uncomment? (line : Line) : Option Line := (afterMarker? line.body).map (line.indent ++ ·)

/-- The line is a line comment. -/
def isComment (line : Line) : Bool :=
  ['/', '/'].isPrefixOf line.body || ['#'].isPrefixOf line.body

/-- Every line that is not blank is a line comment. -/
def allComments (lines : List Line) : Bool :=
  lines.all fun line => Text.isBlankText line || line.isComment

/-- Comment in every line comment if there is nothing else but blank lines, and comment out every
line if there is. -/
def toggle (lines : List Line) : List Line :=
  if allComments lines then lines.map fun line => line.uncomment?.getD line
  else lines.map comment

/-- The marks around a block comment. -/
def blockMarks : Line × Line := (['/', '*'], ['*', '/'])

/-- Put a text into a block comment. -/
def commentBlock (text : Line) : Line := blockMarks.1 ++ text ++ blockMarks.2

end Line

/-- The marker that comments out a line. -/
def lineCommentMarker : String := "#"

/-- Comment out a line. -/
def commentLine (line : String) : String := .ofList (Line.comment line.toList)

/-- Comment in a line, if it is a line comment. -/
def uncommentLine? (line : String) : Option String := (Line.uncomment? line.toList).map .ofList

/-- The line is a line comment. -/
def isLineComment (line : String) : Bool := Line.isComment line.toList

/-- Comment lines in if all that are not blank are line comments, and out otherwise. -/
def toggleLines (lines : List String) : List String :=
  (Line.toggle (lines.map String.toList)).map .ofList

/-- Put a text into a block comment. -/
def commentBlock (text : String) : String := .ofList (Line.commentBlock text.toList)

end ConfigLexer
