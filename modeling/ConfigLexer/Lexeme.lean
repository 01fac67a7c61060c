import ConfigLexer.Token
import ConfigLexer.Vocabulary
import ConfigLexer.Text.Blank
import ConfigLexer.Text.Digit
import ConfigLexer.Text.Letter

/-!
# Lexemes

The lexical grammar on characters alone, without bytes, offsets or windows.  The first character
of a text decides a rule, the rule says how many of the characters after it belong to the lexeme,
and what is left is cut up in the same way.
-/

namespace ConfigLexer

/-- A tagged piece of text. -/
structure Lexeme where
  /-- Category of the piece. -/
  tag : Tag
  /-- The characters of the piece. -/
  text : List Char
deriving DecidableEq, Repr

namespace Lexeme

/-- The number of characters before the next line break. -/
def lineReach (text : List Char) : Nat := (text.takeWhile (· ≠ '\n')).length

/-- The number of characters through the next closing mark of a block comment. -/
def blockReach : List Char → Nat
  | [] => 0
  | '*' :: '/' :: _ => 2
  | _ :: rest => blockReach rest + 1

/-- The number of characters through the next quote that no backslash escapes. -/
def stringReach : List Char → Nat
  | [] => 0
  | '"' :: _ => 1
  | ['\\'] => 1
  | '\\' :: _ :: rest => stringReach rest + 2
  | _ :: rest => stringReach rest + 1

/-- The number of decimal digits at the start of a text. -/
def digitReach (text : List Char) : Nat := (text.takeWhile Text.isDigit).length

/-- The number of digits and points at the start of a text. -/
def mantissaReach (text : List Char) : Nat :=
  (text.takeWhile fun c => Text.isDigit c || c == '.').length

/-- The number of characters of an exponent at the start of a text: a mark, a sign and digits, of
which only the mark must be there. -/
def exponentReach : List Char → Nat
  | [] => 0
  | mark :: rest =>
      if mark == 'e' || mark == 'E' then
        match rest with
        | sign :: digits =>
            if sign == '+' || sign == '-' then digitReach digits + 2 else digitReach rest + 1
        | [] => 1
      else 0

/-- The number of characters of a number after its first digit. -/
def numberReach (text : List Char) : Nat :=
  mantissaReach text + exponentReach (text.drop (mantissaReach text))

/-- The character may start a name. -/
def startsName (c : Char) : Bool := Text.isLetter c || c == '_'

/-- The character may stand in a name after its start. -/
def continuesName (c : Char) : Bool := startsName c || Text.isDigit c || c == '-'

/-- The number of name characters at the start of a text. -/
def nameReach (text : List Char) : Nat := (text.takeWhile continuesName).length

/-- Every operator, those of more characters first. -/
def operators : List (List Char) :=
  [['.', '.', '.'], ['.', '.'], ['=', '='], ['!', '='], ['<', '='], ['>', '='], ['&', '&'],
    ['|', '|'], ['='], ['!'], ['<'], ['>'], ['+'], ['-'], ['*'], ['%'], ['&'], ['|'], [':'], ['?'],
    ['.'], ['/']]

/-- The longest operator at the start of a text. -/
def operator? (text : List Char) : Option (List Char) := operators.find? (·.isPrefixOf text)

/-- The delimiter tag of a character. -/
def delimiterTag? (c : Char) : Option Tag :=
  if c = '\x7b' then some (.opening .brace)
  else if c = '\x7d' then some (.closing .brace)
  else if c = '[' then some (.opening .bracket)
  else if c = ']' then some (.closing .bracket)
  else if c = '(' then some (.opening .paren)
  else if c = ')' then some (.closing .paren)
  else none

/-- The tag of a name. -/
def nameTag (vocabulary : Vocabulary) (name : List Char) : Tag :=
  if vocabulary.contains (String.ofList name) then .keyword else .identifier

/-- The tag of the lexeme at the start of a text, and the number of its characters after the first
one.  The first rule that matches decides. -/
def reach (vocabulary : Vocabulary) (first : Char) (rest : List Char) : Tag × Nat :=
  if Text.isBlank first then
    (.whitespace, (rest.takeWhile Text.isBlank).length)
  else if first = '#' ∨ ['/', '/'].isPrefixOf (first :: rest) then
    (.lineComment, lineReach rest)
  else if ['/', '*'].isPrefixOf (first :: rest) then
    (.blockComment, blockReach rest.tail + 1)
  else if first = '"' then
    (.string, stringReach rest)
  else if Text.isDigit first then
    (.number, numberReach rest)
  else if let some tag := delimiterTag? first then
    (tag, 0)
  else if let some text := operator? (first :: rest) then
    (.operator, text.length - 1)
  else if startsName first then
    (nameTag vocabulary (first :: rest.take (nameReach rest)), nameReach rest)
  else
    (.badCharacter, 0)

/-- The lexemes of a text. -/
def lex (vocabulary : Vocabulary) : List Char → List Lexeme
  | [] => []
  | first :: rest =>
      let (tag, count) := reach vocabulary first rest
      ⟨tag, first :: rest.take count⟩ :: lex vocabulary (rest.drop count)
termination_by text => text.length
decreasing_by
  simp only [List.length_drop, List.length_cons]
  omega

/-- The tokens of consecutive lexemes, the first of which starts at an offset. -/
def layOut : Nat → List Lexeme → List Token
  | _, [] => []
  | offset, lexeme :: lexemes =>
      let stop := offset + Text.byteCount lexeme.text
      ⟨lexeme.tag, offset.toUInt32, stop.toUInt32⟩ :: layOut stop lexemes

/-- The lexemes of consecutive texts follow one another without loss. -/
theorem flatMap_text_lex (vocabulary : Vocabulary) (text : List Char) :
    (lex vocabulary text).flatMap Lexeme.text = text := by
  fun_induction lex vocabulary text with
  | case1 => rfl
  | case2 first rest tag count _ ih =>
      rw [List.flatMap_cons, ih, List.cons_append, List.take_append_drop]

end Lexeme
end ConfigLexer
