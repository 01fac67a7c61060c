import ConfigLexer.Text.Hex

/-!
# Printing JSON

Lists and objects are printed with one element to a line, indented by two spaces for each bracket
around it.  Strings escape no more than they must.
-/

namespace ConfigLexer
namespace Json

/-- How one character is written in a string. -/
def escape (c : Char) : List Char :=
  if c = '"' then ['\\', '"']
  else if c = '\\' then ['\\', '\\']
  else if c = '\x08' then ['\\', 'b']
  else if c = '\x0c' then ['\\', 'f']
  else if c = '\n' then ['\\', 'n']
  else if c = '\r' then ['\\', 'r']
  else if c = '\t' then ['\\', 't']
  else if c.toNat < 0x20 then
    ['\\', 'u', '0', '0', (c.toNat / 16).digitChar, (c.toNat % 16).digitChar]
  else [c]

/-- A string between quotes. -/
def printText (text : String) : List Char := '"' :: text.toList.flatMap escape ++ ['"']

/-- A truth value. -/
def printBool (value : Bool) : List Char := (if value then "true" else "false").toList

/-- A new line inside a number of brackets. -/
def newLine (depth : Nat) : List Char := '\n' :: List.replicate (2 * depth) ' '

/-- Elements to a line each, with commas between them. -/
def printLines (depth : Nat) : List (List Char) → List Char
  | [] => []
  | [last] => newLine depth ++ last
  | element :: elements => newLine depth ++ element ++ ',' :: printLines depth elements

/-- Elements between brackets, which stand inside a number of other brackets. -/
def printBlock (opener closer : Char) (depth : Nat) (elements : List (List Char)) : List Char :=
  if elements.isEmpty then [opener, closer]
  else opener :: printLines (depth + 1) elements ++ newLine depth ++ [closer]

/-- A list of strings. -/
def printTexts (depth : Nat) (texts : List String) : List Char :=
  printBlock '[' ']' depth (texts.map printText)

/-- A member of an object. -/
def printMember (member : String × List Char) : List Char :=
  printText member.1 ++ ':' :: ' ' :: member.2

/-- An object. -/
def printObject (depth : Nat) (members : List (String × List Char)) : List Char :=
  printBlock '\x7b' '\x7d' depth (members.map printMember)

end Json
end ConfigLexer
