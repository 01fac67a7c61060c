import ConfigLexer.Text.Hex
import ConfigLexer.Text.Hidden

/-!
# Quoted text

Reports quote text so that every line break and every hidden character can be seen, and so that
the text can be read back.
-/

namespace ConfigLexer
namespace Text
namespace Quoted

/-- The letter after the backslash, for the characters that are quoted by one. -/
def shortEscape? (c : Char) : Option Char :=
  if c = '"' then some '"'
  else if c = '\\' then some '\\'
  else if c = '\x00' then some '0'
  else if c = '\t' then some 't'
  else if c = '\r' then some 'r'
  else if c = '\n' then some 'n'
  else none

/-- How one character is written between quotes. -/
def spell (c : Char) : List Char :=
  match shortEscape? c with
  | some letter => ['\\', letter]
  | none =>
      if isHidden c then '\\' :: 'u' :: '\x7b' :: hexNumeral c.toNat ++ ['\x7d'] else [c]

/-- The text between quotes. -/
def encode (text : List Char) : List Char := '"' :: text.flatMap spell ++ ['"']

/-- The character that a letter after a backslash stands for. -/
def shortMeaning? (letter : Char) : Option Char :=
  if letter = '"' then some '"'
  else if letter = '\\' then some '\\'
  else if letter = '0' then some '\x00'
  else if letter = 't' then some '\t'
  else if letter = 'r' then some '\r'
  else if letter = 'n' then some '\n'
  else none

/-- Read quoted text up to its closing quote, which must be the last character. -/
def decodeBody? : List Char → Option (List Char)
  | [] => none
  | ['"'] => some []
  | '"' :: _ :: _ => none
  | ['\\'] => none
  | '\\' :: 'u' :: '\x7b' :: rest => do
      let digits := rest.takeWhile (· ≠ '\x7d')
      let code ← hexValue? 0 digits
      let text ← decodeBody? (rest.drop (digits.length + 1))
      some (Char.ofNat code :: text)
  | '\\' :: letter :: rest => do
      let c ← shortMeaning? letter
      let text ← decodeBody? rest
      some (c :: text)
  | c :: rest => (decodeBody? rest).map (c :: ·)
termination_by text => text.length
decreasing_by all_goals simp only [List.length_drop, List.length_cons]; omega

/-- Read quoted text. -/
def decode? : List Char → Option (List Char)
  | '"' :: rest => decodeBody? rest
  | _ => none

end Quoted

/-- The text between quotes. -/
def quote (text : String) : String := .ofList (Quoted.encode text.toList)

end Text
end ConfigLexer
