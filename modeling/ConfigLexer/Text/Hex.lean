/-!
# Hexadecimal digits

Hexadecimal numerals are written in lower case and read in either.
-/

namespace ConfigLexer
namespace Text

/-- The value of a hexadecimal digit. -/
def hexDigit? (c : Char) : Option Nat :=
  if '0' ≤ c ∧ c ≤ '9' then some (c.toNat - '0'.toNat)
  else if 'a' ≤ c ∧ c ≤ 'f' then some (c.toNat - 'a'.toNat + 10)
  else if 'A' ≤ c ∧ c ≤ 'F' then some (c.toNat - 'A'.toNat + 10)
  else none

/-- The number that hexadecimal digits write after a number read before them. -/
def hexValue? (before : Nat) : List Char → Option Nat
  | [] => some before
  | c :: rest => (hexDigit? c).bind fun digit => hexValue? (16 * before + digit) rest

/-- The shortest hexadecimal numeral of a number. -/
def hexNumeral (number : Nat) : List Char := Nat.toDigits 16 number

end Text
end ConfigLexer
