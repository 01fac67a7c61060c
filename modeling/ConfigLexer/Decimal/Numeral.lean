import ConfigLexer.Decimal.Shortest

/-!
# Numerals of doubles

A numeral is the shortest decimal of a double, written out near one and with an exponent far from
it.
-/

namespace ConfigLexer
namespace Decimal

/-- How the numerals of a format look. -/
structure NumeralFormat where
  /-- Least leading exponent that is written out. -/
  leastPlain : Int
  /-- Greatest leading exponent that is written out. -/
  greatestPlain : Int
deriving DecidableEq, Repr

/-- Zeros. -/
def zeros (count : Nat) : List Char := List.replicate count '0'

namespace NumeralFormat

/-- A decimal written out, with at least one digit on either side of the point. -/
def plain (decimal : Decimal) : List Char :=
  let digits := Nat.toDigits 10 decimal.digits
  if 0 ≤ decimal.exponent then
    digits ++ zeros decimal.exponent.toNat ++ ['.', '0']
  else
    let places := (-decimal.exponent).toNat
    if places < digits.length then
      digits.take (digits.length - places) ++ '.' :: digits.drop (digits.length - places)
    else
      '0' :: '.' :: zeros (places - digits.length) ++ digits

/-- A decimal with its point after the first digit and a signed exponent. -/
def scientific (decimal : Decimal) (leading : Int) : List Char :=
  let digits := Nat.toDigits 10 decimal.digits
  let fraction := if digits.length = 1 then [] else '.' :: digits.drop 1
  digits.take 1 ++ fraction ++ 'e' :: (if 0 ≤ leading then '+' else '-') ::
    Nat.toDigits 10 leading.natAbs

/-- The numeral of the finite double that 64 bits encode. -/
def numeral (format : NumeralFormat) (bits : UInt64) : String :=
  let double := Dyadic.ofBits bits
  let sign := if bits.toNat >>> 63 = 0 then [] else ['-']
  let magnitude :=
    if double.significand = 0 then ['0', '.', '0']
    else
      let decimal := double.shortest
      let leading := decimal.exponent + ((Nat.toDigits 10 decimal.digits).length : Int) - 1
      if format.leastPlain ≤ leading ∧ leading ≤ format.greatestPlain then plain decimal
      else scientific decimal leading
  .ofList (sign ++ magnitude)

end NumeralFormat
end Decimal
end ConfigLexer
