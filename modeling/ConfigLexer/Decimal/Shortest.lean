/-!
# Shortest decimals

A finite double stands for every real number that rounds to it.  Its shortest decimal is the one
with the fewest digits among those, and the nearest to it of these.

The values are compared exactly, as fractions of natural numbers.
-/

namespace ConfigLexer

/-- A decimal number, `digits * 10 ^ exponent`. -/
structure Decimal where
  /-- The integer that is multiplied. -/
  digits : Nat
  /-- The exponent of the power of ten. -/
  exponent : Int
deriving DecidableEq, Repr

namespace Decimal

/-- A finite double, as a multiple of a power of two.  The value is `significand * 2 ^ exponent`. -/
structure Dyadic where
  /-- The integer that is multiplied. -/
  significand : Nat
  /-- The exponent of the power of two. -/
  exponent : Int
  /-- The next double below is only half as far away as the next one above. -/
  isNarrowBelow : Bool
deriving DecidableEq, Repr

/-- The significand of a normal double is at least this. -/
def leastNormalSignificand : Nat := 1 <<< 52

/-- The magnitude that 64 bits encode, for bits that encode a finite double. -/
def Dyadic.ofBits (bits : UInt64) : Dyadic :=
  let biased := (bits.toNat >>> 52) % 2048
  let fraction := bits.toNat % leastNormalSignificand
  if biased = 0 then ⟨fraction, -1074, false⟩
  else ⟨fraction + leastNormalSignificand, (biased : Int) - 1075, fraction = 0 && biased ≠ 1⟩

/-- A nonnegative fraction. -/
structure Ratio where
  /-- The upper part. -/
  numerator : Nat
  /-- The lower part. -/
  denominator : Nat
deriving DecidableEq, Repr

namespace Ratio

/-- A multiple of a power of a base. -/
def ofPower (factor base : Nat) (exponent : Int) : Ratio :=
  if 0 ≤ exponent then ⟨factor * Nat.pow base exponent.toNat, 1⟩
  else ⟨factor, Nat.pow base (-exponent).toNat⟩

/-- The first fraction is less than the second. -/
def lt (left right : Ratio) : Bool :=
  left.numerator * right.denominator < right.numerator * left.denominator

/-- The first fraction is at most the second. -/
def le (left right : Ratio) : Bool := !right.lt left

/-- The distance of two fractions. -/
def distance (left right : Ratio) : Ratio :=
  let first := left.numerator * right.denominator
  let second := right.numerator * left.denominator
  ⟨max first second - min first second, left.denominator * right.denominator⟩

end Ratio

/-- The least number of steps down, among a given number, that brings a fraction below one to at
least one when each multiplies it by ten. -/
def stepsBelowOne (value : Ratio) : Nat → Nat
  | 0 => 0
  | count + 1 =>
      if value.denominator ≤ value.numerator then 0
      else stepsBelowOne ⟨value.numerator * 10, value.denominator⟩ count + 1

/-- The exponent of the greatest power of ten that is at most a positive value. -/
def leadingExponent (value : Ratio) : Int :=
  if value.denominator ≤ value.numerator then
    ((Nat.toDigits 10 (value.numerator / value.denominator)).length : Int) - 1
  else
    -(stepsBelowOne value 400 : Int)

/-- The decimals that stand for a double, as a test. -/
def Dyadic.admits (double : Dyadic) (decimal : Decimal) : Bool :=
  let value := Ratio.ofPower decimal.digits 10 decimal.exponent
  let below := 4 * double.significand - (if double.isNarrowBelow then 1 else 2)
  let lower := Ratio.ofPower below 2 (double.exponent - 2)
  let upper := Ratio.ofPower (4 * double.significand + 2) 2 (double.exponent - 2)
  if double.significand % 2 = 0 then lower.le value && value.le upper
  else lower.lt value && value.lt upper

/-- The nearer of a double's two neighbours on the grid of a power of ten that stands for it.  The
even one goes first if both are equally near. -/
def Dyadic.nearestOnGrid? (double : Dyadic) (grid : Int) : Option Decimal :=
  let value := Ratio.ofPower double.significand 2 double.exponent
  let scale := Ratio.ofPower 1 10 (-grid)
  let floor := (value.numerator * scale.numerator) / (value.denominator * scale.denominator)
  let lower : Decimal := ⟨floor, grid⟩
  let upper : Decimal := ⟨floor + 1, grid⟩
  let lowerGap := value.distance (Ratio.ofPower lower.digits 10 grid)
  let upperGap := value.distance (Ratio.ofPower upper.digits 10 grid)
  let order :=
    if lowerGap.lt upperGap || (lowerGap.le upperGap && floor % 2 = 0) then [lower, upper]
    else [upper, lower]
  order.find? double.admits

/-- The decimal without the zeros at the end of its digits, at most a given number of them. -/
def withoutZeros (decimal : Decimal) : Nat → Decimal
  | 0 => decimal
  | count + 1 =>
      if decimal.digits % 10 = 0 then
        withoutZeros ⟨decimal.digits / 10, decimal.exponent + 1⟩ count
      else decimal

/-- The shortest decimal of a positive double.  Seventeen digits always suffice. -/
def Dyadic.shortest (double : Dyadic) : Decimal :=
  let leading := leadingExponent (Ratio.ofPower double.significand 2 double.exponent)
  let grids := (List.range 17).map fun count : Nat => leading - (count : Int)
  match grids.findSome? double.nearestOnGrid? with
  | some decimal => decimal.withoutZeros 17
  | none => ⟨0, 0⟩

end Decimal
end ConfigLexer
