import RecordClass.Number.Shortest

/-! Numbers of a data file, and their one written form. -/

namespace RecordClass

/-- Where a decimal is written with its point in place and where with an exponent. -/
structure Decimal.Layout where
  /-- The least exponent of a first digit that is written in place. -/
  leastInPlace : Int
  /-- The greatest exponent of a first digit that is written in place. -/
  greatestInPlace : Int

/-- The digits of a decimal with the point in place and at least one digit on either side of it. -/
def Decimal.inPlace (digits : List Char) (exponent : Int) : List Char :=
  if exponent < 0 then
    ['0', '.'] ++ List.replicate (-exponent - 1).toNat '0' ++ digits
  else
    let whole := exponent.toNat + 1
    if whole < digits.length then digits.take whole ++ '.' :: digits.drop whole
    else digits ++ List.replicate (whole - digits.length) '0' ++ ['.', '0']

/-- The digits of a decimal with one digit before the point, if any follow, and a signed exponent. -/
def Decimal.withExponent (digits : List Char) (exponent : Int) : List Char :=
  let mantissa := if digits.length < 2 then digits else digits.take 1 ++ '.' :: digits.drop 1
  let sign := if exponent < 0 then '-' else '+'
  mantissa ++ 'e' :: sign :: Nat.toDigits 10 exponent.natAbs

/-- A decimal in the form its layout chooses by the exponent of its first digit. -/
def Decimal.chars (layout : Layout) (decimal : Decimal) : List Char :=
  let digits := Nat.toDigits 10 decimal.digits
  let exponent := decimal.exponent + digits.length - 1
  if layout.leastInPlace ≤ exponent ∧ exponent ≤ layout.greatestInPlace then
    inPlace digits exponent
  else withExponent digits exponent

/-- A number is a whole number or a binary64 number, and the two never mix. -/
inductive Number where
  | integer (value : Int)
  | float (negative : Bool) (magnitude : Binary64)
  deriving DecidableEq

namespace Number

/-- Floats have the point in place from `0.00001` up to sixteen digits before it. -/
def layout : Decimal.Layout :=
  ⟨-5, 15⟩

/-- The text of a whole number. -/
def integerChars : Int → List Char
  | .ofNat n => Nat.toDigits 10 n
  | .negSucc n => '-' :: Nat.toDigits 10 (n + 1)

/-- The text of a magnitude: the fewest digits that read back. -/
def magnitudeChars (magnitude : Binary64) : List Char :=
  if magnitude.mantissa = 0 then ['0', '.', '0'] else magnitude.shortest.chars layout

/-- The text of a number. -/
def chars : Number → List Char
  | integer value => integerChars value
  | float negative magnitude =>
    if negative then '-' :: magnitudeChars magnitude else magnitudeChars magnitude

/-- The numbers equal to zero, of either sign. -/
def isZero : Number → Bool
  | integer value => value == 0
  | float _ magnitude => magnitude.mantissa == 0

/-- Equality of numbers: within one kind, and without regard to the sign of zero. -/
def same : Number → Number → Bool
  | integer left, integer right => left == right
  | float leftNegative left, float rightNegative right =>
    left == right && (leftNegative == rightNegative || left.mantissa == 0)
  | _, _ => false

end Number

end RecordClass
