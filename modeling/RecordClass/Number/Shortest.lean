import RecordClass.Number.Binary64

/-! The shortest decimal that reads back as a given binary64 magnitude. -/

namespace RecordClass

/-- The decimal number `digits * 10 ^ exponent`. -/
structure Decimal where
  digits : Nat
  exponent : Int
  deriving DecidableEq

/-- The reals that round to one magnitude, as fractions over one denominator. -/
structure Neighbourhood where
  lower : Nat
  value : Nat
  upper : Nat
  denominator : Nat
  /-- The ends belong to it, since a half goes to the even mantissa. -/
  closed : Bool

/-- The neighbourhood of a magnitude reaches half way to the magnitudes beside it. -/
def Binary64.neighbourhood (x : Binary64) : Neighbourhood :=
  let (scale, denominator) :=
    if 0 ≤ x.exponent then (Nat.pow 2 x.exponent.toNat, 4)
    else (1, 4 * Nat.pow 2 (-x.exponent).toNat)
  -- Below a power of two the magnitudes lie twice as close.
  let reach := if x.mantissa = leastMantissa ∧ x.exponent ≠ -1074 then 1 else 2
  { lower := (4 * x.mantissa - reach) * scale
    value := 4 * x.mantissa * scale
    upper := (4 * x.mantissa + 2) * scale
    denominator
    closed := x.mantissa % 2 == 0 }

namespace Neighbourhood

/-- The neighbourhood measured in units of `10 ^ exponent`. -/
def inUnits (n : Neighbourhood) (exponent : Int) : Neighbourhood :=
  if 0 ≤ exponent then { n with denominator := n.denominator * Nat.pow 10 exponent.toNat }
  else
    let factor := Nat.pow 10 (-exponent).toNat
    { n with lower := n.lower * factor, value := n.value * factor, upper := n.upper * factor }

/-- A whole number of units lies in the neighbourhood. -/
def holds (n : Neighbourhood) (units : Nat) : Bool :=
  let point := units * n.denominator
  if n.closed then n.lower ≤ point && point ≤ n.upper else n.lower < point && point < n.upper

/-- The whole number of units in the neighbourhood that is nearest to the value, if any is in it. -/
def whole? (n : Neighbourhood) : Option Nat :=
  -- If any whole number is inside, one of the two beside the value is.
  let below := n.value / n.denominator
  match n.holds below, n.holds (below + 1) with
  | true, true => some (Binary64.roundHalfEven n.value n.denominator)
  | true, false => some below
  | false, true => some (below + 1)
  | false, false => none

/-- Tries ever finer powers of ten, of which the last one needs no look inside. -/
def decimal (n : Neighbourhood) : Nat → Int → Decimal
  | 0, exponent => ⟨(n.inUnits exponent).value / (n.inUnits exponent).denominator + 1, exponent⟩
  | steps + 1, exponent =>
    match (n.inUnits exponent).whole? with
    | some digits => ⟨digits, exponent⟩
    | none => n.decimal steps (exponent - 1)

/-- A power of ten above the value, at most two places too high. -/
def topExponent (n : Neighbourhood) : Int :=
  ((Nat.log2 n.value : Int) - Nat.log2 n.denominator + 1) * 30103 / 100000 + 1

end Neighbourhood

/-- The decimal with the fewest digits that reads back as the magnitude, and the nearest of those.

Seventeen digits always suffice, so twenty steps from above the value do. -/
def Binary64.shortest (x : Binary64) : Decimal :=
  x.neighbourhood.decimal 20 x.neighbourhood.topExponent

end RecordClass
