/-! Finite binary64 magnitudes, and the rounding of fractions to them. -/

namespace RecordClass

/-- The least mantissa of 53 bits. -/
def leastMantissa : Nat :=
  4503599627370496

/-- The least mantissa that takes more than 53 bits. -/
def mantissaBound : Nat :=
  9007199254740992

/-- The magnitude `mantissa * 2 ^ exponent` of a finite binary64 number, in its only form. -/
structure Binary64 where
  mantissa : Nat
  exponent : Int
  canonical : mantissa < mantissaBound ∧ -1074 ≤ exponent ∧ exponent ≤ 971 ∧
    (leastMantissa ≤ mantissa ∨ exponent = -1074)
  deriving DecidableEq

namespace Binary64

/-- The magnitude zero. -/
def zero : Binary64 :=
  ⟨0, -1074, by decide⟩

/-- The fraction that a magnitude denotes, as numerator and denominator. -/
def fraction (x : Binary64) : Nat × Nat :=
  if 0 ≤ x.exponent then (x.mantissa * Nat.pow 2 x.exponent.toNat, 1)
  else (x.mantissa, Nat.pow 2 (-x.exponent).toNat)

/-- The whole number nearest to a fraction; a half goes to the even neighbour. -/
def roundHalfEven (numerator denominator : Nat) : Nat :=
  let whole := numerator / denominator
  let twice := 2 * (numerator % denominator)
  if denominator < twice ∨ (denominator = twice ∧ whole % 2 = 1) then whole + 1 else whole

/-- A fraction divided by a power of two. -/
def unscaled (numerator denominator : Nat) (exponent : Int) : Nat × Nat :=
  if 0 ≤ exponent then (numerator, denominator * Nat.pow 2 exponent.toNat)
  else (numerator * Nat.pow 2 (-exponent).toNat, denominator)

/-- The least exponent whose quotient by a power of two stays below the bound of mantissas. -/
def exponentOf (numerator denominator : Nat) : Int :=
  -- The two logarithms give the exponent or one below it.
  let guess := max (-1074) ((Nat.log2 numerator : Int) - Nat.log2 denominator - 53)
  let (scaled, unit) := unscaled numerator denominator guess
  if scaled / unit < mantissaBound then guess else guess + 1

/-- The magnitude nearest to a fraction; none when the rounded fraction is too large. -/
def ofFraction? (numerator denominator : Nat) : Option Binary64 :=
  if numerator = 0 then some zero
  else
    let exponent := exponentOf numerator denominator
    let (scaled, unit) := unscaled numerator denominator exponent
    let rounded := roundHalfEven scaled unit
    -- Rounding up to the next power of two moves to the next exponent.
    let (mantissa, exponent) :=
      if rounded = mantissaBound then (leastMantissa, exponent + 1) else (rounded, exponent)
    if canonical : _ then some ⟨mantissa, exponent, canonical⟩ else none

/-- The magnitude nearest to a whole number. -/
def ofNat? (n : Nat) : Option Binary64 :=
  ofFraction? n 1

/-- The rounded product. -/
def mul? (x y : Binary64) : Option Binary64 :=
  ofFraction? (x.fraction.1 * y.fraction.1) (x.fraction.2 * y.fraction.2)

/-- The rounded quotient. -/
def div? (x y : Binary64) : Option Binary64 :=
  ofFraction? (x.fraction.1 * y.fraction.2) (x.fraction.2 * y.fraction.1)

/-- A magnitude times a power of ten, rounded once for each table entry that it takes.

Powers are rounded to a magnitude first and go up to `10 ^ 308`; a smaller factor is divided out in
steps. None when the result is too large. -/
def timesTenPower? (x : Binary64) (exponent : Int) : Option Binary64 :=
  if exponent.natAbs ≤ 308 then do
    let power ← ofNat? (Nat.pow 10 exponent.natAbs)
    if 0 ≤ exponent then x.mul? power else x.div? power
  else if x.mantissa = 0 then some x
  else if 0 ≤ exponent then none
  else do
    let step ← ofNat? (Nat.pow 10 308)
    timesTenPower? (← x.div? step) (exponent + 308)
termination_by exponent.natAbs
decreasing_by omega

end Binary64

end RecordClass
