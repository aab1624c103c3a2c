import Attest.Number.Floating

/-!
# Rounding to a floating-point number

A quotient is rounded to the nearest number of a format, a tie to the one with an even last place,
and what lies half a place beyond the largest number becomes infinity. Everything is exact
arithmetic on natural numbers.
-/

namespace Attest.Number

/-- The natural number nearest to a quotient, the even one of two. -/
def nearestEven (numerator denominator : Nat) : Nat :=
  let whole := numerator / denominator
  let rest := numerator % denominator
  if 2 * rest < denominator then whole
  else if denominator < 2 * rest then whole + 1
  else whole + whole % 2

/-- The binary exponent of the last place of the number nearest to a quotient. -/
def lastPlace (format : FloatFormat) (numerator denominator : Nat) : Int :=
  let guess := (numerator.log2 : Int) - denominator.log2 - format.fractionBits - 1
  let scaledBelow :=
    numerator * Nat.pow 2 (-guess).toNat <
      denominator * Nat.pow 2 guess.toNat * Nat.pow 2 (format.fractionBits + 1)
  max (if scaledBelow then guess else guess + 1) format.leastExponent

/-- The magnitude nearest to a quotient. -/
def roundRatio (format : FloatFormat) (numerator denominator : Nat) : Nat :=
  let place := lastPlace format numerator denominator
  let significand :=
    nearestEven (numerator * Nat.pow 2 (-place).toNat) (denominator * Nat.pow 2 place.toNat)
  if numerator = 0 then 0
  else min format.infinity
    ((place - format.leastExponent).toNat * Nat.pow 2 format.fractionBits + significand)

namespace Floating

variable {format : FloatFormat}

/-- The number nearest to an integer. -/
def ofInt (format : FloatFormat) (n : Int) : Floating format :=
  ⟨n < 0, roundRatio format n.natAbs 1⟩

/-- The number of another format nearest to a finite number. -/
def rounded (target : FloatFormat) (x : Floating format) : Floating target :=
  let (numerator, denominator) := ratio format x.magnitude
  ⟨x.negative, roundRatio target numerator denominator⟩

/-- The magnitude of a product of finite magnitudes. -/
def multiply (format : FloatFormat) (x y : Nat) : Nat :=
  let (a, b) := ratio format x
  let (c, d) := ratio format y
  roundRatio format (a * c) (b * d)

/-- The magnitude of a quotient of finite magnitudes. -/
def divide (format : FloatFormat) (x y : Nat) : Nat :=
  let (a, b) := ratio format x
  let (c, d) := ratio format y
  roundRatio format (a * d) (b * c)

end Floating

end Attest.Number
