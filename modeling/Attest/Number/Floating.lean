/-!
# Binary floating-point numbers

A number is a sign and a magnitude, the exponent and fraction fields read as one number. Magnitudes
are ordered as the numbers they stand for, infinity included; a larger magnitude than infinity's is
not a number. Comparison and equality are those of the numbers, identity is that of the fields.
-/

namespace Attest.Number

/-- The widths of the exponent and fraction fields. -/
structure FloatFormat where
  exponentBits : Nat
  fractionBits : Nat
deriving DecidableEq, Repr

namespace FloatFormat

def single : FloatFormat := ⟨8, 23⟩

def double : FloatFormat := ⟨11, 52⟩

/-- The magnitude of infinity: all exponent bits set, no fraction. -/
def infinity (format : FloatFormat) : Nat :=
  (Nat.pow 2 format.exponentBits - 1) * Nat.pow 2 format.fractionBits

/-- The magnitude of the quiet number-less value. -/
def quiet (format : FloatFormat) : Nat :=
  format.infinity + Nat.pow 2 (format.fractionBits - 1)

/-- The binary exponent of the last place of the smallest numbers. -/
def leastExponent (format : FloatFormat) : Int :=
  2 - (Nat.pow 2 (format.exponentBits - 1) : Nat) - format.fractionBits

end FloatFormat

/-- A sign and a magnitude in a given format. -/
structure Floating (format : FloatFormat) where
  negative : Bool
  magnitude : Nat
deriving DecidableEq, Repr

namespace Floating

variable {format : FloatFormat}

def isNaN (x : Floating format) : Bool :=
  format.infinity < x.magnitude

def isInfinite (x : Floating format) : Bool :=
  x.magnitude == format.infinity

def isZero (x : Floating format) : Bool :=
  x.magnitude == 0

/-- The place of a number in the order of all numbers; the two zeros share one. -/
def place (x : Floating format) : Int :=
  if x.negative then -(x.magnitude : Int) else x.magnitude

/-- Equality as numbers: nothing equals a value that is not a number. -/
def equal (x y : Floating format) : Bool :=
  !x.isNaN && !y.isNaN && x.place == y.place

/-- The order of two numbers, absent when either is not a number. -/
def compare? (x y : Floating format) : Option Ordering :=
  if x.isNaN || y.isNaN then none else some (compare x.place y.place)

/-- Reads the sign bit and the rest from an encoding. -/
def ofBits (format : FloatFormat) (bits : Nat) : Floating format :=
  let weight := Nat.pow 2 (format.exponentBits + format.fractionBits)
  ⟨bits / weight % 2 == 1, bits % weight⟩

/-- The significand and binary exponent of a finite magnitude. -/
def parts (format : FloatFormat) (magnitude : Nat) : Nat × Int :=
  let exponent := magnitude / Nat.pow 2 format.fractionBits
  let fraction := magnitude % Nat.pow 2 format.fractionBits
  if exponent = 0 then (fraction, format.leastExponent)
  else (Nat.pow 2 format.fractionBits + fraction, format.leastExponent + exponent - 1)

/-- A finite magnitude as a quotient. -/
def ratio (format : FloatFormat) (magnitude : Nat) : Nat × Nat :=
  let (significand, exponent) := parts format magnitude
  (significand * Nat.pow 2 exponent.toNat, Nat.pow 2 (-exponent).toNat)

end Floating

end Attest.Number
