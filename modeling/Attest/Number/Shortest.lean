import Attest.Number.Floating

/-!
# Shortest decimals

The decimal written for a finite number is one with the fewest digits that still rounds to the
number, and among those the nearest; of two that are equally near, a rule of the writer chooses. The
numbers that round to a given one form an interval, which contains its ends exactly when the last
place is even. With one digit more at a time the two neighbours of the number on the decimal grid
are tried, until one lies in the interval.
-/

namespace Attest.Number

/-- A decimal: digits, read as one number, times a power of ten. -/
structure Decimal where
  digits : Nat
  exponent : Int
deriving DecidableEq, Repr

/-- Which of two equally near decimals is written. -/
inductive TieRule where
  | up
  | even
deriving DecidableEq, Repr

namespace Decimal

/-- Moves trailing zeros of the digits into the exponent. -/
def strip (digits : Nat) (exponent : Int) : Nat → Decimal
  | 0 => ⟨digits, exponent⟩
  | fuel + 1 =>
    if digits % 10 = 0 ∧ digits ≠ 0 then strip (digits / 10) (exponent + 1) fuel
    else ⟨digits, exponent⟩

/-- The number of digits in front of the point, at most zero for a number below one. -/
def pointPlace (numerator denominator : Nat) : Int :=
  if denominator ≤ numerator then (Nat.toDigits 10 (numerator / denominator)).length
  else
    let zeros := (Nat.toDigits 10 (denominator / numerator)).length
    if denominator ≤ numerator * Nat.pow 10 (zeros - 1) then 2 - zeros else 1 - zeros

end Decimal

/-- The numbers that round to a magnitude, between quotients with a common denominator. -/
structure RoundingInterval where
  low : Nat
  value : Nat
  high : Nat
  denominator : Nat
  closed : Bool

namespace RoundingInterval

/-- The interval of a finite magnitude other than zero. -/
def ofMagnitude (format : FloatFormat) (magnitude : Nat) : RoundingInterval :=
  let (significand, exponent) := Floating.parts format magnitude
  let scale := Nat.pow 2 (exponent - 2).toNat
  let belowGap :=
    if significand = Nat.pow 2 format.fractionBits ∧ format.leastExponent < exponent then 1 else 2
  { low := (4 * significand - belowGap) * scale
    value := 4 * significand * scale
    high := (4 * significand + 2) * scale
    denominator := Nat.pow 2 (2 - exponent).toNat
    closed := significand % 2 == 0 }

/-- Whether a multiple of a power of ten lies in the interval. -/
def contains (interval : RoundingInterval) (digits : Nat) (exponent : Int) : Bool :=
  let point := digits * Nat.pow 10 exponent.toNat * interval.denominator
  let scale := Nat.pow 10 (-exponent).toNat
  if interval.closed then interval.low * scale ≤ point && point ≤ interval.high * scale
  else interval.low * scale < point && point < interval.high * scale

/-- A neighbour of the value on the grid of multiples of a power of ten, if one is in the
interval. -/
def gridPoint? (interval : RoundingInterval) (tie : TieRule) (exponent : Int) : Option Nat :=
  let numerator := interval.value * Nat.pow 10 (-exponent).toNat
  let denominator := interval.denominator * Nat.pow 10 exponent.toNat
  let below := numerator / denominator
  let rest := numerator % denominator
  let lower := interval.contains below exponent && below != 0
  let upper := interval.contains (below + 1) exponent
  if lower && upper then
    if 2 * rest < denominator then some below
    else if 2 * rest = denominator ∧ tie = .even then some (below + below % 2)
    else some (below + 1)
  else if lower then some below
  else if upper then some (below + 1)
  else none

/-- Tries grids with more and more digits. -/
def search (interval : RoundingInterval) (tie : TieRule) (point : Int) (count : Nat) :
    Nat → Decimal
  | 0 => ⟨0, 0⟩
  | fuel + 1 =>
    match interval.gridPoint? tie (point - count) with
    | some digits => .strip digits (point - count) (count + 1)
    | none => search interval tie point (count + 1) fuel

end RoundingInterval

/-- The shortest decimal of a finite magnitude other than zero. No format of up to 64 bits needs
more than 17 digits. -/
def shortest (tie : TieRule) (format : FloatFormat) (magnitude : Nat) : Decimal :=
  let interval := RoundingInterval.ofMagnitude format magnitude
  interval.search tie (Decimal.pointPlace interval.value interval.denominator) 1 17

end Attest.Number
