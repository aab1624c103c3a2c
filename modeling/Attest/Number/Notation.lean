import Attest.Number.Shortest

/-!
# Written floating-point numbers

A finite number is written with its shortest decimal: with a point, and at least one digit after it,
while its magnitude is moderate, and otherwise as one digit, the rest after a point if there are
more, and a power of ten.
-/

namespace Attest.Number

/-- The decisions of a way to write floating-point numbers. -/
structure FloatStyle where
  /-- The smallest power of ten of the first digit that is written with a point alone. -/
  leastPositional : Int
  /-- The greatest power of ten of the first digit that is written with a point alone. -/
  greatestPositional : Int
  /-- Whether a positive power of ten is signed. -/
  signedPower : Bool
  /-- Which of two equally near shortest decimals is taken. -/
  tie : TieRule

/-- How values show floating-point numbers: with a power of ten from 10^16 on and below 10^-4. -/
def FloatStyle.plain : FloatStyle := ⟨-4, 15, false, .up⟩

/-- How documents write floating-point numbers: with a power of ten from 10^16 on and below
10^-5. -/
def FloatStyle.document : FloatStyle := ⟨-5, 15, true, .even⟩

/-- An integer in decimal. -/
def integerChars (n : Int) : List Char :=
  if n < 0 then '-' :: Nat.toDigits 10 n.natAbs else Nat.toDigits 10 n.natAbs

namespace FloatStyle

/-- A decimal written with a point. -/
def positional (decimal : Decimal) : List Char :=
  let digits := Nat.toDigits 10 decimal.digits
  if 0 ≤ decimal.exponent then digits ++ List.replicate decimal.exponent.toNat '0' ++ ['.', '0']
  else
    let places := (-decimal.exponent).toNat
    if places < digits.length then
      digits.take (digits.length - places) ++ '.' :: digits.drop (digits.length - places)
    else '0' :: '.' :: (List.replicate (places - digits.length) '0' ++ digits)

/-- A decimal written with the given power of ten for its first digit. -/
def scientific (style : FloatStyle) (digits : List Char) (power : Int) : List Char :=
  let mantissa := match digits with
    | first :: second :: rest => first :: '.' :: second :: rest
    | _ => digits
  let sign := if style.signedPower && 0 ≤ power then ['+'] else []
  mantissa ++ 'e' :: sign ++ integerChars power

/-- A finite magnitude. -/
def magnitudeChars (style : FloatStyle) (format : FloatFormat) (magnitude : Nat) : List Char :=
  if magnitude = 0 then ['0', '.', '0']
  else
    let decimal := shortest style.tie format magnitude
    let digits := Nat.toDigits 10 decimal.digits
    let power := decimal.exponent + digits.length - 1
    if style.leastPositional ≤ power ∧ power ≤ style.greatestPositional then positional decimal
    else style.scientific digits power

/-- A floating-point number. -/
def chars (style : FloatStyle) {format : FloatFormat} (x : Floating format) : List Char :=
  if x.isNaN then ['N', 'a', 'N']
  else
    let sign := if x.negative then ['-'] else []
    sign ++ (if x.isInfinite then ['i', 'n', 'f'] else style.magnitudeChars format x.magnitude)

end FloatStyle

end Attest.Number
