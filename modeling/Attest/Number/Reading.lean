import Attest.Number.Rounding
import Attest.Number.Shortest

/-!
# Reading numbers

Integers in any base up to sixteen, decimals with an optional fraction and power of ten, and the
floating-point numbers they round to.
-/

namespace Attest.Number

/-- The value of a digit below ten. -/
def digitValue? (c : Char) : Option Nat :=
  if '0' ≤ c ∧ c ≤ '9' then some (c.toNat - '0'.toNat) else none

/-- The value of a digit below thirty-six. -/
def baseDigitValue? (c : Char) : Option Nat :=
  if '0' ≤ c ∧ c ≤ '9' then some (c.toNat - '0'.toNat)
  else if 'a' ≤ c ∧ c ≤ 'z' then some (c.toNat - 'a'.toNat + 10)
  else if 'A' ≤ c ∧ c ≤ 'Z' then some (c.toNat - 'A'.toNat + 10)
  else none

/-- Extends a number by the digits of a numeral, and refuses anything else. -/
def readDigits? (base : Nat) : List Char → Nat → Option Nat
  | [], value => some value
  | c :: cs, value =>
    match baseDigitValue? c with
    | some digit => if digit < base then readDigits? base cs (value * base + digit) else none
    | none => none

/-- The number of a numeral with at least one digit. -/
def readNatural? (base : Nat) (numeral : List Char) : Option Nat :=
  if numeral.isEmpty then none else readDigits? base numeral 0

/-- The integer of a numeral with an optional minus sign. -/
def readInteger? : List Char → Option Int
  | '-' :: numeral => (readNatural? 10 numeral).map fun n => -(n : Int)
  | numeral => (readNatural? 10 numeral).map Int.ofNat

/-- The integer of a numeral with an optional sign. -/
def readSigned? : List Char → Option Int
  | '+' :: numeral => (readNatural? 10 numeral).map Int.ofNat
  | numeral => readInteger? numeral

def isDigit (c : Char) : Bool :=
  (digitValue? c).isSome

/-- A decimal without sign: digits, an optional fraction, an optional power of ten. -/
def readDecimal? (text : List Char) : Option Decimal :=
  let whole := text.takeWhile isDigit
  let afterWhole := text.dropWhile isDigit
  let (fraction, afterFraction) := match afterWhole with
    | '.' :: rest => (rest.takeWhile isDigit, rest.dropWhile isDigit)
    | _ => ([], afterWhole)
  let power? := match afterFraction with
    | [] => some 0
    | mark :: rest => if mark = 'e' ∨ mark = 'E' then readSigned? rest else none
  match readNatural? 10 (whole ++ fraction), power? with
  | some digits, some power => some ⟨digits, power - fraction.length⟩
  | _, _ => none

/-- The magnitude nearest to a decimal. No format of up to 64 bits reaches beyond 10^400 or has a
number other than zero below 10^-400. -/
def Decimal.round (format : FloatFormat) (decimal : Decimal) : Nat :=
  if decimal.digits = 0 ∨ decimal.exponent + (Nat.toDigits 10 decimal.digits).length < -400 then 0
  else if 400 < decimal.exponent then format.infinity
  else roundRatio format (decimal.digits * Nat.pow 10 decimal.exponent.toNat)
    (Nat.pow 10 (-decimal.exponent).toNat)

/-- A floating-point number from its decimal, its name, or its encoding in hexadecimal. -/
def Floating.read? (format : FloatFormat) (text : List Char) : Option (Floating format) :=
  match text with
  | ['N', 'a', 'N'] => some ⟨false, format.quiet⟩
  | ['i', 'n', 'f'] => some ⟨false, format.infinity⟩
  | ['-', 'i', 'n', 'f'] => some ⟨true, format.infinity⟩
  | '0' :: 'x' :: digits => (readNatural? 16 digits).map (Floating.ofBits format)
  | '-' :: rest => (readDecimal? rest).map fun decimal => ⟨true, decimal.round format⟩
  | _ => (readDecimal? text).map fun decimal => ⟨false, decimal.round format⟩

end Attest.Number
