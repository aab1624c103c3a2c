import Attest.Json.Document
import Attest.Number.Reading
import Attest.Unicode.RangeTable

/-!
# Reading JSON

A text is read by descent into the document; every step takes at least one character, so the length
of the text bounds the work. Integers that fit 64 bits, with or without sign, are integers; every
other number becomes a floating-point number, scaled from its leading digits by a power of ten with
one rounding for each step.
-/

namespace Attest.Json

def isBlank (c : Char) : Bool :=
  c == ' ' || c == '\t' || c == '\n' || c == '\r'

def skipBlanks (text : List Char) : List Char :=
  text.dropWhile isBlank

/-! ### Texts -/

/-- The number of a four-digit escape. -/
def readUnit? : List Char → Option (Nat × List Char)
  | a :: b :: c :: d :: rest =>
    if [a, b, c, d].all fun digit => (Unicode.hexDigitValue? digit).isSome then
      some (Unicode.hexValue [a, b, c, d], rest)
    else none
  | _ => none

/-- The character that an escape names, after its backslash. Two escapes make one character when
they are the halves of a surrogate pair, and a lone half is refused. -/
def readEscape? : List Char → Option (Char × List Char)
  | '"' :: rest => some ('"', rest)
  | '\\' :: rest => some ('\\', rest)
  | '/' :: rest => some ('/', rest)
  | 'b' :: rest => some ('\x08', rest)
  | 'f' :: rest => some ('\x0c', rest)
  | 'n' :: rest => some ('\n', rest)
  | 'r' :: rest => some ('\r', rest)
  | 't' :: rest => some ('\t', rest)
  | 'u' :: digits =>
    match readUnit? digits with
    | some (unit, rest) =>
      if unit < 0xd800 ∨ 0xdfff < unit then some (Char.ofNat unit, rest)
      else if unit < 0xdc00 then
        match rest with
        | '\\' :: 'u' :: more =>
          match readUnit? more with
          | some (low, rest) =>
            if 0xdc00 ≤ low ∧ low ≤ 0xdfff then
              some (Char.ofNat (0x10000 + (unit - 0xd800) * 0x400 + (low - 0xdc00)), rest)
            else none
          | none => none
        | _ => none
      else none
    | none => none
  | _ => none

/-- The rest of a text after its opening quote, and what follows it. -/
def readText? (fuel : Nat) (text : List Char) (done : List Char) :
    Option (List Char × List Char) :=
  match fuel, text with
  | 0, _ => none
  | _ + 1, [] => none
  | _ + 1, '"' :: rest => some (done.reverse, rest)
  | fuel + 1, '\\' :: rest =>
    match readEscape? rest with
    | some (c, rest) => readText? fuel rest (c :: done)
    | none => none
  | fuel + 1, c :: rest =>
    if c.toNat < 0x20 then none else readText? fuel rest (c :: done)

/-! ### Numbers -/

/-- The largest integer of 64 bits without sign. -/
def largestUnsigned : Nat := 18446744073709551615

/-- The greatest magnitude of a negative integer of 64 bits. -/
def greatestNegated : Nat := 9223372036854775808

/-- The magnitude of a decimal whose digits fit 64 bits: the digits are rounded first, and scaled by
a power of ten with a second rounding. -/
def scaleDigits (digits : Nat) (exponent : Int) : Nat :=
  let format := Attest.Number.FloatFormat.double
  let start := Attest.Number.roundRatio format digits 1
  let power (n : Nat) := Attest.Number.roundRatio format (Nat.pow 10 n) 1
  if digits = 0 then 0
  else if 308 < exponent then format.infinity
  else if 0 ≤ exponent then Attest.Number.Floating.multiply format start (power exponent.toNat)
  else if -308 ≤ exponent then Attest.Number.Floating.divide format start (power (-exponent).toNat)
  else if -616 ≤ exponent then
    Attest.Number.Floating.divide format
      (Attest.Number.Floating.divide format start (power 308)) (power (-exponent - 308).toNat)
  else 0

/-- Takes digits into a number while it fits 64 bits; the number of digits taken comes with it. -/
def takeDigits : List Char → Nat → Nat → Nat × Nat
  | [], value, count => (value, count)
  | c :: cs, value, count =>
    let next := value * 10 + (Attest.Number.digitValue? c).getD 0
    if largestUnsigned < next then (value, count) else takeDigits cs next (count + 1)

/-- The number with the given sign, whole digits, fraction digits and power of ten. -/
def numberOfParts? (negative : Bool) (whole : List Char) (fraction? : Option (List Char))
    (power? : Option Int) : Option Json.Number :=
  let (value, taken) := takeDigits whole 0 0
  let isInteger := fraction?.isNone && power?.isNone && taken == whole.length
  if isInteger && !negative then some (.integer value)
  else if isInteger && 0 < value && value ≤ greatestNegated then
    some (.integer (-(value : Int)))
  else
    let (digits, fractionTaken) := takeDigits (fraction?.getD []) value 0
    let exponent := power?.getD 0 + (whole.length - taken : Nat) - fractionTaken
    let x : Attest.Number.Floating .double := ⟨negative, scaleDigits digits exponent⟩
    if h : x.magnitude < Attest.Number.FloatFormat.double.infinity then some (.real x h) else none

/-- A number at the head of a text. -/
def readNumber? (text : List Char) : Option (Json.Number × List Char) :=
  let (negative, unsigned) := match text with
    | '-' :: rest => (true, rest)
    | _ => (false, text)
  let whole := unsigned.takeWhile Attest.Number.isDigit
  let afterWhole := unsigned.dropWhile Attest.Number.isDigit
  let (fraction?, afterFraction) := match afterWhole with
    | '.' :: rest =>
      (some (rest.takeWhile Attest.Number.isDigit), rest.dropWhile Attest.Number.isDigit)
    | _ => (none, afterWhole)
  let (power?, rest) := match afterFraction with
    | mark :: rest =>
      if mark = 'e' ∨ mark = 'E' then
        let (sign, digits) := match rest with
          | '+' :: digits => ((1 : Int), digits)
          | '-' :: digits => (-1, digits)
          | _ => (1, rest)
        (some ((Attest.Number.readNatural? 10 (digits.takeWhile Attest.Number.isDigit)).map
          fun n => sign * (n : Int)), digits.dropWhile Attest.Number.isDigit)
      else (none, afterFraction)
    | [] => (none, [])
  let leadingZero := match whole with
    | '0' :: _ :: _ => true
    | _ => false
  if whole.isEmpty || leadingZero || fraction? == some [] then none
  else match power? with
    | some none => none
    | some (some power) =>
      (numberOfParts? negative whole fraction? (some power)).map fun n => (n, rest)
    | none => (numberOfParts? negative whole fraction? none).map fun n => (n, rest)

/-! ### Documents -/

mutual

/-- A document at the head of a text. -/
def readValue? (fuel : Nat) (text : List Char) : Option (Json × List Char) :=
  match fuel, skipBlanks text with
  | 0, _ => none
  | _ + 1, 'n' :: 'u' :: 'l' :: 'l' :: rest => some (null, rest)
  | _ + 1, 't' :: 'r' :: 'u' :: 'e' :: rest => some (bool true, rest)
  | _ + 1, 'f' :: 'a' :: 'l' :: 's' :: 'e' :: rest => some (bool false, rest)
  | fuel + 1, '"' :: rest =>
    (readText? (fuel + 1) rest []).map fun (chars, rest) => (string (.ofList chars), rest)
  | fuel + 1, '[' :: rest =>
    match skipBlanks rest with
    | ']' :: rest => some (array [], rest)
    | _ => (readItems? fuel rest []).map fun (items, rest) => (array items, rest)
  | fuel + 1, '{' :: rest =>
    match skipBlanks rest with
    | '}' :: rest => some (object [], rest)
    | _ => (readFields? fuel rest []).map fun (fields, rest) => (object fields, rest)
  | _ + 1, rest => (readNumber? rest).map fun (n, rest) => (number n, rest)

/-- The items of a list up to its closing bracket. -/
def readItems? (fuel : Nat) (text : List Char) (done : List Json) :
    Option (List Json × List Char) :=
  match fuel with
  | 0 => none
  | fuel + 1 =>
    match readValue? fuel text with
    | some (item, rest) =>
      match skipBlanks rest with
      | ',' :: rest => readItems? fuel rest (item :: done)
      | ']' :: rest => some ((item :: done).reverse, rest)
      | _ => none
    | none => none

/-- The fields of an object up to its closing brace. -/
def readFields? (fuel : Nat) (text : List Char) (done : List (String × Json)) :
    Option (List (String × Json) × List Char) :=
  match fuel with
  | 0 => none
  | fuel + 1 =>
    match skipBlanks text with
    | '"' :: rest =>
      match readText? (fuel + 1) rest [] with
      | some (key, rest) =>
        match skipBlanks rest with
        | ':' :: rest =>
          match readValue? fuel rest with
          | some (value, rest) =>
            match skipBlanks rest with
            | ',' :: rest => readFields? fuel rest ((.ofList key, value) :: done)
            | '}' :: rest => some (((.ofList key, value) :: done).reverse, rest)
            | _ => none
          | none => none
        | _ => none
      | none => none
    | _ => none

end

/-- Reads a text that holds one document, fields as written. -/
def read? (text : String) : Option Json :=
  match readValue? (2 * text.length + 2) text.toList with
  | some (document, rest) => if (skipBlanks rest).isEmpty then some document else none
  | none => none

/-- Reads a text that holds one document, in normal form. -/
def ofText? (text : String) : Option Json :=
  (read? text).map normal

end Attest.Json
