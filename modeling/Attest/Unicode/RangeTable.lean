/-!
# Tables of code points

A set of code points is kept as ascending ranges and read from text such as `41-5a 61 100-12e/2`:
hexadecimal bounds, with a stride where only every second code point belongs to the range. A lookup
halves the table until one range is left, so membership costs a few comparisons.
-/

namespace Attest.Unicode

/-- Code points from `first` to `last`, each `stride` above the one before. -/
structure CodeRange where
  first : Nat
  last : Nat
  stride : Nat
deriving DecidableEq, Repr, Inhabited

namespace CodeRange

def contains (range : CodeRange) (code : Nat) : Bool :=
  range.first ≤ code && code ≤ range.last && (code - range.first) % range.stride == 0

/-- The number of code points in a range. -/
def size (range : CodeRange) : Nat :=
  (range.last - range.first) / range.stride + 1

end CodeRange

/-- The value of a hexadecimal digit. -/
def hexDigitValue? (c : Char) : Option Nat :=
  if '0' ≤ c ∧ c ≤ '9' then some (c.toNat - '0'.toNat)
  else if 'a' ≤ c ∧ c ≤ 'f' then some (c.toNat - 'a'.toNat + 10)
  else if 'A' ≤ c ∧ c ≤ 'F' then some (c.toNat - 'A'.toNat + 10)
  else none

/-- The value of a hexadecimal numeral; other characters are passed over. -/
def hexValue (digits : List Char) : Nat :=
  digits.foldl (fun value c => match hexDigitValue? c with
    | some digit => value * 16 + digit
    | none => value) 0

/-- Reads one range, `41`, `41-5a` or `100-12e/2`. -/
def CodeRange.ofText (text : List Char) : CodeRange :=
  match text.splitOn '/' with
  | bounds :: strides =>
    let stride := match strides with
      | digits :: _ => hexValue digits
      | [] => 1
    match bounds.splitOn '-' with
    | [first, last] => ⟨hexValue first, hexValue last, stride⟩
    | _ => ⟨hexValue bounds, hexValue bounds, stride⟩
  | [] => ⟨0, 0, 1⟩

/-- Ascending ranges that do not overlap. -/
structure RangeTable where
  ranges : Array CodeRange

namespace RangeTable

def empty : RangeTable := ⟨#[]⟩

/-- Reads lines of ranges separated by single blanks. -/
def ofLines (lines : List String) : RangeTable :=
  ⟨(lines.flatMap fun line => (line.toList.splitOn ' ').map CodeRange.ofText).toArray⟩

/-- The number of ranges. -/
def size (table : RangeTable) : Nat :=
  table.ranges.size

/-- The last index from `low` below `high` whose range starts at or before the code point, when the
range at `low` does. -/
def locate (table : RangeTable) (code low high : Nat) : Nat :=
  if low + 1 < high then
    let middle := (low + high) / 2
    if table.ranges[middle]?.any (·.first ≤ code) then table.locate code middle high
    else table.locate code low middle
  else low
termination_by high - low

/-- Whether a code point belongs to the table. -/
def contains (table : RangeTable) (code : Nat) : Bool :=
  table.ranges[table.locate code 0 table.size]?.any (·.contains code)

end RangeTable

end Attest.Unicode
