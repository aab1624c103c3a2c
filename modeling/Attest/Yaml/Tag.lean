import Attest.Number.Reading
import Attest.Unicode.RangeTable
import Attest.Yaml.Cursor

/-!
# Tags, anchors and directives

A tag names the type of a node by an address, in full or as a handle with a suffix. Directives give
the version of the language and the addresses that handles stand for. Octets of an address may be
written as escapes; they have to form the sequences of UTF-8, and what follows an octet of zero is
dropped.
-/

namespace Attest.Yaml

/-- Whether a character may stand in a name. -/
def isNameChar (c : Char) : Bool :=
  c.isAlphanum || c == '_' || c == '-'

/-- Whether a character may stand in an address. Separators of flow collections may only where the
address has an end of its own. -/
def isAddressChar (isDelimited : Bool) (c : Char) : Bool :=
  isNameChar c || ";/?:@&=+$.!~*'()".toList.contains c || (isDelimited && ",[]".toList.contains c)

/-- The number of octets that follow the first octet of a sequence. -/
def continuations? (octet : Nat) : Option Nat :=
  if octet < 0x80 then some 0
  else if octet < 0xc0 then none
  else if octet < 0xe0 then some 1
  else if octet < 0xf0 then some 2
  else if octet < 0xf8 then some 3
  else none

/-- Reads an address, of which some octets of a sequence are still to come, and gives the number of
its characters. -/
def readAddress? (isDelimited : Bool) : Nat → List Char → Option (List Char × Nat)
  | pending, '%' :: a :: b :: rest => do
    let high ← Unicode.hexDigitValue? a
    let low ← Unicode.hexDigitValue? b
    let octet := 16 * high + low
    let left ←
      if pending = 0 then continuations? octet
      else if 0x80 ≤ octet ∧ octet < 0xc0 then some (pending - 1)
      else none
    let (text, length) ← readAddress? isDelimited left rest
    return (.ofNat octet :: text, length + 3)
  | _, '%' :: _ => none
  | _ + 1, _ => none
  | 0, [] => some ([], 0)
  | 0, c :: rest =>
    if isAddressChar isDelimited c then
      (readAddress? isDelimited 0 rest).map fun (text, length) => (c :: text, length + 1)
    else some ([], 0)

/-- An address and the place behind it. Only where something stands before it may it be empty. -/
def address? (isDelimited mayBeEmpty : Bool) (cursor : Cursor) : Option (List Char × Cursor) := do
  let (text, length) ← readAddress? isDelimited 0 cursor.rest
  if length = 0 ∧ !mayBeEmpty then none
  else some (text.takeWhile (· != '\x00'), cursor.skip length)

/-- A tag as it is written: a handle, empty for an address in full, and a suffix. -/
structure WrittenTag where
  handle : List Char
  suffix : List Char
deriving DecidableEq, Repr

/-- The exclamation mark with the name behind it and a further mark, as far as they are there. -/
def readHandle (s : List Char) : List Char :=
  let name := (s.drop 1).takeWhile isNameChar
  let mark := ((s.drop (1 + name.length)).take 1).filter (· == '!')
  s.take 1 ++ name ++ mark

/-- Whether a handle is complete and not a single mark. -/
def isFullHandle (handle : List Char) : Bool :=
  1 < handle.length && handle.getLast? == some '!'

/-- Reads a tag in angle brackets or with a handle. What only looks like the name of a handle
belongs to the suffix, and a single mark stands for itself. -/
def readTag? (cursor : Cursor) : Option (WrittenTag × Cursor) :=
  if cursor.rest.take 2 = ['!', '<'] then do
    let (suffix, last) ← address? true false (cursor.skip 2)
    if last.rest.head? = some '>' then some (⟨[], suffix⟩, last.skip 1) else none
  else do
    let handle := readHandle cursor.rest
    let after := cursor.skip handle.length
    if isFullHandle handle then
      let (suffix, last) ← address? false false after
      some (⟨handle, suffix⟩, last)
    else
      let (text, last) ← address? false true after
      let suffix := handle.drop 1 ++ text
      if suffix.isEmpty then some (⟨[], ['!']⟩, last) else some (⟨['!'], suffix⟩, last)

/-- Reads a tag and checks that it ends where a word ends, or before a comma in a flow collection.
-/
def tag? (inFlow : Bool) (cursor : Cursor) : Option (WrittenTag × Cursor) := do
  let (tag, last) ← readTag? cursor
  if endsWord last.rest || (inFlow && last.rest.head? == some ',') then some (tag, last) else none

/-- The indicators that may follow the name of an anchor at once. -/
def anchorStops : List Char := ['?', ':', ',', ']', '}', '%', '@', '`']

/-- Reads the name of an anchor from behind its indicator. -/
def anchorName? (cursor : Cursor) : Option (List Char × Cursor) :=
  let name := cursor.rest.takeWhile isNameChar
  let last := cursor.skip name.length
  if name.isEmpty then none
  else if endsWord last.rest || last.rest.head?.any anchorStops.contains then
    some (name, last)
  else none

/-- A directive. -/
inductive Directive where
  | version (major minor : Nat)
  | handle (handle address : List Char)
deriving DecidableEq, Repr

/-- Reads a number of at most nine digits. -/
def versionNumber? (cursor : Cursor) : Option (Nat × Cursor) :=
  let digits := cursor.rest.takeWhile Char.isDigit
  if digits.isEmpty ∨ 9 < digits.length then none
  else (Number.readNatural? 10 digits).map fun n => (n, cursor.skip digits.length)

/-- Reads a version of two numbers. -/
def versionDirective? (cursor : Cursor) : Option (Directive × Cursor) := do
  let (major, afterMajor) ← versionNumber? (cursor.skipWhile isBlank)
  if afterMajor.rest.head? = some '.' then
    let (minor, last) ← versionNumber? (afterMajor.skip 1)
    return (.version major minor, last)
  else none

/-- Reads a handle and the address that it stands for. -/
def handleDirective? (cursor : Cursor) : Option (Directive × Cursor) := do
  let start := cursor.skipWhile isBlank
  let handle := readHandle start.rest
  let afterHandle := start.skip handle.length
  if handle.head? = some '!' ∧ (handle.length = 1 ∨ isFullHandle handle) ∧
      afterHandle.rest.head?.any isBlank then
    let (address, last) ← address? true false (afterHandle.skipWhile isBlank)
    if endsWord last.rest then some (.handle handle address, last) else none
  else none

/-- Reads a directive from behind its indicator, with the end of its line. -/
def directive? (cursor : Cursor) : Option (Directive × Cursor) := do
  let name := cursor.rest.takeWhile isNameChar
  let afterName := cursor.skip name.length
  if !endsWord afterName.rest then none
  else
    let (directive, last) ←
      if name = "YAML".toList then versionDirective? afterName
      else if name = "TAG".toList then handleDirective? afterName
      else none
    let next ← last.endLine?
    return (directive, next)

end Attest.Yaml
