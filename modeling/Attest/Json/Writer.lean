import Attest.Json.Document
import Attest.Number.Notation

/-!
# Writing JSON

The compact text of a document: no blanks, fields in the order they have. In texts the quote, the
backslash and the control characters are escaped, five of them by a letter; all else stands for
itself.
-/

namespace Attest.Json

/-- A digit of a four-digit escape. -/
def hexDigit (n : Nat) : Char :=
  if n < 10 then Char.ofNat ('0'.toNat + n) else Char.ofNat ('a'.toNat + (n - 10))

/-- A character as written inside a text. -/
def escape (c : Char) : List Char :=
  if c = '"' ∨ c = '\\' then ['\\', c]
  else if c = '\x08' then ['\\', 'b']
  else if c = '\t' then ['\\', 't']
  else if c = '\n' then ['\\', 'n']
  else if c = '\x0c' then ['\\', 'f']
  else if c = '\r' then ['\\', 'r']
  else if c.toNat < 0x20 then
    ['\\', 'u', '0', '0', hexDigit (c.toNat / 16), hexDigit (c.toNat % 16)]
  else [c]

def writeText (s : String) : List Char :=
  '"' :: (s.toList.flatMap escape ++ ['"'])

/-- The text of a number. -/
def Number.chars : Json.Number → List Char
  | .integer n => Attest.Number.integerChars n
  | .real x _ => Attest.Number.FloatStyle.document.chars x

mutual

/-- The text of a document. -/
def write : Json → List Char
  | null => ['n', 'u', 'l', 'l']
  | bool true => ['t', 'r', 'u', 'e']
  | bool false => ['f', 'a', 'l', 's', 'e']
  | number n => n.chars
  | string s => writeText s
  | array [] => ['[', ']']
  | array (item :: items) => '[' :: (write item ++ writeItems items)
  | object [] => ['{', '}']
  | object ((key, value) :: fields) =>
    '{' :: (writeText key ++ ':' :: (write value ++ writeFields fields))

/-- The text of the items after the first, with the closing bracket. -/
def writeItems : List Json → List Char
  | [] => [']']
  | item :: items => ',' :: (write item ++ writeItems items)

/-- The text of the fields after the first, with the closing brace. -/
def writeFields : List (String × Json) → List Char
  | [] => ['}']
  | (key, value) :: fields => ',' :: (writeText key ++ ':' :: (write value ++ writeFields fields))

end

/-- The text of a document. -/
def toText (document : Json) : String :=
  .ofList (write document)

end Attest.Json
