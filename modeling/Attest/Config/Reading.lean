import Attest.Config
import Attest.Number.Reading
import Attest.Yaml.Node

/-!
# Reading configurations

A configuration is a YAML mapping with an entry for the width and perhaps one for the layout, each
of them once. Other entries are left alone. The width is a whole number that fits 64 bits, in
decimal or with a mark for another base; the layout is a truth value. Both are written plainly, or
as a literal block with the tag of their type.
-/

namespace Attest.Config

open Yaml (Scalar Node Document)

/-- The tag of whole numbers. -/
def integerTag : List Char := "tag:yaml.org,2002:int".toList

/-- The tag of truth values. -/
def truthTag : List Char := "tag:yaml.org,2002:bool".toList

/-- Whether a scalar may be read as what a tag stands for. -/
def isTyped (tag : List Char) (scalar : Scalar) : Bool :=
  scalar.style == .plain || (scalar.style == .literal && scalar.tag == some tag)

/-- The greatest number of 64 bits. -/
def greatestWidth : Nat := 18446744073709551615

/-- A number of at most 64 bits from digits in some base. -/
def readWord? (base : Nat) (digits : List Char) : Option Nat :=
  (Number.readNatural? base digits).filter (· ≤ greatestWidth)

/-- Whether digits are more than one and start with a zero. -/
def isPadded : List Char → Bool
  | '0' :: d :: digits => (d :: digits).all Char.isDigit
  | _ => false

/-- A number with an optional plus sign and an optional mark of its base. -/
def readWidth? (text : List Char) : Option Nat :=
  let unsigned := match text with
    | '+' :: rest => rest
    | rest => rest
  match unsigned with
  | '0' :: 'x' :: digits => readWord? 16 digits
  | '0' :: 'o' :: digits => readWord? 8 digits
  | '0' :: 'b' :: digits => readWord? 2 digits
  | digits => if isPadded digits then none else readWord? 10 digits

/-- A truth value in one of its three spellings. -/
def readTruth? (text : List Char) : Option Bool :=
  if ["true", "True", "TRUE"].contains (String.ofList text) then some true
  else if ["false", "False", "FALSE"].contains (String.ofList text) then some false
  else none

/-- What has been read of a configuration. -/
structure Draft where
  truncateAt : Option Nat
  pretty : Option Bool
deriving DecidableEq, Repr

namespace Draft

def empty : Draft := ⟨none, none⟩

/-- Takes an entry into account. -/
def addEntry? (document : Document) (draft : Draft) (entry : Node × Node) : Option Draft := do
  let key ← document.scalar? entry.1
  if key.text = "truncate_at".toList then
    if draft.truncateAt.isSome then none
    else
      let scalar ← document.scalar? entry.2
      if isTyped integerTag scalar then
        let width ← readWidth? scalar.text
        return { draft with truncateAt := some width }
      else none
  else if key.text = "pretty".toList then
    if draft.pretty.isSome then none
    else
      let scalar ← document.scalar? entry.2
      if isTyped truthTag scalar then
        let pretty ← readTruth? scalar.text
        return { draft with pretty := some pretty }
      else none
  else some draft

/-- The configuration of a draft with a width. Without a layout it is compact. -/
def config? (draft : Draft) : Option Config :=
  draft.truncateAt.map fun truncateAt => ⟨truncateAt, draft.pretty.getD false⟩

end Draft

/-- The configuration that a document describes. -/
def ofDocument? (document : Document) : Option Config :=
  match document.root with
  | .mapping entries => do
    let draft ← entries.foldlM (Draft.addEntry? document) .empty
    draft.config?
  | _ => none

/-- The configuration that a text describes. -/
def ofText? (text : String) : Option Config := do
  ofDocument? (← Document.ofStream? text.toList)

end Attest.Config
