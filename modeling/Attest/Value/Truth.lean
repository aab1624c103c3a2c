import Attest.Value.Kind

/-!
# Truth, absence, length and text of values

A value is false when it is zero, empty, absent or the unit, and a value that is present is as true
as what it holds. Only an absent value and the null document are none. Length counts characters,
elements or fields. Pointers pass every question on to their target.
-/

namespace Attest

namespace Json

/-- A number of a document is true when the floating-point number nearest to it is not zero. -/
def isTrue : Json → Bool
  | null => false
  | bool b => b
  | number n => !(n.nearest .double).isZero
  | string s => !s.isEmpty
  | array items => !items.isEmpty
  | object fields => !fields.isEmpty

def isNull : Json → Bool
  | null => true
  | _ => false

def length? : Json → Option Nat
  | string s => some s.toList.length
  | array items => some items.length
  | object fields => some fields.length
  | _ => none

end Json

namespace Kind

/-- Whether a value counts as true. -/
def isTrue : (kind : Kind) → kind.Value → Bool
  | .unit, _ => false
  | .bool, b => b
  | .char, _ => true
  | .int, n => n != 0
  | .float _, x => !x.isZero
  | .text, s => !s.isEmpty
  | .json, document => document.isTrue
  | .structured, _ => true
  | .option item, v => match v with
    | none => false
    | some x => isTrue item x
  | .sequence _ _, xs => !xs.isEmpty
  | .set _ _, xs => !xs.isEmpty
  | .map _ _ _, xs => !xs.isEmpty
  | .tuple _ _, _ => true
  | .pointer _ target, p => isTrue target p.target

/-- Whether a value is an absent one. -/
def isNone : (kind : Kind) → kind.Value → Bool
  | .option _, v => v.isNone
  | .json, document => document.isNull
  | .pointer _ target, p => isNone target p.target
  | _, _ => false

/-- The number of characters, elements or fields, for a value that has any. -/
def length? : (kind : Kind) → kind.Value → Option Nat
  | .text, s => some s.toList.length
  | .json, document => document.length?
  | .sequence _ _, xs => some xs.length
  | .set _ _, xs => some xs.length
  | .map _ _ _, xs => some xs.length
  | .pointer _ target, p => length? target p.target
  | _, _ => none

/-- The text of a value that is one. -/
def text? : (kind : Kind) → kind.Value → Option String
  | .text, s => some s
  | .json, document => document.text?
  | .pointer _ target, p => text? target p.target
  | _, _ => none

end Kind

end Attest
