import Attest.Unicode.Folding
import Attest.Unicode.Property

/-!
# Classes of characters

A class is a set of characters built from ranges and properties. Membership is decided by the way
the class is built, so the operations on classes are those on sets by definition.
-/

namespace Attest.Regex

/-- A set of characters. -/
inductive CharClass where
  | nothing
  | range (first last : Nat)
  | property (property : Unicode.Property)
  | negation (members : CharClass)
  | union (left right : CharClass)
  | intersection (left right : CharClass)
  | difference (left right : CharClass)
  | symmetricDifference (left right : CharClass)
  | folded (members : CharClass)
  | foldedAscii (members : CharClass)

namespace CharClass

/-- The letter of the other case, for a letter of ASCII. -/
def otherCase (code : Nat) : Nat :=
  if 0x41 ≤ code ∧ code ≤ 0x5a then code + 0x20
  else if 0x61 ≤ code ∧ code ≤ 0x7a then code - 0x20
  else code

/-- Whether a character belongs to a class. A folded class has every character that differs in case
only from one of its members. -/
def contains : CharClass → Nat → Bool
  | nothing, _ => false
  | range first last, code => first ≤ code && code ≤ last
  | property p, code => p.holds code
  | negation members, code => !members.contains code
  | union left right, code => left.contains code || right.contains code
  | intersection left right, code => left.contains code && right.contains code
  | difference left right, code => left.contains code && !right.contains code
  | symmetricDifference left right, code => left.contains code != right.contains code
  | folded members, code => (Unicode.caseVariants code).any members.contains
  | foldedAscii members, code => members.contains code || members.contains (otherCase code)

/-- The class of one character. -/
def single (c : Char) : CharClass :=
  range c.toNat c.toNat

/-- The union of some classes. -/
def unionOf (classes : List CharClass) : CharClass :=
  match classes with
  | [] => nothing
  | first :: rest => rest.foldl union first

/-- The class of all characters. -/
def all : CharClass :=
  property .any

/-- About how many ranges a class takes when it is spelled out. -/
def rangeCount : CharClass → Nat
  | nothing | range _ _ => 1
  | property p => p.rangeCount
  | negation members => members.rangeCount + 1
  | union left right | intersection left right | difference left right
  | symmetricDifference left right => left.rangeCount + right.rangeCount
  | folded members | foldedAscii members => 2 * members.rangeCount

end CharClass

/-! ### Classes with a letter or name of their own -/

/-- The classes of digits, white space and word characters. -/
inductive Shorthand where
  | digit
  | space
  | word
deriving DecidableEq, Repr

namespace Shorthand

/-- The class in ASCII. -/
def ascii : Shorthand → CharClass
  | digit => .range 0x30 0x39
  | space => .union (.range 0x09 0x0d) (.range 0x20 0x20)
  | word => .unionOf [.range 0x30 0x39, .range 0x41 0x5a, .range 0x5f 0x5f, .range 0x61 0x7a]

/-- The class among all characters. -/
def unicode : Shorthand → CharClass
  | digit => .property .digit
  | space => .property .whiteSpace
  | word => .property .word

end Shorthand

/-- The named classes of ASCII characters. -/
def asciiClass? (name : List Char) : Option CharClass :=
  match String.ofList name with
  | "alnum" => some (.unionOf [.range 0x30 0x39, .range 0x41 0x5a, .range 0x61 0x7a])
  | "alpha" => some (.union (.range 0x41 0x5a) (.range 0x61 0x7a))
  | "ascii" => some (.range 0x00 0x7f)
  | "blank" => some (.union (.range 0x09 0x09) (.range 0x20 0x20))
  | "cntrl" => some (.union (.range 0x00 0x1f) (.range 0x7f 0x7f))
  | "digit" => some (.range 0x30 0x39)
  | "graph" => some (.range 0x21 0x7e)
  | "lower" => some (.range 0x61 0x7a)
  | "print" => some (.range 0x20 0x7e)
  | "punct" =>
    some (.unionOf [.range 0x21 0x2f, .range 0x3a 0x40, .range 0x5b 0x60, .range 0x7b 0x7e])
  | "space" => some (.union (.range 0x09 0x0d) (.range 0x20 0x20))
  | "upper" => some (.range 0x41 0x5a)
  | "word" => some Shorthand.word.ascii
  | "xdigit" => some (.unionOf [.range 0x30 0x39, .range 0x41 0x46, .range 0x61 0x66])
  | _ => none

end Attest.Regex
