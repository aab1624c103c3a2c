import Attest.Failure
import Attest.Regex.Reader
import Attest.Renderer
import Attest.Value.Identity
import Attest.Value.Membership
import Attest.Value.Truth

/-!
# Expectations

An expectation holds a value, a polarity and a label, and answers checks. A check first has a raw
outcome, which depends on the value and the operand alone; the polarity then decides whether the
expectation passes. Where a check has no outcome the answer is a usage error before the polarity
comes in. The configuration enters only the texts of failures and errors.
-/

namespace Attest

/-- A value under test. -/
structure Expectation (kind : Kind) where
  value : kind.Value
  negated : Bool
  label : Option String

namespace Expectation

variable {kind : Kind}

/-- The expectation on a value, with a label for messages or without. -/
def ofValue (value : kind.Value) (label : Option String) : Expectation kind :=
  ⟨value, false, label⟩

/-- The expectation of the other polarity. -/
protected def not (expectation : Expectation kind) : Expectation kind :=
  { expectation with negated := !expectation.negated }

/-- The expectation with another label. -/
def labeled (expectation : Expectation kind) (label : String) : Expectation kind :=
  { expectation with label := some label }

/-- The text that shows an expectation. -/
def shown (layout : Layout) (expectation : Expectation kind) : List Char :=
  layout.record "Expectation".toList false [
    ("value".toList, kind.shown layout.inner expectation.value),
    ("negated".toList, Layout.truth expectation.negated),
    ("label".toList, layout.inner.option (expectation.label.map Text.quotedText))]

end Expectation

/-- How two values should be ordered. -/
inductive Relation where
  | greater
  | less
  | greaterOrEqual
  | lessOrEqual
deriving DecidableEq, Repr

namespace Relation

/-- Whether an order is as it should be. -/
def accepts : Relation → Ordering → Bool
  | greater, order => order.isGT
  | less, order => order.isLT
  | greaterOrEqual, order => order.isGE
  | lessOrEqual, order => order.isLE

def matcher : Relation → Matcher
  | greater => .greaterThan
  | less => .lessThan
  | greaterOrEqual => .greaterThanOrEqual
  | lessOrEqual => .lessThanOrEqual

end Relation

/-- A question to a value of a kind, with its operand. -/
inductive Check (kind : Kind) where
  | equal (other : Kind) (operand : other.Value)
  | same (operand : kind.Value)
  | truthy
  | falsy
  | none
  | ordered (relation : Relation) (operand : kind.Value)
  | contain (other : Kind) (item : other.Value)
  | length (n : Nat)
  | pattern (pattern : String)

namespace Check

variable {kind : Kind}

def matcher : Check kind → Matcher
  | equal _ _ => .equal
  | same _ => .same
  | truthy => .truthy
  | falsy => .falsy
  | none => .none
  | ordered relation _ => relation.matcher
  | contain _ _ => .contain
  | length _ => .haveLength
  | pattern _ => .matchPattern

end Check

namespace Expectation

variable {kind : Kind}

/-- What messages call the value: its label, or its text where it has none. -/
def subject (renderer : Renderer) (expectation : Expectation kind) : String :=
  match expectation.label with
  | some label => label
  | none => renderer.render kind expectation.value

/-- Applies the polarity to an outcome. The value itself stands for what was received unless another
text does. -/
def evaluate (renderer : Renderer) (site : Site) (expectation : Expectation kind)
    (matcher : Matcher) (outcome : Bool) (expected received : Option String) :
    Except ExpectError Unit :=
  if outcome != expectation.negated then .ok ()
  else .error (.assertion {
    matcher
    subject := expectation.subject renderer
    label := expectation.label
    expected
    received := received.getD (renderer.render kind expectation.value)
    negated := expectation.negated
    site })

/-- Applies the polarity to an outcome where the value itself was received. -/
def conclude (renderer : Renderer) (site : Site) (expectation : Expectation kind)
    (matcher : Matcher) (outcome : Bool) (expected : Option String) : Except ExpectError Unit :=
  expectation.evaluate renderer site matcher outcome expected none

/-- The error of a matcher that has no answer for a value. -/
def unsupported (renderer : Renderer) (expectation : Expectation kind) (matcher : Matcher)
    (reason : String) : ExpectError :=
  .usage (.unsupported matcher (expectation.subject renderer) reason)

/-- Checks the order of the value and an operand. -/
def compare (renderer : Renderer) (site : Site) (expectation : Expectation kind)
    (relation : Relation) (operand : kind.Value) : Except ExpectError Unit :=
  match kind.compare? expectation.value operand with
  | none =>
    .error (.usage (.notComparable relation.matcher (expectation.subject renderer)
      (renderer.render kind operand)))
  | some order =>
    expectation.conclude renderer site relation.matcher (relation.accepts order)
      (some (renderer.render kind operand))

/-- Checks that the value contains an item. -/
def contain (renderer : Renderer) (site : Site) (expectation : Expectation kind) (other : Kind)
    (item : other.Value) : Except ExpectError Unit :=
  match kind.contains? expectation.value other item with
  | none =>
    .error (expectation.unsupported renderer .contain "value cannot hold an item of this kind")
  | some found =>
    expectation.conclude renderer site .contain found (some (renderer.render other item))

/-- Checks the length of the value. A failure shows the length that was found, and never cuts it. -/
def haveLength (renderer : Renderer) (site : Site) (expectation : Expectation kind) (n : Nat) :
    Except ExpectError Unit :=
  match kind.length? expectation.value with
  | none => .error (expectation.unsupported renderer .haveLength "value has no length")
  | some actual =>
    expectation.evaluate renderer site .haveLength (actual == n) (some (renderer.render .int n))
      (some (.ofList (Nat.toDigits 10 actual)))

/-- Checks that a pattern describes a part of the value's text. The pattern is read only once there
is a text. -/
def matchPattern (renderer : Renderer) (site : Site) (expectation : Expectation kind)
    (pattern : String) : Except ExpectError Unit :=
  match kind.text? expectation.value with
  | none => .error (expectation.unsupported renderer .matchPattern "value is not a string")
  | some text =>
    match Regex.ofPattern pattern.toList with
    | .error fault => .error (.usage (.invalidPattern .matchPattern pattern fault.message))
    | .ok regex =>
      expectation.conclude renderer site .matchPattern (regex.matchesIn text.toList)
        (some (renderer.render .text pattern))

/-- The answer to a check. -/
def check (renderer : Renderer) (site : Site) (expectation : Expectation kind) :
    Check kind → Except ExpectError Unit
  | .equal other operand =>
    expectation.conclude renderer site .equal (kind.agrees expectation.value other operand)
      (some (renderer.render other operand))
  | .same operand =>
    expectation.conclude renderer site .same (kind.same expectation.value operand)
      (some (renderer.render kind operand))
  | .truthy => expectation.conclude renderer site .truthy (kind.isTrue expectation.value) none
  | .falsy => expectation.conclude renderer site .falsy (!kind.isTrue expectation.value) none
  | .none => expectation.conclude renderer site .none (kind.isNone expectation.value) none
  | .ordered relation operand => expectation.compare renderer site relation operand
  | .contain other item => expectation.contain renderer site other item
  | .length n => expectation.haveLength renderer site n
  | .pattern pattern => expectation.matchPattern renderer site pattern

end Expectation

end Attest
