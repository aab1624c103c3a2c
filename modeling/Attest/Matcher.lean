/-!
# Matchers

The twelve questions an expectation can be asked, with the names and phrases they go by.
-/

namespace Attest

/-- A question about a value. -/
inductive Matcher where
  | equal
  | same
  | truthy
  | falsy
  | none
  | greaterThan
  | lessThan
  | greaterThanOrEqual
  | lessThanOrEqual
  | contain
  | haveLength
  | matchPattern
deriving DecidableEq, Repr

namespace Matcher

/-- All matchers, in order. -/
def all : List Matcher :=
  [equal, same, truthy, falsy, none, greaterThan, lessThan, greaterThanOrEqual, lessThanOrEqual,
    contain, haveLength, matchPattern]

/-- The name under which a matcher is called and reported. -/
def name : Matcher → String
  | equal => "to_equal"
  | same => "to_be"
  | truthy => "to_be_truthy"
  | falsy => "to_be_falsy"
  | none => "to_be_none"
  | greaterThan => "to_be_greater_than"
  | lessThan => "to_be_less_than"
  | greaterThanOrEqual => "to_be_greater_than_or_equal"
  | lessThanOrEqual => "to_be_less_than_or_equal"
  | contain => "to_contain"
  | haveLength => "to_have_length"
  | matchPattern => "to_match"

/-- The name that shows a matcher among other values. -/
def variantName : Matcher → String
  | equal => "ToEqual"
  | same => "ToBe"
  | truthy => "ToBeTruthy"
  | falsy => "ToBeFalsy"
  | none => "ToBeNone"
  | greaterThan => "ToBeGreaterThan"
  | lessThan => "ToBeLessThan"
  | greaterThanOrEqual => "ToBeGreaterThanOrEqual"
  | lessThanOrEqual => "ToBeLessThanOrEqual"
  | contain => "ToContain"
  | haveLength => "ToHaveLength"
  | matchPattern => "ToMatch"

/-- What a message says a value was expected to do. -/
def phrase : Matcher → String
  | equal => "equal"
  | same => "be"
  | truthy => "be truthy"
  | falsy => "be falsy"
  | none => "be none"
  | greaterThan => "be greater than"
  | lessThan => "be less than"
  | greaterThanOrEqual => "be greater than or equal to"
  | lessThanOrEqual => "be less than or equal to"
  | contain => "contain"
  | haveLength => "have length"
  | matchPattern => "match"

/-- The matcher with a name. -/
def named? (name : String) : Option Matcher :=
  all.find? fun matcher => matcher.name == name

/-- The place of a matcher among all. -/
def position (matcher : Matcher) : Nat :=
  all.idxOf matcher

theorem mem_all (matcher : Matcher) : matcher ∈ all := by
  cases matcher <;> decide

end Matcher

end Attest
