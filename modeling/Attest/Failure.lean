import Attest.Json.Writer
import Attest.Layout
import Attest.Matcher
import Attest.Text.Quoted

/-!
# Failures

An expectation that does not hold leaves a failure: a record of the question, the texts of the
values and the place of the call. A question that cannot be asked of a value is a usage error
instead, which says nothing about whether the expectation holds.
-/

namespace Attest

/-- The place of a call. -/
structure Site where
  file : String
  line : Nat
deriving DecidableEq, Repr

/-- The record of an expectation that did not hold. -/
structure AssertionFailure where
  matcher : Matcher
  /-- The label, or the shown value where there is none. -/
  subject : String
  label : Option String
  /-- The shown operand, for matchers that take one. -/
  expected : Option String
  /-- The shown value, or its length where that was in question. -/
  received : String
  negated : Bool
  site : Site
deriving DecidableEq, Repr

namespace AssertionFailure

/-- The sentence that reports a failure. What was received is named where it differs from the
subject. -/
def message (failure : AssertionFailure) : String :=
  "expected " ++ failure.subject ++ (if failure.negated then " not to " else " to ")
    ++ failure.matcher.phrase
    ++ (match failure.expected with
      | some expected => " " ++ expected
      | none => "")
    ++ (if failure.received = failure.subject then "" else ", received " ++ failure.received)

/-- The document of a failure. -/
def toJson (failure : AssertionFailure) : Json :=
  .object [
    ("matcher", .string failure.matcher.name),
    ("subject", .string failure.subject),
    ("label", .option .string failure.label),
    ("expected", .option .string failure.expected),
    ("received", .string failure.received),
    ("negated", .bool failure.negated),
    ("file", .string failure.site.file),
    ("line", .number (.integer failure.site.line))]

/-- The text that shows the record itself. -/
def shown (layout : Layout) (failure : AssertionFailure) : List Char :=
  layout.record "AssertionFailure".toList false [
    ("matcher".toList, failure.matcher.variantName.toList),
    ("subject".toList, Text.quotedText failure.subject),
    ("label".toList, layout.inner.option (failure.label.map Text.quotedText)),
    ("expected".toList, layout.inner.option (failure.expected.map Text.quotedText)),
    ("received".toList, Text.quotedText failure.received),
    ("negated".toList, Layout.truth failure.negated),
    ("file".toList, Text.quotedText failure.site.file),
    ("line".toList, Nat.toDigits 10 failure.site.line)]

end AssertionFailure

/-- A question that cannot be asked. -/
inductive UsageError where
  | invalidPattern (matcher : Matcher) (pattern : String) (cause : String)
  | notComparable (matcher : Matcher) (subject : String) (operand : String)
  | unsupported (matcher : Matcher) (subject : String) (reason : String)
deriving DecidableEq, Repr

namespace UsageError

def matcher : UsageError → Matcher
  | invalidPattern matcher _ _ => matcher
  | notComparable matcher _ _ => matcher
  | unsupported matcher _ _ => matcher

/-- The sentence that reports a usage error. -/
def message : UsageError → String
  | invalidPattern matcher pattern cause =>
    matcher.name ++ ": invalid pattern " ++ Text.quote pattern ++ ": " ++ cause
  | notComparable matcher subject operand =>
    matcher.name ++ ": " ++ subject ++ " cannot be ordered against " ++ operand
  | unsupported matcher subject reason =>
    matcher.name ++ " is not supported for " ++ subject ++ ": " ++ reason

/-- The messages of what lies behind the error. -/
def causes : UsageError → List String
  | invalidPattern _ _ cause => [cause]
  | _ => []

end UsageError

/-- Why a question has no positive answer. -/
inductive ExpectError where
  | assertion (failure : AssertionFailure)
  | usage (error : UsageError)
deriving DecidableEq, Repr

namespace ExpectError

def isAssertion : ExpectError → Bool
  | assertion _ => true
  | usage _ => false

def isUsage : ExpectError → Bool
  | assertion _ => false
  | usage _ => true

/-- The failure, if the error is one. -/
def assertion? : ExpectError → Option AssertionFailure
  | assertion failure => some failure
  | usage _ => none

def matcher : ExpectError → Matcher
  | assertion failure => failure.matcher
  | usage error => error.matcher

/-- The sentence that reports an error. -/
def message : ExpectError → String
  | assertion failure => failure.message
  | usage error => "usage error: " ++ error.message

/-- The message of an error followed by those of its causes. A failure speaks for itself. -/
def chain : ExpectError → List String
  | assertion failure => [failure.message]
  | usage error => ("usage error: " ++ error.message) :: error.message :: error.causes

end ExpectError

end Attest
