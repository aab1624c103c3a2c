import Attest.Expectation

/-!
# Test bodies

What a test does when it runs: it may register further tests, one after the other, and then comes to
a result. The result may depend on how values are shown, for its errors hold texts of values.
-/

namespace Attest

/-- What made a test fail. -/
inductive TestError.Cause where
  | message (text : String)
  | expectation (error : ExpectError)
deriving DecidableEq, Repr

/-- Why a test failed: a cause, and what was going on around it, from the outside in. -/
structure TestError where
  contexts : List String
  cause : TestError.Cause
deriving DecidableEq, Repr

namespace TestError

/-- A cause without context. -/
def ofCause (cause : Cause) : TestError := ⟨[], cause⟩

/-- Puts a context around an error. -/
def within (error : TestError) (context : String) : TestError :=
  { error with contexts := context :: error.contexts }

/-- The messages of an error from the outside in. -/
def chain (error : TestError) : List String :=
  error.contexts ++
    match error.cause with
    | .message text => [text]
    | .expectation error => error.chain

/-- The outermost message. -/
def message (error : TestError) : String :=
  match error.contexts, error.cause with
  | context :: _, _ => context
  | [], .message text => text
  | [], .expectation error => error.message

/-- The expectation that did not pass, if that is the cause, whatever the contexts. -/
def expectError? (error : TestError) : Option ExpectError :=
  match error.cause with
  | .message _ => none
  | .expectation error => some error

end TestError

/-- What a test comes to. -/
abbrev TestResult : Type := Except TestError Unit

/-- What a test does when it runs: it comes to a result, or it registers a test and goes on. -/
inductive TestBody where
  | answer (result : Renderer → TestResult)
  | register (name function : String) (modulePath file : Option String) (line : Option Nat)
    (body next : TestBody)

namespace TestBody

/-- What a body comes to. -/
def result (renderer : Renderer) : TestBody → TestResult
  | answer result => result renderer
  | register _ _ _ _ _ _ next => next.result renderer

/-- The body that passes. -/
def pass : TestBody := .answer fun _ => .ok ()

/-- The body that fails with an error. -/
def fail (error : TestError) : TestBody := .answer fun _ => .error error

/-- The body that checks an expectation and reports what comes of it inside contexts. -/
def expect (site : Site) {kind : Kind} (expectation : Expectation kind) (check : Check kind)
    (contexts : List String) : TestBody :=
  .answer fun renderer =>
    match expectation.check renderer site check with
    | .ok () => .ok ()
    | .error error => .error ⟨contexts, .expectation error⟩

end TestBody

end Attest
