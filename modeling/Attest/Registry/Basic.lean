import Attest.Glob
import Attest.Json.Document
import Attest.Registry.Identifier
import Attest.Registry.TestBody

/-!
# Registries

A registry keeps tests in the order in which they were registered. It only ever grows at its end,
and equal names stand for as many tests as were registered under them.
-/

namespace Attest

/-- A test with its name, the identifier of its function and, where known, its place of definition.
-/
structure RegisteredTest where
  name : String
  function : String
  modulePath : Option String
  file : Option String
  line : Option Nat
  body : TestBody

namespace RegisteredTest

/-- A test without a known place. -/
def ofBody (name function : String) (body : TestBody) : RegisteredTest :=
  ⟨name, function, none, none, none, body⟩

/-- A test with its place. -/
def definedAt (test : RegisteredTest) (modulePath file : String) (line : Nat) : RegisteredTest :=
  { test with modulePath := some modulePath, file := some file, line := some line }

/-- The name led by the file or else by the module, where one is known. -/
def id (test : RegisteredTest) : String :=
  match test.file, test.modulePath with
  | some file, _ => file ++ "::" ++ test.name
  | none, some modulePath => modulePath ++ "::" ++ test.name
  | none, none => test.name

/-- The text that shows a test. Its body is left out. -/
def shown (layout : Layout) (test : RegisteredTest) : List Char :=
  layout.record "RegisteredTest".toList true [
    ("name".toList, Text.quotedText test.name),
    ("function".toList, Text.quotedText test.function),
    ("module_path".toList, layout.inner.option (test.modulePath.map Text.quotedText)),
    ("file".toList, layout.inner.option (test.file.map Text.quotedText)),
    ("line".toList, layout.inner.option (test.line.map (Nat.toDigits 10)))]

/-- The document of a test. -/
def toJson (test : RegisteredTest) : Json :=
  .object [
    ("name", .string test.name),
    ("function", .string test.function),
    ("module_path", .option .string test.modulePath),
    ("file", .option .string test.file),
    ("line", .option (fun line => .number (.integer line)) test.line)]

end RegisteredTest

/-- The tests that a body registers, in order. -/
def TestBody.registrations : TestBody → List RegisteredTest
  | answer _ => []
  | register name function modulePath file line body next =>
    ⟨name, function, modulePath, file, line, body⟩ :: next.registrations

/-- A callable that can be registered: the name of its type and what it does. -/
structure Callable where
  typeName : String
  body : TestBody

/-- Options for registering a test. -/
structure TestOptions where
  name : Option String
deriving DecidableEq, Repr

namespace TestOptions

/-- The text that shows options. -/
def shown (layout : Layout) (options : TestOptions) : List Char :=
  layout.record "TestOptions".toList false
    [("name".toList, layout.inner.option (options.name.map Text.quotedText))]

end TestOptions

/-- A registration that waits for its callable. The name is fixed, the place in the order is not. -/
structure Decorator where
  name : Option String
deriving DecidableEq, Repr

namespace Decorator

/-- The registration under a name. -/
def named (name : String) : Decorator := ⟨some name⟩

/-- The registration with options. -/
def ofOptions (options : TestOptions) : Decorator := ⟨options.name⟩

/-- The test that a callable becomes: without a name of its own it goes by its identifier. -/
def test (decorator : Decorator) (callable : Callable) : RegisteredTest :=
  let function := Registry.identifier callable.typeName
  .ofBody (decorator.name.getD function) function callable.body

end Decorator

/-- Tests in the order of registration. -/
structure Registry where
  tests : List RegisteredTest

namespace Registry

def empty : Registry := ⟨[]⟩

/-- Adds a test at the end. -/
def register (registry : Registry) (test : RegisteredTest) : Registry :=
  ⟨registry.tests ++ [test]⟩

/-- Registers a callable under the name of a decorator. -/
def apply (registry : Registry) (decorator : Decorator) (callable : Callable) : Registry :=
  registry.register (decorator.test callable)

/-- Registers a callable under its identifier. -/
def test (registry : Registry) (callable : Callable) : Registry :=
  let function := identifier callable.typeName
  registry.register (.ofBody function function callable.body)

def size (registry : Registry) : Nat :=
  registry.tests.length

def isEmpty (registry : Registry) : Bool :=
  registry.tests.isEmpty

/-- The first test with a name. -/
def get? (registry : Registry) (name : String) : Option RegisteredTest :=
  registry.tests.find? fun test => test.name == name

/-- The tests whose name or id a pattern describes, in order. -/
def matching (registry : Registry) (pattern : String) : Except Glob.Fault (List RegisteredTest) :=
  (Glob.ofPattern pattern).map fun glob =>
    registry.tests.filter fun test => glob.describes test.name || glob.describes test.id

/-- Runs a body: what it comes to, and the registry afterwards. -/
def runBody (registry : Registry) (renderer : Renderer) : TestBody → TestResult × Registry
  | .answer result => (result renderer, registry)
  | .register name function modulePath file line body next =>
    (registry.register ⟨name, function, modulePath, file, line, body⟩).runBody renderer next

/-- Runs tests one after the other. -/
def runTests (registry : Registry) (renderer : Renderer) :
    List RegisteredTest → List TestResult × Registry
  | [] => ([], registry)
  | test :: tests =>
    let (result, registry) := registry.runBody renderer test.body
    let (results, registry) := registry.runTests renderer tests
    (result :: results, registry)

/-- Runs the tests that are registered at the start; those that they register have to wait. -/
def runAll (registry : Registry) (renderer : Renderer) : List TestResult × Registry :=
  registry.runTests renderer registry.tests

/-- The text that shows a registry. -/
def shown (layout : Layout) (registry : Registry) : List Char :=
  layout.record "Registry".toList false
    [("tests".toList,
      layout.inner.list (registry.tests.map (RegisteredTest.shown layout.inner.inner)))]

/-- The document of all tests. -/
def toJson (registry : Registry) : Json :=
  .array (registry.tests.map RegisteredTest.toJson)

theorem tests_register (registry : Registry) (test : RegisteredTest) :
    (registry.register test).tests = registry.tests ++ [test] := rfl

/-- A body that runs comes to its result, and its registrations follow the tests already there. -/
theorem runBody_eq (registry : Registry) (renderer : Renderer) (body : TestBody) :
    registry.runBody renderer body =
      (body.result renderer, ⟨registry.tests ++ body.registrations⟩) := by
  induction body generalizing registry with
  | answer result =>
    rw [TestBody.registrations, List.append_nil]
    rfl
  | register name function modulePath file line body next _ ih =>
    rw [runBody, ih, tests_register, TestBody.registrations, List.append_assoc]
    rfl

end Registry

namespace Decorator

/-- The text that shows a decorator of a registry. -/
def shown (layout : Layout) (registry : Registry) (decorator : Decorator) : List Char :=
  layout.record "Decorator".toList false [
    ("registry".toList, registry.shown layout.inner),
    ("name".toList, layout.inner.option (decorator.name.map Text.quotedText))]

end Decorator

end Attest
