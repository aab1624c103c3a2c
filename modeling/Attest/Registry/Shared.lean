import Attest.Registry.Basic
import Attest.Text.Order

/-!
# The shared registry

Tests can be defined apart from any registry, in no particular order. The shared registry starts
with all of them, sorted by file and line, and is filled when it is first used, whatever the use is.
Later registrations follow in the order of the calls.
-/

namespace Attest

/-- A test as it was defined, with its place. -/
structure Definition where
  name : Option String
  function : String
  modulePath : String
  file : String
  line : Nat
  body : TestBody

namespace Definition

/-- The test that a definition stands for. -/
def registered (definition : Definition) : RegisteredTest :=
  (RegisteredTest.ofBody (definition.name.getD definition.function) definition.function
    definition.body).definedAt definition.modulePath definition.file definition.line

/-- The order of definitions by file and then by line. -/
def compare (a b : Definition) : Ordering :=
  (Text.compare a.file b.file).then (Ord.compare a.line b.line)

/-- Whether a definition need not come after another. -/
def precedes (a b : Definition) : Bool :=
  (a.compare b).isLE

end Definition

namespace Registry

/-- The registry of some definitions, in the order of their places. -/
def ofDefinitions (definitions : List Definition) : Registry :=
  (definitions.mergeSort Definition.precedes).foldl
    (fun registry definition => registry.register definition.registered) empty

end Registry

/-- A registry that is filled from definitions when it is first used. -/
structure SharedRegistry where
  definitions : List Definition
  filled : Option Registry

namespace SharedRegistry

/-- The shared registry before any use. -/
def unused (definitions : List Definition) : SharedRegistry :=
  ⟨definitions, none⟩

/-- The registry that a use finds. -/
def contents (shared : SharedRegistry) : Registry :=
  shared.filled.getD (.ofDefinitions shared.definitions)

/-- Uses the registry and keeps what the use makes of it. -/
def use {α : Type} (shared : SharedRegistry) (action : Registry → α × Registry) :
    α × SharedRegistry :=
  let (answer, registry) := action shared.contents
  (answer, { shared with filled := some registry })

/-- Registers a callable under its identifier. -/
def test (shared : SharedRegistry) (callable : Callable) : SharedRegistry :=
  (shared.use fun registry => ((), registry.test callable)).2

/-- Registers a callable under the name of a decorator. -/
def apply (shared : SharedRegistry) (decorator : Decorator) (callable : Callable) :
    SharedRegistry :=
  (shared.use fun registry => ((), registry.apply decorator callable)).2

/-- All tests, with the registry after this use. -/
def list (shared : SharedRegistry) : List RegisteredTest × SharedRegistry :=
  shared.use fun registry => (registry.tests, registry)

end SharedRegistry

end Attest
