import Attest.Registry.Basic
import Mathlib.Data.List.Infix

/-!
# Histories of a registry

Clients use one registry in turn, each access being a single step. A history lists what they do in
the order in which the steps are taken, so it is an interleaving of the programs of its clients, and
every interleaving is one. Decorators are created apart from the registry and wait there until they
are applied or dropped, each at most once. A body that runs may register tests itself, and its
registrations can also be taken as steps of their own, with those of other clients in between. The
registry then holds one test for each registration of the history and nothing else, and a snapshot
holds what the history up to it has registered.
-/

namespace Attest.Registry

/-- What a client does. A waiting decorator goes by its place among all that were created. -/
inductive Operation where
  | register (test : RegisteredTest)
  | test (callable : Callable)
  | apply (decorator : Decorator) (callable : Callable)
  | decorate (decorator : Decorator)
  | applyWaiting (place : Nat) (callable : Callable)
  | drop (place : Nat)
  | list
  | get (name : String)
  | matching (pattern : String)
  | size
  | isEmpty
  | run (renderer : Renderer) (body : TestBody)

/-- What a client gets in return. -/
inductive Answer where
  | done
  | tests (tests : List RegisteredTest)
  | found (test : Option RegisteredTest)
  | matched (tests : Except Glob.Fault (List RegisteredTest))
  | size (n : Nat)
  | isEmpty (b : Bool)
  | result (result : TestResult)

/-- A registry, and all decorators that were created for it, each with whether it still waits. -/
structure Session where
  registry : Registry
  decorators : List (Decorator × Bool)

namespace Session

def empty : Session := ⟨.empty, []⟩

/-- The decorator at a place, if it still waits. -/
def waiting? (session : Session) (place : Nat) : Option Decorator :=
  match session.decorators[place]? with
  | some (decorator, true) => some decorator
  | _ => none

/-- The session in which a decorator waits no more. -/
def settle (session : Session) (place : Nat) (decorator : Decorator) : Session :=
  { session with decorators := session.decorators.set place (decorator, false) }

/-- Takes one step. There is none that uses a decorator which does not wait. -/
def step (session : Session) : Operation → Option (Answer × Session)
  | .register test => some (.done, { session with registry := session.registry.register test })
  | .test callable => some (.done, { session with registry := session.registry.test callable })
  | .apply decorator callable =>
    some (.done, { session with registry := session.registry.apply decorator callable })
  | .decorate decorator =>
    some (.done, { session with decorators := session.decorators ++ [(decorator, true)] })
  | .applyWaiting place callable => (session.waiting? place).map fun decorator =>
    (.done, { session.settle place decorator with
      registry := session.registry.apply decorator callable })
  | .drop place => (session.waiting? place).map fun decorator =>
    (.done, session.settle place decorator)
  | .list => some (.tests session.registry.tests, session)
  | .get name => some (.found (session.registry.get? name), session)
  | .matching pattern => some (.matched (session.registry.matching pattern), session)
  | .size => some (.size session.registry.size, session)
  | .isEmpty => some (.isEmpty session.registry.isEmpty, session)
  | .run renderer body =>
    let (result, registry) := session.registry.runBody renderer body
    some (.result result, { session with registry })

end Session

/-- Operations in the order in which they are taken, each with the client that takes it. -/
abbrev History (Client : Type) : Type := List (Client × Operation)

/-- Takes the steps of a history. -/
def Session.run {Client : Type} (session : Session) :
    History Client → Option (List Answer × Session)
  | [] => some ([], session)
  | (_, operation) :: history => do
    let (answer, session) ← session.step operation
    let (answers, session) ← session.run history
    return (answer :: answers, session)

namespace Operation

/-- The decorator that an operation leaves waiting. -/
def created? : Operation → Option Decorator
  | decorate decorator => some decorator
  | _ => none

/-- The tests that an operation registers, in order, given all decorators that are created. -/
def registrations (decorators : List Decorator) : Operation → List RegisteredTest
  | register entry => [entry]
  | test callable =>
    let function := identifier callable.typeName
    [.ofBody function function callable.body]
  | apply decorator callable => [decorator.test callable]
  | applyWaiting place callable =>
    (decorators[place]?.map fun decorator => decorator.test callable).toList
  | run _ body => body.registrations
  | _ => []

/-- Whether an operation is no registration and runs no body that makes one. -/
def isQuiet : Operation → Bool
  | register _ | test _ | apply _ _ | applyWaiting _ _ => false
  | run _ body => body.registrations.isEmpty
  | _ => true

end Operation

namespace History

variable {Client : Type}

/-- The decorators that are left waiting, in the order of their creation. -/
def created (history : History Client) : List Decorator :=
  history.filterMap fun step => step.2.created?

theorem created_cons (step : Client × Operation) (history : History Client) :
    created (step :: history) = step.2.created?.toList ++ history.created := by
  rw [created, created, List.filterMap_cons]
  cases step.2.created? <;> rfl

/-- The tests that are registered, each with the client that registers it, in the order of
registration. -/
def registrations (history : History Client) : List (Client × RegisteredTest) :=
  history.flatMap fun step => (step.2.registrations history.created).map fun test => (step.1, test)

/-- The registered tests alone. -/
def tests (history : History Client) : List RegisteredTest :=
  history.registrations.map fun registration => registration.2

/-- What one client does, in its own order. -/
def program [DecidableEq Client] (history : History Client) (client : Client) : List Operation :=
  (history.filter fun step => step.1 = client).map fun step => step.2

end History

namespace Session

variable {Client : Type}

theorem waiting?_eq_some {session : Session} {place : Nat} {decorator : Decorator}
    (h : session.waiting? place = some decorator) :
    session.decorators[place]? = some (decorator, true) := by
  unfold waiting? at h
  split at h
  · rename_i d hd
    rw [hd, Option.some.inj h]
  · cases h

theorem getElem?_of_waiting? {session : Session} {place : Nat} {decorator : Decorator}
    (h : session.waiting? place = some decorator) :
    (session.decorators.map Prod.fst)[place]? = some decorator := by
  rw [List.getElem?_map, waiting?_eq_some h]
  rfl

/-- A decorator that waits no more keeps its place. -/
theorem map_fst_settle {session : Session} {place : Nat} {decorator : Decorator}
    (h : session.waiting? place = some decorator) :
    (session.settle place decorator).decorators.map Prod.fst =
      session.decorators.map Prod.fst := by
  obtain ⟨hlt, heq⟩ := List.getElem?_eq_some_iff.mp (getElem?_of_waiting? h)
  rw [settle, List.map_set, ← heq, List.set_getElem_self]

variable {session next : Session} {operation : Operation} {answer : Answer}

theorem step_decorators (h : session.step operation = some (answer, next)) :
    next.decorators.map Prod.fst =
      session.decorators.map Prod.fst ++ operation.created?.toList := by
  cases operation with
  | decorate decorator =>
    cases h
    exact List.map_append
  | applyWaiting place callable =>
    obtain ⟨decorator, hw, heq⟩ := Option.map_eq_some_iff.mp h
    cases heq
    simpa [Operation.created?] using map_fst_settle hw
  | drop place =>
    obtain ⟨decorator, hw, heq⟩ := Option.map_eq_some_iff.mp h
    cases heq
    simpa [Operation.created?] using map_fst_settle hw
  | _ =>
    cases h
    exact (List.append_nil _).symm

/-- A step adds the tests that its operation registers, at the end, and changes no other one. -/
theorem step_tests (h : session.step operation = some (answer, next)) {decorators : List Decorator}
    (hd : session.decorators.map Prod.fst <+: decorators) :
    next.registry.tests = session.registry.tests ++ operation.registrations decorators := by
  cases operation with
  | applyWaiting place callable =>
    obtain ⟨decorator, hw, heq⟩ := Option.map_eq_some_iff.mp h
    cases heq
    have hplace : decorators[place]? = some decorator := by
      obtain ⟨later, rfl⟩ := hd
      have hmade := getElem?_of_waiting? hw
      rw [List.getElem?_append_left (List.getElem?_eq_some_iff.mp hmade).1, hmade]
    rw [Operation.registrations, hplace]
    rfl
  | drop place =>
    obtain ⟨decorator, hw, heq⟩ := Option.map_eq_some_iff.mp h
    cases heq
    exact (List.append_nil _).symm
  | run renderer body =>
    cases h
    rw [runBody_eq]
    rfl
  | register | test | apply =>
    cases h
    rfl
  | _ =>
    cases h
    exact (List.append_nil _).symm

/-- Only a listing answers with a snapshot, and it answers with all tests. -/
theorem step_eq_tests {tests : List RegisteredTest}
    (h : session.step operation = some (.tests tests, next)) :
    operation = .list ∧ tests = session.registry.tests := by
  cases operation with
  | list =>
    cases h
    exact ⟨rfl, rfl⟩
  | applyWaiting | drop =>
    obtain ⟨decorator, -, heq⟩ := Option.map_eq_some_iff.mp h
    cases heq
  | _ => cases h

/-- Quiet operations leave the registry as it is. -/
theorem step_registry_of_isQuiet (hq : operation.isQuiet = true)
    (h : session.step operation = some (answer, next)) : next.registry = session.registry := by
  have ht := step_tests h (List.prefix_refl _)
  have hnone (decorators : List Decorator) : operation.registrations decorators = [] := by
    cases operation with
    | run renderer body => exact List.isEmpty_iff.mp hq
    | register | test | apply | applyWaiting => cases hq
    | _ => rfl
  rw [hnone] at ht
  cases hn : next.registry
  cases hs : session.registry
  rw [hn, hs] at ht
  exact congrArg Registry.mk (ht.trans (List.append_nil _))

/-- No step is refused but one that uses a decorator which does not wait. -/
theorem step_eq_none_iff : session.step operation = none ↔
    ∃ place, session.waiting? place = none ∧
      (operation = .drop place ∨ ∃ callable, operation = .applyWaiting place callable) := by
  cases operation with
  | applyWaiting place callable => simp [step]
  | drop place => simp [step]
  | _ => simp [step]

variable {last : Session} {answers : List Answer} {history : History Client}

theorem run_cons_eq_some {client : Client}
    (h : session.run ((client, operation) :: history) = some (answers, last)) :
    ∃ answer middle rest, session.step operation = some (answer, middle) ∧
      middle.run history = some (rest, last) ∧ answers = answer :: rest := by
  simp only [run, Option.bind_eq_bind, Option.bind_eq_some_iff] at h
  obtain ⟨⟨answer, middle⟩, hs, ⟨rest, final⟩, hr, heq⟩ := h
  cases heq
  exact ⟨answer, middle, rest, hs, hr, rfl⟩

/-- A run adds one test for each registration of its history, in the same order. -/
theorem run_tests (h : session.run history = some (answers, last)) {decorators : List Decorator}
    (hd : session.decorators.map Prod.fst ++ history.created <+: decorators) :
    last.registry.tests = session.registry.tests ++
      history.flatMap fun step => step.2.registrations decorators := by
  induction history generalizing session answers with
  | nil =>
    cases h
    exact (List.append_nil _).symm
  | cons step history ih =>
    obtain ⟨answer, middle, rest, hs, hr, rfl⟩ := run_cons_eq_some h
    rw [History.created_cons, ← List.append_assoc, ← step_decorators hs] at hd
    have hfirst := (List.prefix_append _ _).trans hd
    rw [step_decorators hs] at hfirst
    rw [ih hr hd, step_tests hs ((List.prefix_append _ _).trans hfirst), List.append_assoc,
      List.flatMap_cons]

/-- Each operation of a history is taken in the session that the history before it leads to. -/
theorem run_at (h : session.run history = some (answers, last)) {i : Nat} {client : Client}
    (hi : history[i]? = some (client, operation)) :
    ∃ answer middle next, session.run (history.take i) = some (answers.take i, middle) ∧
      middle.step operation = some (answer, next) ∧ answers[i]? = some answer := by
  induction history generalizing session answers i with
  | nil => cases hi
  | cons step history ih =>
    obtain ⟨answer, middle, rest, hs, hr, rfl⟩ := run_cons_eq_some h
    cases i with
    | zero =>
      cases hi
      exact ⟨answer, session, middle, rfl, hs, rfl⟩
    | succ i =>
      obtain ⟨later, state, next, hbefore, hlater, hget⟩ := ih hr hi
      refine ⟨later, state, next, ?_, hlater, hget⟩
      simp only [List.take_succ_cons, run, hs, hbefore, Option.bind_eq_bind, Option.bind_some]
      rfl

/-- Registrations taken one after the other add their tests in the same order. -/
theorem run_register (state : Session) (client : Client) (tests : List RegisteredTest) :
    state.run (tests.map fun test => (client, .register test)) =
      some (tests.map fun _ => .done,
        { state with registry := ⟨state.registry.tests ++ tests⟩ }) := by
  induction tests generalizing state with
  | nil =>
    rw [List.append_nil]
    rfl
  | cons test tests ih =>
    simp only [List.map_cons, run, step, ih, tests_register, List.append_assoc,
      List.singleton_append, Option.bind_eq_bind, Option.bind_some]
    rfl

theorem length_run (h : session.run history = some (answers, last)) :
    answers.length = history.length := by
  induction history generalizing session answers with
  | nil =>
    cases h
    rfl
  | cons step history ih =>
    obtain ⟨answer, middle, rest, -, hr, rfl⟩ := run_cons_eq_some h
    rw [List.length_cons, List.length_cons, ih hr]

end Session

namespace History

variable {Client : Type}

theorem tests_eq (history : History Client) :
    history.tests = history.flatMap fun step => step.2.registrations history.created := by
  simp only [tests, registrations, List.map_flatMap, List.map_map, Function.comp_def, List.map_id']

/-- The registrations of a client follow its program. -/
theorem registrations_filter [DecidableEq Client] (history : History Client) (client : Client) :
    ((history.registrations.filter fun registration => registration.1 = client).map
      fun registration => registration.2) =
      (history.program client).flatMap fun operation =>
        operation.registrations history.created := by
  rw [registrations, program]
  generalize history.created = decorators
  induction history with
  | nil => rfl
  | cons step history ih =>
    rw [List.flatMap_cons, List.filter_append, List.map_append, ih]
    by_cases hc : step.1 = client
    · simp [hc, List.filter_map, Function.comp_def]
    · simp [hc, List.filter_map, Function.comp_def]

/-- What the answers of a history and the registry it leads to tell of the history. -/
structure Recorded [DecidableEq Client] (history : History Client) (answers : List Answer)
    (registry : Registry) : Prop where
  /-- One test for each registration, in the same order. -/
  contents : registry.tests = history.tests
  /-- The tests of each client are in its own order. -/
  own : ∀ client, ((history.registrations.filter fun registration => registration.1 = client).map
      fun registration => registration.2) =
    (history.program client).flatMap fun operation => operation.registrations history.created
  /-- A listing answers with what has been registered so far. -/
  listed : ∀ (i : Nat) (client : Client), history[i]? = some (client, Operation.list) →
    answers[i]? = some (Answer.tests (tests (history.take i)))
  /-- Later snapshots extend earlier ones, and the registry extends them all. -/
  grows : ∀ (i j : Nat) (earlier later : List RegisteredTest), i ≤ j →
    answers[i]? = some (Answer.tests earlier) → answers[j]? = some (Answer.tests later) →
    earlier <+: later ∧ later <+: registry.tests
  /-- A decorator that was left waiting registers under its name at the place of its use. -/
  decorated : ∀ (before middle after : History Client) (client user : Client)
      (decorator : Decorator) (callable : Callable),
    history = before ++ (client, .decorate decorator) ::
      (middle ++ (user, .applyWaiting (created before).length callable) :: after) →
    registry.tests[(tests (before ++ (client, .decorate decorator) :: middle)).length]? =
      some (decorator.test callable)

variable {history : History Client} {answers : List Answer} {session : Session}

/-- The tests of the session that a part of a history leads to, by the decorators of the whole. -/
theorem tests_of_run_part {first : History Client} {given : List Answer} {middle : Session}
    (hp : first <+: history) (h : Session.empty.run first = some (given, middle)) :
    middle.registry.tests = first.flatMap fun step => step.2.registrations history.created :=
  Session.run_tests h (hp.filterMap _)

theorem tests_of_run (h : Session.empty.run history = some (answers, session)) :
    session.registry.tests = history.tests := by
  rw [tests_of_run_part (List.prefix_refl _) h, tests_eq]

theorem snapshot_of_run (h : Session.empty.run history = some (answers, session)) {i : Nat}
    {snapshot : List RegisteredTest} (hi : answers[i]? = some (.tests snapshot)) :
    snapshot = (history.take i).flatMap fun step => step.2.registrations history.created := by
  obtain ⟨hlt, -⟩ := List.getElem?_eq_some_iff.mp hi
  rw [Session.length_run h] at hlt
  obtain ⟨answer, middle, next, hr, hs, ha⟩ :=
    Session.run_at h (List.getElem?_eq_getElem hlt)
  cases ha.symm.trans hi
  rw [(Session.step_eq_tests hs).2, tests_of_run_part (List.take_prefix i history) hr]

/-- A registration lands right behind all those before it. -/
theorem getElem?_of_registrations {first after : History Client} {client : Client}
    {operation : Operation} {test : RegisteredTest}
    (h : Session.empty.run (first ++ (client, operation) :: after) = some (answers, session))
    (he : operation.registrations (created (first ++ (client, operation) :: after)) = [test]) :
    session.registry.tests[(tests first).length]? = some test := by
  have hat : (first ++ (client, operation) :: after)[first.length]? =
      some (client, operation) := by
    simp
  obtain ⟨answer, middle, next, hr, -, -⟩ := Session.run_at h hat
  rw [List.take_left] at hr
  have hp : first <+: first ++ (client, operation) :: after := List.prefix_append _ _
  rw [← tests_of_run hr, tests_of_run_part hp hr, tests_of_run_part (List.prefix_refl _) h,
    List.flatMap_append, List.flatMap_cons, he]
  simp

theorem recorded_of_run [DecidableEq Client]
    (h : Session.empty.run history = some (answers, session)) :
    history.Recorded answers session.registry where
  contents := tests_of_run h
  own := history.registrations_filter
  listed := by
    intro i client hi
    obtain ⟨answer, middle, next, hr, hs, ha⟩ := Session.run_at h hi
    cases hs
    rw [ha, tests_of_run hr]
  grows := by
    intro i j earlier later hij hearlier hlater
    rw [snapshot_of_run h hearlier, snapshot_of_run h hlater,
      tests_of_run_part (List.prefix_refl _) h]
    exact ⟨(List.take_prefix_take_left hij).flatMap _, (List.take_prefix j history).flatMap _⟩
  decorated := by
    intro before middle after client user decorator callable heq
    have hsplit : history = (before ++ (client, .decorate decorator) :: middle) ++
        (user, .applyWaiting (created before).length callable) :: after := by
      rw [heq, List.append_assoc, List.cons_append]
    rw [hsplit] at h
    apply getElem?_of_registrations h
    have hcreated : created ((before ++ (client, .decorate decorator) :: middle) ++
        (user, .applyWaiting (created before).length callable) :: after) =
        created before ++ decorator :: created (middle ++
          (user, .applyWaiting (created before).length callable) :: after) := by
      simp [created, Operation.created?]
    rw [hcreated]
    simp [Operation.registrations]

end History

/-- What holds of the steps that can be taken in a session. -/
structure Session.LawfulSteps (state : Session) : Prop where
  /-- Operations that register nothing leave the registry as it is. -/
  quiet : ∀ (operation : Operation) (answer : Answer) (next : Session),
    operation.isQuiet = true → state.step operation = some (answer, next) →
      next.registry = state.registry
  body_runs : ∀ (renderer : Renderer) (body : TestBody), state.step (.run renderer body) =
    some (.result (body.result renderer),
      { state with registry := ⟨state.registry.tests ++ body.registrations⟩ })
  /-- The registrations of a body add the same tests when each of them is a step of its own. -/
  body_registers : ∀ (Client : Type) (client : Client) (body : TestBody),
    state.run (body.registrations.map fun test => (client, .register test)) =
      some (body.registrations.map fun _ => .done,
        { state with registry := ⟨state.registry.tests ++ body.registrations⟩ })
  decorator_name : ∀ (decorator : Decorator) (callable : Callable),
    (decorator.test callable).name = decorator.name.getD (identifier callable.typeName)
  /-- A decorator without a name is no different from none. -/
  unnamed_applied : ∀ callable : Callable,
    state.step (.apply (.ofOptions ⟨none⟩) callable) = state.step (.test callable)
  unnamed_waiting : ∀ (place : Nat) (callable : Callable),
    state.waiting? place = some (.ofOptions ⟨none⟩) → ∃ next,
      state.step (.applyWaiting place callable) = some (.done, next) ∧
        next.registry = state.registry.test callable
  refused_iff : ∀ operation : Operation, state.step operation = none ↔
    ∃ place, state.waiting? place = none ∧
      (operation = .drop place ∨ ∃ callable, operation = .applyWaiting place callable)

theorem Session.lawfulSteps (state : Session) : state.LawfulSteps where
  quiet := fun _ _ _ hq hs => step_registry_of_isQuiet hq hs
  body_runs := by
    intro renderer body
    rw [step, runBody_eq]
  body_registers := fun _ client body => state.run_register client body.registrations
  decorator_name := fun _ _ => rfl
  unnamed_applied := fun _ => rfl
  unnamed_waiting := by
    intro place callable hw
    refine ⟨{ state.settle place (.ofOptions ⟨none⟩) with
      registry := state.registry.apply (.ofOptions ⟨none⟩) callable }, ?_, rfl⟩
    rw [step, hw]
    rfl
  refused_iff := fun _ => step_eq_none_iff

/-- The history of a registry that starts empty, whoever uses it and in whatever order the steps of
the clients alternate. The registry holds one test for each registration, in order; snapshots only
ever grow at their end; a decorator that waits keeps its name, not its place. Operations other than
registrations leave the registry alone, a body that runs adds what it registers itself, and a
decorator without a name is no different from none. -/
theorem history_recorded {Client : Type} [DecidableEq Client] {history : History Client}
    {answers : List Answer} {session : Session}
    (h : Session.empty.run history = some (answers, session)) :
    history.Recorded answers session.registry ∧ ∀ state : Session, state.LawfulSteps :=
  ⟨History.recorded_of_run h, Session.lawfulSteps⟩

/-- One client leaves a decorator waiting while the other one registers. -/
theorem history_recorded_two_clients :
    ∃ (answers : List Answer) (session : Session),
      Session.empty.run [(true, .decorate (.named "late")), (false, .test ⟨"cart::total", .pass⟩),
        (true, .list), (true, .applyWaiting 0 ⟨"cart::total", .pass⟩), (false, .list)] =
        some (answers, session) ∧
      History.Recorded [(true, .decorate (.named "late")),
        (false, .test ⟨"cart::total", .pass⟩), (true, .list),
        (true, .applyWaiting 0 ⟨"cart::total", .pass⟩), (false, .list)] answers session.registry :=
  ⟨_, _, rfl, (history_recorded rfl).1⟩

/-- A body that registers a test when it runs is no quiet one. -/
theorem run_changes_registry :
    ¬ ∀ (state next : Session) (renderer : Renderer) (body : TestBody) (answer : Answer),
      state.step (.run renderer body) = some (answer, next) → next.registry = state.registry := by
  intro h
  have hgrown := h .empty _ .initial (.register "grown" "passes" none none none .pass .pass) _ rfl
  cases congrArg size hgrown

end Attest.Registry
