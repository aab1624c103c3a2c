import Attest.Config.Discovery
import Attest.Proofs.Messages

/-!
# Changes of the configuration

A program creates expectations, derives others from them and checks them, while it loads and
installs configurations. The configuration in effect enters a check only through the texts of
values. What else a check comes to is its verdict, and two programs that do the same with
expectations get the same verdicts, whatever they do with configurations. The texts depend on the
configuration that is in effect at the check, and on no other one.
-/

namespace Attest

/-- What a check comes to, apart from the texts of values. -/
inductive Verdict where
  | passed
  /-- The length is what was received where a length was in question, the name is the subject where
  there is a label. -/
  | failed (matcher : Matcher) (label : Option String) (negated : Bool) (site : Site)
      (hasExpected : Bool) (length? name? : Option String)
  | invalidPattern (matcher : Matcher) (pattern cause : String)
  | notComparable (matcher : Matcher)
  | unsupported (matcher : Matcher) (reason : String)
deriving DecidableEq, Repr

def AssertionFailure.verdict (failure : AssertionFailure) : Verdict :=
  .failed failure.matcher failure.label failure.negated failure.site failure.expected.isSome
    (if failure.matcher = .haveLength then some failure.received else none)
    (if failure.label.isSome then some failure.subject else none)

def UsageError.verdict : UsageError → Verdict
  | invalidPattern matcher pattern cause => .invalidPattern matcher pattern cause
  | notComparable matcher _ _ => .notComparable matcher
  | unsupported matcher _ reason => .unsupported matcher reason

/-- The verdict of what a check answers. -/
def Verdict.ofResult : Except ExpectError Unit → Verdict
  | .ok () => .passed
  | .error (.assertion failure) => failure.verdict
  | .error (.usage error) => error.verdict

/-- The verdict of an obstacle has none of the texts that its usage error has. -/
theorem Obstacle.verdict_usageError {kind : Kind} (renderer renderer' : Renderer)
    (check : Check kind) (subject subject' : String) (obstacle : Obstacle) :
    (obstacle.usageError renderer check subject).verdict =
      (obstacle.usageError renderer' check subject').verdict := by
  cases obstacle <;> rfl

theorem Check.isSome_expected {kind : Kind} (renderer : Renderer) (check : Check kind) :
    (check.expected renderer).isSome = check.operand?.isSome :=
  Option.isSome_map

namespace Expectation

variable {kind : Kind}

/-- Verdicts do not depend on how values are shown. -/
theorem verdict_check (renderer renderer' : Renderer) (site : Site)
    (expectation : Expectation kind) (check : Check kind) :
    Verdict.ofResult (expectation.check renderer site check) =
      Verdict.ofResult (expectation.check renderer' site check) := by
  cases h : check.outcome expectation.value with
  | error obstacle =>
    rw [check_of_obstacle h, check_of_obstacle h]
    exact obstacle.verdict_usageError ..
  | ok outcome =>
    rw [check_of_outcome h, check_of_outcome h, evaluate, evaluate]
    by_cases hp : (outcome != expectation.negated) = true
    · rw [if_pos hp, if_pos hp]
    · rw [if_neg hp, if_neg hp]
      simp only [Verdict.ofResult, AssertionFailure.verdict, Check.isSome_expected]
      congr 1
      · by_cases hm : check.matcher = .haveLength
        · obtain ⟨n, -, hmeasured⟩ := Check.measured?_of_outcome hm h
          simp [hm, hmeasured]
        · simp [hm]
      · cases hl : expectation.label with
        | none => rfl
        | some label => simp [subject, hl]

end Expectation

abbrev Expectation.Any : Type := (kind : Kind) × Expectation kind

/-- What a program does. Expectations go by their place among all that were created. -/
inductive Action where
  | expect (kind : Kind) (value : kind.Value) (label : Option String)
  | derive (place : Nat) (step : Derivation)
  | check (place : Nat) (site : Site) (kind : Kind) (check : Check kind)
  | install (config : Config)
  | load (fs : FileSystem) (path : Path)
  | discover (fs : FileSystem) (start : Path)
  | override (config : Config) (truncateAt : Option Nat) (pretty : Bool)

/-- What a program gets in return. An expectation that was not created, or is on a value of another
kind, is refused. -/
inductive Action.Answer where
  | created
  | checked (result : Except ExpectError Unit)
  | refused
  | installed
  | loaded (result : Except ConfigError Config.Loaded)
  | discovered (result : Except ConfigError (Option Config.Loaded))
  | overridden (config : Config)

/-- The configuration in effect, and the expectations that were created. -/
structure Workspace where
  environment : Environment
  expectations : List Expectation.Any

namespace Expectation.Any

/-- The expectation at a place, if it is on a value of the kind asked for. -/
def at? (all : List Any) (place : Nat) (kind : Kind) : Option (Expectation kind) :=
  match all[place]? with
  | some ⟨kind', expectation⟩ => if h : kind' = kind then some (h ▸ expectation) else none
  | none => none

/-- The expectation that an action creates. -/
def created? (all : List Any) : Action → Option Any
  | .expect kind value label => some ⟨kind, .ofValue value label⟩
  | .derive place step => all[place]?.map fun source => ⟨source.1, source.2.step step⟩
  | _ => none

/-- The expectations that a program creates. -/
def created (program : List Action) : List Any :=
  program.foldl (fun all action => all ++ (created? all action).toList) []

end Expectation.Any

namespace Action

/-- Whether an action is one on expectations. -/
def onExpectation : Action → Bool
  | expect _ _ _ | derive _ _ | check _ _ _ _ => true
  | _ => false

def installed? : Action → Option Config
  | install config => some config
  | _ => none

/-- What an action on expectations answers apart from the texts of values. -/
def Answer.verdict? : Answer → Option (Option Verdict)
  | created | refused => some none
  | checked result => some (some (.ofResult result))
  | _ => none

end Action

namespace Workspace

open Expectation.Any (at? created? created)

def fresh : Workspace := ⟨.fresh, []⟩

def step (workspace : Workspace) (action : Action) : Action.Answer × Workspace :=
  match action with
  | .expect _ _ _ | .derive _ _ =>
    match created? workspace.expectations action with
    | some expectation =>
      (.created, { workspace with expectations := workspace.expectations ++ [expectation] })
    | none => (.refused, workspace)
  | .check place site kind check =>
    match at? workspace.expectations place kind with
    | some expectation =>
      (.checked (expectation.check ⟨workspace.environment.current⟩ site check), workspace)
    | none => (.refused, workspace)
  | .install config =>
    (.installed, { workspace with environment := workspace.environment.install config })
  | .load fs path => (.loaded (Config.load fs path), workspace)
  | .discover fs start => (.discovered (Config.discover fs start), workspace)
  | .override config truncateAt pretty =>
    (.overridden (config.withOverrides truncateAt pretty), workspace)

def run (workspace : Workspace) : List Action → List Action.Answer
  | [] => []
  | action :: program => (workspace.step action).1 :: (workspace.step action).2.run program

/-- The workspace after a program. -/
def after (workspace : Workspace) (program : List Action) : Workspace :=
  program.foldl (fun workspace action => (workspace.step action).2) workspace

/-- The configuration in effect after a program: the last one installed, or else the default one. -/
def inEffect (program : List Action) : Config :=
  (program.filterMap Action.installed?).getLast?.getD .initial

/-- What a program gets for its actions on expectations, apart from the texts of values. -/
def verdicts (workspace : Workspace) (program : List Action) : List (Option Verdict) :=
  (workspace.run program).filterMap Action.Answer.verdict?

variable {workspace other : Workspace} {action : Action}

/-- A step creates what its action creates, whatever configuration is in effect. -/
theorem step_expectations (workspace : Workspace) (action : Action) :
    (workspace.step action).2.expectations =
      workspace.expectations ++ (created? workspace.expectations action).toList := by
  cases action with
  | expect kind value label => rfl
  | derive place step =>
    rw [Workspace.step]
    cases created? workspace.expectations (.derive place step) with
    | none => exact (List.append_nil _).symm
    | some expectation => rfl
  | check place site kind check =>
    rw [Workspace.step]
    cases at? workspace.expectations place kind <;> exact (List.append_nil _).symm
  | _ => exact (List.append_nil _).symm

/-- Only an installation changes the configuration in effect. -/
theorem step_current (workspace : Workspace) (action : Action) :
    (workspace.step action).2.environment.current =
      action.installed?.getD workspace.environment.current := by
  cases action with
  | expect kind value label => rfl
  | derive place step =>
    rw [Workspace.step]
    cases created? workspace.expectations (.derive place step) <;> rfl
  | check place site kind check =>
    rw [Workspace.step]
    cases at? workspace.expectations place kind <;> rfl
  | _ => rfl

/-- An action on configurations creates nothing and answers nothing about expectations. -/
theorem step_of_not_onExpectation (workspace : Workspace) (h : action.onExpectation = false) :
    (workspace.step action).1.verdict? = none ∧
      (workspace.step action).2.expectations = workspace.expectations := by
  cases action with
  | expect | derive | check => cases h
  | _ => exact ⟨rfl, rfl⟩

/-- An action on expectations gets the same verdict in workspaces that differ in the configuration
alone. -/
theorem step_verdict? (h : workspace.expectations = other.expectations)
    (ha : action.onExpectation = true) :
    ∃ verdict, (workspace.step action).1.verdict? = some verdict ∧
      (other.step action).1.verdict? = some verdict := by
  cases action with
  | expect kind value label => exact ⟨none, rfl, rfl⟩
  | derive place step =>
    rw [Workspace.step, Workspace.step, h]
    cases created? other.expectations (.derive place step) <;> exact ⟨none, rfl, rfl⟩
  | check place site kind check =>
    rw [Workspace.step, Workspace.step, h]
    cases at? other.expectations place kind with
    | none => exact ⟨none, rfl, rfl⟩
    | some expectation =>
      refine ⟨_, rfl, ?_⟩
      exact congrArg (some ∘ some) (expectation.verdict_check _ _ site check)
  | _ => cases ha

/-- The verdicts of a program are those of its actions on expectations alone. -/
theorem verdicts_filter (h : workspace.expectations = other.expectations)
    (program : List Action) :
    workspace.verdicts program = other.verdicts (program.filter Action.onExpectation) := by
  induction program generalizing workspace other with
  | nil => rfl
  | cons action program ih =>
    cases ha : action.onExpectation with
    | false =>
      obtain ⟨hnone, hsame⟩ := step_of_not_onExpectation workspace ha
      rw [List.filter_cons_of_neg (by simp [ha]), ← ih (hsame.trans h), verdicts, run,
        List.filterMap_cons_none hnone]
      rfl
    | true =>
      obtain ⟨verdict, hv, hv'⟩ := step_verdict? h ha
      have hnext : (workspace.step action).2.expectations = (other.step action).2.expectations := by
        rw [step_expectations, step_expectations, h]
      rw [List.filter_cons_of_pos ha, verdicts, verdicts, run, run, List.filterMap_cons_some hv,
        List.filterMap_cons_some hv']
      exact congrArg (verdict :: ·) (ih hnext)

theorem length_run (workspace : Workspace) (program : List Action) :
    (workspace.run program).length = program.length := by
  induction program generalizing workspace with
  | nil => rfl
  | cons action program ih => rw [run, List.length_cons, List.length_cons, ih]

theorem run_append (workspace : Workspace) (program later : List Action) :
    workspace.run (program ++ later) =
      workspace.run program ++ (workspace.after program).run later := by
  induction program generalizing workspace with
  | nil => rfl
  | cons action program ih => rw [List.cons_append, run, run, ih, List.cons_append]; rfl

theorem after_expectations (workspace : Workspace) (program : List Action) :
    (workspace.after program).expectations =
      program.foldl (fun all action => all ++ (created? all action).toList)
        workspace.expectations := by
  induction program generalizing workspace with
  | nil => rfl
  | cons action program ih =>
    rw [List.foldl_cons, ← step_expectations, ← ih]
    rfl

theorem after_current (workspace : Workspace) (program : List Action) :
    (workspace.after program).environment.current =
      (program.filterMap Action.installed?).getLast?.getD workspace.environment.current := by
  induction program generalizing workspace with
  | nil => rfl
  | cons action program ih =>
    refine (ih _).trans ?_
    rw [step_current, List.filterMap_cons]
    cases action.installed? with
    | none => rfl
    | some config => simp only [List.getLast?_cons, Option.getD_some]

/-- What a program creates does not depend on what it does with configurations. -/
theorem created_filter (program : List Action) :
    created program = created (program.filter Action.onExpectation) := by
  have hquiet (all : List Expectation.Any) (action : Action)
      (h : action.onExpectation = false) : created? all action = none := by
    cases action with
    | expect | derive | check => cases h
    | _ => rfl
  rw [created, created, List.foldl_filter]
  congr 1
  funext all action
  cases h : action.onExpectation with
  | false => simp [hquiet all action h]
  | true => rfl

/-- A check answers for the expectation that was created at its place, by the configuration that is
in effect. -/
theorem run_check (before later : List Action) (place : Nat) (site : Site) (kind : Kind)
    (check : Check kind) :
    (fresh.run (before ++ .check place site kind check :: later))[before.length]? =
      some (match at? (created before) place kind with
        | some expectation => .checked (expectation.check ⟨inEffect before⟩ site check)
        | none => .refused) := by
  rw [run_append, List.getElem?_append_right (Nat.le_of_eq (length_run fresh before)),
    length_run, Nat.sub_self, run]
  have hexpectations : (fresh.after before).expectations = created before :=
    after_expectations fresh before
  have hcurrent : (fresh.after before).environment.current = inEffect before :=
    after_current fresh before
  rw [Workspace.step, hexpectations, hcurrent]
  cases at? (created before) place kind <;> rfl

/-- The configuration enters the texts of values alone. Two programs that do the same with
expectations get the same verdicts, and a verdict holds all of a failure or a usage error but those
texts. A check answers for the expectation at its place by the configuration that was installed
last, or else by the default one, and which expectation that is does not depend on any
configuration. -/
theorem configuration_enters_texts_alone :
    (∀ program other : List Action,
      program.filter Action.onExpectation = other.filter Action.onExpectation →
        fresh.verdicts program = fresh.verdicts other) ∧
    (∀ (before later : List Action) (place : Nat) (site : Site) (kind : Kind) (check : Check kind),
      (fresh.run (before ++ .check place site kind check :: later))[before.length]? =
        some (match at? (created before) place kind with
          | some expectation => .checked (expectation.check ⟨inEffect before⟩ site check)
          | none => .refused)) ∧
    ∀ program : List Action, created program = created (program.filter Action.onExpectation) := by
  refine ⟨?_, ?_, created_filter⟩
  · intro program other h
    rw [verdicts_filter rfl program, h, ← verdicts_filter rfl other]
  · intro before later place site kind check
    exact run_check before later place site kind check

/-- A list is found too short under two configurations. Its length is told in full by both. -/
theorem configuration_enters_texts_alone_length :
    let site : Site := ⟨"tests/cart.rs", 12⟩
    let create : Action := .expect (.sequence .vector .int) [1, 2] none
    let check : Action := .check 0 site (.sequence .vector .int) (.length 3)
    let program := [create, check]
    let other := [.install ⟨2, true⟩, create, .override .initial (some 9) true,
      .install ⟨1, false⟩, check]
    program.filter Action.onExpectation = other.filter Action.onExpectation ∧
    fresh.verdicts program = fresh.verdicts other ∧
    (fresh.run program)[1]? = some (.checked (.error (.assertion
      ⟨.haveLength, "[1, 2]", none, some "3", "2", false, site⟩))) ∧
    (fresh.run other)[4]? = some (.checked (.error (.assertion
      ⟨.haveLength, ".", none, some "3", "2", false, site⟩))) := by
  intro site create check program other
  obtain ⟨hverdicts, hcheck, -⟩ := configuration_enters_texts_alone
  exact ⟨rfl, hverdicts program other rfl, hcheck [create] [] 0 site _ (.length 3),
    hcheck (other.take 4) [] 0 site _ (.length 3)⟩

end Workspace

end Attest
