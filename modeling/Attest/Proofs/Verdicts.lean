import Attest.Expectation
import Mathlib.Algebra.Ring.Parity

/-!
# Verdicts of checks

A check has an outcome before any polarity is applied, or an obstacle that leaves it without one.
Every matcher applies the polarity to its outcome exactly once and reports its obstacle untouched, so
an expectation and its negation share their usage errors and otherwise part: one of them passes and
the other one fails. This holds of every expectation that negations and labels derive from a value.
-/

namespace Attest

/-- What leaves a check without an outcome. -/
inductive Obstacle where
  | notComparable
  | cannotHold
  | noLength
  | noText
  | invalidPattern (pattern : String) (fault : Regex.Fault)
deriving DecidableEq, Repr

namespace Check

variable {kind : Kind}

/-- Whether a value is as a check asks, regardless of polarity. -/
def outcome : Check kind → kind.Value → Except Obstacle Bool
  | equal other operand, value => .ok (kind.agrees value other operand)
  | same operand, value => .ok (kind.same value operand)
  | truthy, value => .ok (kind.isTrue value)
  | falsy, value => .ok (!kind.isTrue value)
  | none, value => .ok (kind.isNone value)
  | ordered relation operand, value =>
    match kind.compare? value operand with
    | some order => .ok (relation.accepts order)
    | Option.none => .error .notComparable
  | contain other item, value =>
    match kind.contains? value other item with
    | some found => .ok found
    | Option.none => .error .cannotHold
  | length n, value =>
    match kind.length? value with
    | some actual => .ok (actual == n)
    | Option.none => .error .noLength
  | pattern source, value =>
    match kind.text? value with
    | Option.none => .error .noText
    | some text =>
      match Regex.ofPattern source.toList with
      | .ok regex => .ok (regex.matchesIn text.toList)
      | .error fault => .error (.invalidPattern source fault)

/-- The operand of a check, for the nine matchers that take one. -/
def operand? : Check kind → Option Kind.Any
  | equal other operand => some ⟨other, operand⟩
  | same operand => some ⟨kind, operand⟩
  | truthy | falsy | none => Option.none
  | ordered _ operand => some ⟨kind, operand⟩
  | contain other item => some ⟨other, item⟩
  | length n => some ⟨.int, (n : Int)⟩
  | pattern source => some ⟨.text, source⟩

/-- The shown operand. -/
def expected (renderer : Renderer) (check : Check kind) : Option String :=
  check.operand?.map fun operand => renderer.render operand.1 operand.2

/-- The length that a length check finds, in decimal and in full. -/
def measured? : Check kind → kind.Value → Option String
  | length _, value => (kind.length? value).map fun actual => .ofList (Nat.toDigits 10 actual)
  | _, _ => Option.none

end Check

/-- The usage error that an obstacle leads to. -/
def Obstacle.usageError {kind : Kind} (renderer : Renderer) (check : Check kind) (subject : String) :
    Obstacle → UsageError
  | notComparable => .notComparable check.matcher subject ((check.expected renderer).getD "")
  | cannotHold => .unsupported check.matcher subject "value cannot hold an item of this kind"
  | noLength => .unsupported check.matcher subject "value has no length"
  | noText => .unsupported check.matcher subject "value is not a string"
  | invalidPattern pattern fault => .invalidPattern check.matcher pattern fault.message

namespace Expectation

variable {kind : Kind} {renderer : Renderer} {site : Site} {expectation : Expectation kind}
  {check : Check kind}

/-- A check passes. -/
def Passes (renderer : Renderer) (site : Site) (expectation : Expectation kind)
    (check : Check kind) : Prop :=
  expectation.check renderer site check = .ok ()

/-- A check fails, and the failure records the polarity of the expectation that was asked. -/
def Fails (renderer : Renderer) (site : Site) (expectation : Expectation kind)
    (check : Check kind) : Prop :=
  ∃ failure : AssertionFailure, expectation.check renderer site check = .error (.assertion failure) ∧
    failure.negated = expectation.negated

/-- All that a check does: it reports its obstacle, or else applies the polarity to its outcome. -/
theorem check_eq (renderer : Renderer) (site : Site) (expectation : Expectation kind)
    (check : Check kind) :
    expectation.check renderer site check =
      match check.outcome expectation.value with
      | .error obstacle =>
        .error (.usage (obstacle.usageError renderer check (expectation.subject renderer)))
      | .ok outcome =>
        expectation.evaluate renderer site check.matcher outcome (check.expected renderer)
          (check.measured? expectation.value) := by
  cases check with
  | ordered relation operand =>
    simp only [Expectation.check, compare, Check.outcome]
    cases kind.compare? expectation.value operand <;> rfl
  | contain other item =>
    simp only [Expectation.check, contain, Check.outcome]
    cases kind.contains? expectation.value other item <;> rfl
  | length n =>
    simp only [Expectation.check, haveLength, Check.outcome, Check.measured?]
    cases kind.length? expectation.value <;> rfl
  | pattern source =>
    simp only [Expectation.check, matchPattern, Check.outcome]
    cases kind.text? expectation.value with
    | none => rfl
    | some text =>
      dsimp only
      cases Regex.ofPattern source.toList <;> rfl
  | _ => rfl

theorem check_of_obstacle {obstacle : Obstacle}
    (h : check.outcome expectation.value = .error obstacle) :
    expectation.check renderer site check =
      .error (.usage (obstacle.usageError renderer check (expectation.subject renderer))) := by
  rw [check_eq, h]

theorem check_of_outcome {outcome : Bool} (h : check.outcome expectation.value = .ok outcome) :
    expectation.check renderer site check =
      expectation.evaluate renderer site check.matcher outcome (check.expected renderer)
        (check.measured? expectation.value) := by
  rw [check_eq, h]

theorem passes_of_ne {outcome : Bool} (h : check.outcome expectation.value = .ok outcome)
    (hne : outcome ≠ expectation.negated) : expectation.Passes renderer site check := by
  rw [Passes, check_of_outcome h, evaluate, if_pos (by simpa using hne)]

theorem fails_of_eq {outcome : Bool} (h : check.outcome expectation.value = .ok outcome)
    (heq : outcome = expectation.negated) : expectation.Fails renderer site check := by
  rw [Fails, check_of_outcome h, evaluate, if_neg (by simpa using heq)]
  exact ⟨_, rfl, rfl⟩

theorem passes_iff {outcome : Bool} (h : check.outcome expectation.value = .ok outcome) :
    expectation.Passes renderer site check ↔ outcome ≠ expectation.negated := by
  refine ⟨fun hpass heq => ?_, passes_of_ne h⟩
  obtain ⟨failure, hfail, -⟩ : expectation.Fails renderer site check := fails_of_eq h heq
  rw [Passes, hfail] at hpass
  cases hpass

theorem fails_iff {outcome : Bool} (h : check.outcome expectation.value = .ok outcome) :
    expectation.Fails renderer site check ↔ outcome = expectation.negated := by
  refine ⟨fun ⟨failure, hfail, _⟩ => ?_, fails_of_eq h⟩
  by_contra hne
  have hpass : expectation.Passes renderer site check := passes_of_ne h hne
  rw [Passes, hfail] at hpass
  cases hpass

/-- A check that has an outcome passes or fails. -/
theorem passes_or_fails {outcome : Bool} (h : check.outcome expectation.value = .ok outcome) :
    expectation.Passes renderer site check ∨ expectation.Fails renderer site check := by
  by_cases heq : outcome = expectation.negated
  · exact Or.inr (fails_of_eq h heq)
  · exact Or.inl (passes_of_ne h heq)

section plain

variable {outcome : Bool} (hplain : expectation.negated = false)
include hplain

theorem passes_iff_of_plain (h : check.outcome expectation.value = .ok outcome) :
    expectation.Passes renderer site check ↔ outcome = true := by
  rw [passes_iff h, hplain, Bool.ne_false_iff]

theorem fails_iff_of_plain (h : check.outcome expectation.value = .ok outcome) :
    expectation.Fails renderer site check ↔ outcome = false := by
  rw [fails_iff h, hplain]

end plain

variable {value : kind.Value} {label : Option String} {outcome : Bool}

/-- An expectation on a value as it is passes when the value is as the check asks. -/
theorem passes_ofValue_iff (h : check.outcome value = .ok outcome) :
    (ofValue value label).Passes renderer site check ↔ outcome = true :=
  passes_iff_of_plain rfl h

theorem fails_ofValue_iff (h : check.outcome value = .ok outcome) :
    (ofValue value label).Fails renderer site check ↔ outcome = false :=
  fails_iff_of_plain rfl h

section condition

variable {p : Prop} (h : check.outcome expectation.value = .ok outcome) (hp : outcome = true ↔ p)
include h hp

/-- A check that asks for a condition passes where the condition holds, unless it is negated. -/
theorem passes_iff_condition :
    expectation.Passes renderer site check ↔ (p ↔ expectation.negated = false) := by
  rw [passes_iff h, ← hp]
  cases outcome <;> cases expectation.negated <;> decide

theorem fails_iff_condition :
    expectation.Fails renderer site check ↔ (p ↔ expectation.negated = true) := by
  rw [fails_iff h, ← hp]
  cases outcome <;> cases expectation.negated <;> decide

end condition

/-- Two checks pass together and fail together. -/
structure SameVerdict {kind kind' : Kind} (renderer : Renderer) (site site' : Site)
    (expectation : Expectation kind) (check : Check kind) (expectation' : Expectation kind')
    (check' : Check kind') : Prop where
  passes : expectation.Passes renderer site check ↔ expectation'.Passes renderer site' check'
  fails : expectation.Fails renderer site check ↔ expectation'.Fails renderer site' check'

theorem sameVerdict_of_outcome {kind' : Kind} {site' : Site} {expectation' : Expectation kind'}
    {check' : Check kind'} {outcome outcome' : Bool}
    (h : check.outcome expectation.value = .ok outcome)
    (h' : check'.outcome expectation'.value = .ok outcome')
    (hiff : outcome = expectation.negated ↔ outcome' = expectation'.negated) :
    SameVerdict renderer site site' expectation check expectation' check' where
  passes := (passes_iff h).trans ((not_congr hiff).trans (passes_iff h').symm)
  fails := (fails_iff h).trans (hiff.trans (fails_iff h').symm)

/-- Negation keeps the value and the label, hence what messages call the value. -/
theorem subject_not (renderer : Renderer) (expectation : Expectation kind) :
    expectation.not.subject renderer = expectation.subject renderer := rfl

theorem not_not (expectation : Expectation kind) : expectation.not.not = expectation := by
  cases expectation
  simp [Expectation.not]

end Expectation

/-- A step that derives an expectation from another one. -/
inductive Derivation where
  | negation
  | labeling (label : String)
deriving DecidableEq, Repr

/-- The label that a step gives. -/
def Derivation.label? : Derivation → Option String
  | negation => none
  | labeling label => some label

namespace Expectation

variable {kind : Kind}

/-- Takes one step. -/
def step (expectation : Expectation kind) : Derivation → Expectation kind
  | .negation => expectation.not
  | .labeling label => expectation.labeled label

/-- Takes steps one after the other. -/
def derive (expectation : Expectation kind) (steps : List Derivation) : Expectation kind :=
  steps.foldl step expectation

theorem derive_value (expectation : Expectation kind) (steps : List Derivation) :
    (expectation.derive steps).value = expectation.value := by
  induction steps generalizing expectation with
  | nil => rfl
  | cons d steps ih => cases d <;> exact ih _

/-- Each negation turns the polarity over. -/
theorem derive_negated (expectation : Expectation kind) (steps : List Derivation) :
    (expectation.derive steps).negated =
      (expectation.negated ^^ decide (Odd (steps.count .negation))) := by
  induction steps generalizing expectation with
  | nil => simp [derive]
  | cons d steps ih =>
    cases d with
    | negation =>
      refine (ih expectation.not).trans ?_
      have hodd : decide (Odd (steps.count .negation + 1)) =
          !decide (Odd (steps.count .negation)) :=
        (decide_eq_decide.mpr Nat.odd_add_one).trans decide_not
      rw [List.count_cons_self, hodd, Expectation.not]
      simp
    | labeling label =>
      refine (ih (expectation.labeled label)).trans ?_
      rw [List.count_cons_of_ne (by simp)]
      rfl

/-- The last label counts. -/
theorem derive_label (expectation : Expectation kind) (steps : List Derivation) :
    (expectation.derive steps).label =
      ((steps.filterMap Derivation.label?).getLast?).or expectation.label := by
  induction steps generalizing expectation with
  | nil => rfl
  | cons d steps ih =>
    cases d with
    | negation => exact ih expectation.not
    | labeling label =>
      refine (ih (expectation.labeled label)).trans ?_
      simp only [List.filterMap_cons, Derivation.label?, List.getLast?_cons]
      cases (steps.filterMap Derivation.label?).getLast? <;> rfl

end Expectation

/-- Negation duality. An expectation derived from a value keeps the value, is negated by an odd
number of negations and carries the last label. A check that has no outcome gives it and its
negation the same usage error; a check that has one passes for exactly one of the two, for the
expectation itself when the outcome differs from its polarity, and fails for the other one. -/
theorem derived_check_dual {kind : Kind} (renderer : Renderer) (site site' : Site)
    (value : kind.Value) (label : Option String) (steps : List Derivation) (check : Check kind) :
    let expectation := (Expectation.ofValue value label).derive steps
    expectation.value = value ∧
    (expectation.negated = true ↔ Odd (steps.count .negation)) ∧
    expectation.label = ((steps.filterMap Derivation.label?).getLast?).or label ∧
    expectation.not.not = expectation ∧
    match check.outcome value with
    | .error obstacle =>
      expectation.check renderer site check =
        .error (.usage (obstacle.usageError renderer check (expectation.subject renderer))) ∧
      expectation.not.check renderer site' check = expectation.check renderer site check
    | .ok outcome =>
      (outcome ≠ expectation.negated ∧ expectation.Passes renderer site check ∧
        expectation.not.Fails renderer site' check) ∨
      (outcome = expectation.negated ∧ expectation.Fails renderer site check ∧
        expectation.not.Passes renderer site' check) := by
  intro expectation
  have hvalue : expectation.value = value := Expectation.derive_value _ steps
  have hnegated : expectation.negated = decide (Odd (steps.count .negation)) :=
    (Expectation.derive_negated _ steps).trans (Bool.false_xor _)
  refine ⟨hvalue, by simp [hnegated], Expectation.derive_label _ steps,
    Expectation.not_not expectation, ?_⟩
  cases h : check.outcome value with
  | error obstacle =>
    have he : check.outcome expectation.value = .error obstacle := by rw [hvalue, h]
    have hn : check.outcome expectation.not.value = .error obstacle := he
    refine ⟨Expectation.check_of_obstacle he, ?_⟩
    rw [Expectation.check_of_obstacle he, Expectation.check_of_obstacle hn,
      Expectation.subject_not]
  | ok outcome =>
    have he : check.outcome expectation.value = .ok outcome := by rw [hvalue, h]
    have hn : check.outcome expectation.not.value = .ok outcome := he
    by_cases hp : outcome = expectation.negated
    · refine Or.inr ⟨hp, Expectation.fails_of_eq he hp, Expectation.passes_of_ne hn ?_⟩
      simp [Expectation.not, hp]
    · refine Or.inl ⟨hp, Expectation.passes_of_ne he hp, Expectation.fails_of_eq hn ?_⟩
      exact Bool.eq_not_of_ne hp

end Attest
