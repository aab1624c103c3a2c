import Attest.Proofs.Verdicts
import Mathlib.Data.List.Nodup

/-!
# Records and messages of failures

A failure records the check, the polarity, the label and the texts of the values. Its message says
what was asked in a phrase that belongs to one matcher alone, and names what was received where that
differs from the subject. Without a label the subject is the shown value, so the message ends there
for every matcher but one: a length is never mistaken for the text of the value that has it, since no
such text starts with a digit, and cutting it cannot make it do so.
-/

namespace Attest

namespace Text

/-- Whatever a text starts with is no digit. -/
def DigitFreeStart (text : List Char) : Prop :=
  ∀ c ∈ text.head?, c.isDigit = false

theorem digitFreeStart_cons {c : Char} (h : c.isDigit = false) (text : List Char) :
    DigitFreeStart (c :: text) := by
  intro d hd
  cases hd
  exact h

theorem digitFreeStart_ellipsis_take (n : Nat) : DigitFreeStart (ellipsis.take n) := by
  cases n with
  | zero => intro d hd; cases hd
  | succ n => exact digitFreeStart_cons (by decide) _

/-- A cut text starts like the text itself, starts with a dot, or vanishes. -/
theorem digitFreeStart_truncate (width : Nat) {text : List Char} (h : DigitFreeStart text) :
    DigitFreeStart (truncate width text) := by
  by_cases hfits : text.length ≤ width
  · rwa [truncate_of_length_le hfits]
  · rw [truncate_of_lt (Nat.lt_of_not_le hfits)]
    cases hkept : width - 3 with
    | zero => exact digitFreeStart_ellipsis_take width
    | succ n =>
      cases text with
      | nil => exact digitFreeStart_ellipsis_take width
      | cons c text => exact digitFreeStart_cons (h c rfl) _

theorem not_digitFreeStart_toDigits (n : Nat) : ¬ DigitFreeStart (Nat.toDigits 10 n) := by
  intro h
  cases hd : Nat.toDigits 10 n with
  | nil => exact Nat.toDigits_ne_nil hd
  | cons c digits =>
    have hc : c.isDigit = true :=
      Nat.isDigit_of_mem_toDigits (by decide) (by decide) (hd ▸ List.mem_cons_self)
    rw [hd] at h
    simp [h c rfl] at hc

end Text

open Text (DigitFreeStart digitFreeStart_cons)

theorem Layout.exists_enclose_eq_cons (layout : Layout) (c : Char) (opening closing : List Char)
    (items : List (List Char)) : ∃ rest, layout.enclose (c :: opening) closing items = c :: rest := by
  cases items with
  | nil => exact ⟨opening ++ closing, by cases layout <;> rfl⟩
  | cons item items => cases layout <;> exact ⟨_, rfl⟩

theorem Layout.digitFreeStart_enclose (layout : Layout) {c : Char} (h : c.isDigit = false)
    (opening closing : List Char) (items : List (List Char)) :
    DigitFreeStart (layout.enclose (c :: opening) closing items) := by
  obtain ⟨rest, hrest⟩ := layout.exists_enclose_eq_cons c opening closing items
  rw [hrest]
  exact digitFreeStart_cons h rest

/-- A document with a length is shown under its name. -/
theorem Json.digitFreeStart_shown (layout : Layout) {document : Json} {n : Nat}
    (h : document.length? = some n) : DigitFreeStart (document.shown layout) := by
  cases document with
  | null | bool _ | number _ => cases h
  | string s => exact digitFreeStart_cons (c := 'S') (by decide) _
  | array items => exact digitFreeStart_cons (c := 'A') (by decide) _
  | object fields => exact digitFreeStart_cons (c := 'O') (by decide) _

/-- A value with a length is shown between quotes or brackets, or under a name. -/
theorem Kind.digitFreeStart_shown (kind : Kind) (layout : Layout) {value : kind.Value} {n : Nat}
    (h : kind.length? value = some n) : DigitFreeStart (kind.shown layout value) := by
  induction kind with
  | text => exact digitFreeStart_cons (c := '"') (by decide) _
  | json => exact Json.digitFreeStart_shown layout h
  | sequence form item => exact Layout.digitFreeStart_enclose layout (by decide) _ _ _
  | set arrangement item => exact Layout.digitFreeStart_enclose layout (by decide) _ _ _
  | map arrangement key value => exact Layout.digitFreeStart_enclose layout (by decide) _ _ _
  | pointer form target ih => exact ih h
  | _ => cases h

/-- The shown text of a value with a length is no number, at any width. -/
theorem Renderer.toString_ne_render (renderer : Renderer) (kind : Kind) {value : kind.Value}
    {n : Nat} (h : kind.length? value = some n) (m : Nat) :
    toString m ≠ renderer.render kind value := by
  intro heq
  have hdigits : Nat.toDigits 10 m =
      Text.truncate renderer.config.truncateAt (kind.shown renderer.config.layout value) :=
    String.ofList_injective heq
  apply Text.not_digitFreeStart_toDigits m
  rw [hdigits]
  exact Text.digitFreeStart_truncate _ (kind.digitFreeStart_shown _ h)

namespace Matcher

theorem phrase_ne_empty (matcher : Matcher) : matcher.phrase ≠ "" := by
  cases matcher <;> decide

/-- Different matchers go by different phrases. -/
theorem phrase_inj {matcher other : Matcher} (h : matcher.phrase = other.phrase) : matcher = other :=
  List.inj_on_of_nodup_map (by decide) matcher.mem_all other.mem_all h

end Matcher

/-- The message of a failure up to the clause on what was received. -/
def AssertionFailure.question (failure : AssertionFailure) : String :=
  "expected " ++ failure.subject ++ (if failure.negated then " not to " else " to ")
    ++ failure.matcher.phrase ++ (failure.expected.map (" " ++ ·)).getD ""

theorem AssertionFailure.message_eq (failure : AssertionFailure) :
    failure.message = failure.question ++
      (if failure.received = failure.subject then "" else ", received " ++ failure.received) := by
  rw [message, question]
  cases failure.expected <;> rfl

namespace Check

variable {kind : Kind}

theorem operand?_eq_none_iff (check : Check kind) :
    check.operand? = Option.none ↔
      check.matcher = .truthy ∨ check.matcher = .falsy ∨ check.matcher = .none := by
  cases check with
  | ordered relation operand => cases relation <;> simp [operand?, matcher, Relation.matcher]
  | _ => simp [operand?, matcher]

theorem measured?_of_ne {check : Check kind} (h : check.matcher ≠ .haveLength)
    (value : kind.Value) : check.measured? value = Option.none := by
  cases check with
  | length n => exact absurd rfl h
  | _ => rfl

/-- A length check with an outcome has a length to show. -/
theorem measured?_of_outcome {check : Check kind} {value : kind.Value} {outcome : Bool}
    (hm : check.matcher = .haveLength) (h : check.outcome value = .ok outcome) :
    ∃ n, kind.length? value = some n ∧ check.measured? value = some (toString n) := by
  cases check with
  | length m =>
    cases hl : kind.length? value with
    | none => simp [Check.outcome, hl] at h
    | some n => exact ⟨n, rfl, by rw [measured?, hl]; rfl⟩
  | ordered relation operand => cases relation <;> cases hm
  | _ => cases hm

end Check

namespace Expectation

variable {kind : Kind} {renderer : Renderer} {site : Site} {expectation : Expectation kind}
  {check : Check kind}

theorem subject_eq (renderer : Renderer) (expectation : Expectation kind) :
    expectation.subject renderer =
      expectation.label.getD (renderer.render kind expectation.value) := by
  rw [subject]
  cases expectation.label <;> rfl

/-- A failed check had the polarity for its outcome, and its failure records all that was asked. -/
theorem failure_of_check {failure : AssertionFailure}
    (h : expectation.check renderer site check = .error (.assertion failure)) :
    check.outcome expectation.value = .ok expectation.negated ∧
    failure = {
      matcher := check.matcher
      subject := expectation.subject renderer
      label := expectation.label
      expected := check.expected renderer
      received := (check.measured? expectation.value).getD
        (renderer.render kind expectation.value)
      negated := expectation.negated
      site } := by
  cases ho : check.outcome expectation.value with
  | error obstacle =>
    rw [check_of_obstacle ho] at h
    cases h
  | ok outcome =>
    rw [check_of_outcome ho, evaluate] at h
    split at h
    · cases h
    · rename_i hne
      cases h
      exact ⟨congrArg Except.ok (by simpa using hne), rfl⟩

end Expectation

/-- What a failure reports of the check that failed. -/
structure AssertionFailure.Reports {kind : Kind} (failure : AssertionFailure) (renderer : Renderer)
    (site : Site) (expectation : Expectation kind) (check : Check kind) : Prop where
  matcher_eq : failure.matcher = check.matcher
  negated_eq : failure.negated = expectation.negated
  label_eq : failure.label = expectation.label
  site_eq : failure.site = site
  expected_eq : failure.expected =
    check.operand?.map fun operand => renderer.render operand.1 operand.2
  expected_eq_none_iff : failure.expected = none ↔
    check.matcher = .truthy ∨ check.matcher = .falsy ∨ check.matcher = .none
  received_value : check.matcher ≠ .haveLength →
    failure.received = renderer.render kind expectation.value
  received_length : check.matcher = .haveLength →
    ∃ n, kind.length? expectation.value = some n ∧ failure.received = toString n
  subject_eq : failure.subject =
    expectation.label.getD (renderer.render kind expectation.value)
  phrase_ne : failure.matcher.phrase ≠ ""
  /-- The phrase of the message tells which matcher it was. -/
  phrase_inj : ∀ other : Matcher, other.phrase = failure.matcher.phrase → other = check.matcher
  message_eq : failure.message = failure.question ++
    (if failure.received = failure.subject then "" else ", received " ++ failure.received)
  message_value : expectation.label = none → check.matcher ≠ .haveLength →
    failure.message = failure.question
  message_length : expectation.label = none → check.matcher = .haveLength →
    ∃ n, kind.length? expectation.value = some n ∧
      failure.message = failure.question ++ ", received " ++ toString n

/-- The record and the message of every failure. The record holds the matcher, the polarity, the
label and the shown operand, and what was received: the shown value, or its length in full where
that was in question. The message has the phrase of the matcher and of no other one, and it ends with
what was received exactly where that differs from the subject; without a label this is so for
lengths, always, and for nothing else. -/
theorem failure_reports {kind : Kind} {renderer : Renderer} {site : Site}
    {expectation : Expectation kind} {check : Check kind} {failure : AssertionFailure}
    (h : expectation.check renderer site check = .error (.assertion failure)) :
    failure.Reports renderer site expectation check := by
  obtain ⟨ho, rfl⟩ := Expectation.failure_of_check h
  have hsubject := expectation.subject_eq renderer
  have hvalue (hm : check.matcher ≠ .haveLength) :
      (check.measured? expectation.value).getD (renderer.render kind expectation.value) =
        renderer.render kind expectation.value := by
    rw [Check.measured?_of_ne hm, Option.getD_none]
  have hlength (hm : check.matcher = .haveLength) : ∃ n, kind.length? expectation.value = some n ∧
      (check.measured? expectation.value).getD (renderer.render kind expectation.value) =
        toString n := by
    obtain ⟨n, hn, hmeasured⟩ := Check.measured?_of_outcome hm ho
    exact ⟨n, hn, by rw [hmeasured, Option.getD_some]⟩
  refine ⟨rfl, rfl, rfl, rfl, rfl, ?_, hvalue, hlength, hsubject, Matcher.phrase_ne_empty _,
    fun _ => Matcher.phrase_inj, AssertionFailure.message_eq _, ?_, ?_⟩
  · rw [← Check.operand?_eq_none_iff]
    exact Option.map_eq_none_iff
  · intro hl hm
    rw [hl, Option.getD_none] at hsubject
    rw [AssertionFailure.message_eq, if_pos ((hvalue hm).trans hsubject.symm),
      String.append_empty]
  · intro hl hm
    rw [hl, Option.getD_none] at hsubject
    obtain ⟨n, hn, hr⟩ := hlength hm
    refine ⟨n, hn, ?_⟩
    rw [AssertionFailure.message_eq, if_neg, hr, String.append_assoc]
    rw [hr, hsubject]
    exact renderer.toString_ne_render kind hn n

/-- A list of which two dots are left still comes with its length. -/
theorem failure_reports_cut_list :
    (Expectation.ofValue [1, 2] none : Expectation (.sequence .vector .int)).check ⟨⟨2, false⟩⟩
      ⟨"tests/cart.rs", 12⟩ (.length 3) =
      .error (.assertion ⟨.haveLength, "..", none, some "3", "2", false, ⟨"tests/cart.rs", 12⟩⟩) ∧
    AssertionFailure.Reports
      ⟨.haveLength, "..", none, some "3", "2", false, ⟨"tests/cart.rs", 12⟩⟩ ⟨⟨2, false⟩⟩
      ⟨"tests/cart.rs", 12⟩
      (Expectation.ofValue [1, 2] none : Expectation (.sequence .vector .int)) (.length 3) :=
  ⟨rfl, failure_reports rfl⟩

end Attest
