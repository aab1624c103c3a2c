import Attest.Proofs.ConsistentOrder

/-!
# Values behind stacks of pointers

Each pointer passes every question on to its target, and so does a stack of pointers to what the
innermost one leads to. The text of a value and its comparison with values behind pointers like its own
go through the stack too. So every check but the one for identity, which asks for the outermost pointer
itself, has the same answer for a value and for pointers to it, up to the place of the call.
-/

namespace Attest

namespace Kind

variable {kind : Kind}

/-- A kind behind a stack of pointers, the outermost first. -/
@[reducible] def behind (kind : Kind) : List PointerForm → Kind
  | [] => kind
  | form :: forms => .pointer form (kind.behind forms)

/-- What the innermost pointer of a stack leads to. -/
def innermost : (forms : List PointerForm) → (kind.behind forms).Value → kind.Value
  | [], value => value
  | _ :: forms, p => innermost forms p.target

theorem exists_innermost_eq (forms : List PointerForm) (value : kind.Value) :
    ∃ wrapped : (kind.behind forms).Value, innermost forms wrapped = value := by
  induction forms with
  | nil => exact ⟨value, rfl⟩
  | cons form forms ih =>
    obtain ⟨wrapped, h⟩ := ih
    exact ⟨⟨.nowhere, wrapped⟩, h⟩

variable (forms : List PointerForm) (wrapped : (kind.behind forms).Value)

/-- What one pointer passes on to its target, a stack passes on to what it leads to. -/
theorem passedOn {β : Type} (question : (kind : Kind) → kind.Value → β)
    (forwards : ∀ (form : PointerForm) (target : Kind) (p : Pointer target.Value),
      question (.pointer form target) p = question target p.target) :
    question (kind.behind forms) wrapped = question kind (innermost forms wrapped) := by
  induction forms with
  | nil => rfl
  | cons form forms ih =>
    calc question (kind.behind (form :: forms)) wrapped
        = question (kind.behind forms) wrapped.target := forwards form (kind.behind forms) wrapped
      _ = question kind (innermost forms wrapped.target) := ih wrapped.target

/-- What pointers pass on to their targets is asked of the value behind all of them. -/
theorem passedOn_bare {β : Type} (question : (kind : Kind) → kind.Value → β)
    (forwards : ∀ (form : PointerForm) (target : Kind) (p : Pointer target.Value),
      question (.pointer form target) p = question target p.target) (value : kind.Value) :
    question kind value = question (bare kind value).1 (bare kind value).2 := by
  induction kind with
  | pointer form target ih => exact (forwards form target value).trans (ih value.target)
  | _ => rfl

theorem isTrue_behind : (kind.behind forms).isTrue wrapped = kind.isTrue (innermost forms wrapped) :=
  passedOn forms wrapped isTrue fun _ _ _ => rfl

theorem isNone_behind : (kind.behind forms).isNone wrapped = kind.isNone (innermost forms wrapped) :=
  passedOn forms wrapped isNone fun _ _ _ => rfl

theorem length?_behind :
    (kind.behind forms).length? wrapped = kind.length? (innermost forms wrapped) :=
  passedOn forms wrapped length? fun _ _ _ => rfl

theorem text?_behind : (kind.behind forms).text? wrapped = kind.text? (innermost forms wrapped) :=
  passedOn forms wrapped text? fun _ _ _ => rfl

theorem contains?_behind (other : Kind) (item : other.Value) :
    (kind.behind forms).contains? wrapped other item =
      kind.contains? (innermost forms wrapped) other item :=
  passedOn forms wrapped (fun kind value => kind.contains? value other item) fun _ _ _ => rfl

theorem shown_behind (layout : Layout) :
    (kind.behind forms).shown layout wrapped = kind.shown layout (innermost forms wrapped) :=
  passedOn forms wrapped (fun kind value => kind.shown layout value) fun _ _ _ => rfl

theorem compare?_behind (operand : (kind.behind forms).Value) :
    (kind.behind forms).compare? wrapped operand =
      kind.compare? (innermost forms wrapped) (innermost forms operand) := by
  induction forms with
  | nil => rfl
  | cons form forms ih => exact ih wrapped.target operand.target

/-- Equality looks through a stack of pointers on either side. -/
theorem agrees_behind (other : Kind) (operand : (other.behind forms).Value) :
    agrees (kind.behind forms) wrapped (other.behind forms) operand =
      agrees kind (innermost forms wrapped) other (innermost forms operand) := by
  induction forms with
  | nil => rfl
  | cons form forms ih =>
    -- the left pointer is looked through by definition, the right one by a law of its own
    have hright := agrees_pointer (kind.behind forms) wrapped.target form (other.behind forms) operand
    exact hright.trans (ih wrapped.target operand.target)

end Kind

theorem Renderer.render_behind (renderer : Renderer) {kind : Kind} (forms : List PointerForm)
    (wrapped : (kind.behind forms).Value) :
    renderer.render (kind.behind forms) wrapped =
      renderer.render kind (Kind.innermost forms wrapped) := by
  rw [render, render, Kind.shown_behind]

namespace Check

variable {forms : List PointerForm} {kind : Kind} {check : Check (kind.behind forms)}
  {check' : Check kind}

/-- One question, put to pointers and to what they lead to. An operand that is compared with the value is
wrapped as the value is, by pointers of its own. Whether two values are the same is no such question. -/
inductive Behind (forms : List PointerForm) (kind : Kind) : Check (kind.behind forms) → Check kind → Prop
    where
  | equal (other : Kind) (operand : (other.behind forms).Value) :
    Behind forms kind (.equal (other.behind forms) operand)
      (.equal other (Kind.innermost forms operand))
  | truthy : Behind forms kind .truthy .truthy
  | falsy : Behind forms kind .falsy .falsy
  | none : Behind forms kind .none .none
  | ordered (relation : Relation) (operand : (kind.behind forms).Value) :
    Behind forms kind (.ordered relation operand) (.ordered relation (Kind.innermost forms operand))
  | contain (other : Kind) (item : other.Value) :
    Behind forms kind (.contain other item) (.contain other item)
  | length (n : Nat) : Behind forms kind (.length n) (.length n)
  | pattern (source : String) : Behind forms kind (.pattern source) (.pattern source)

namespace Behind

/-- Every question but that for identity can be put to pointers as well. -/
theorem exists_of_ne_same (forms : List PointerForm) (h : check'.matcher ≠ .same) :
    ∃ check, Behind forms kind check check' := by
  cases check' with
  | equal other operand =>
    obtain ⟨wrapped, rfl⟩ := Kind.exists_innermost_eq forms operand
    exact ⟨_, .equal other wrapped⟩
  | same operand => exact absurd rfl h
  | truthy => exact ⟨_, .truthy⟩
  | falsy => exact ⟨_, .falsy⟩
  | none => exact ⟨_, .none⟩
  | ordered relation operand =>
    obtain ⟨wrapped, rfl⟩ := Kind.exists_innermost_eq forms operand
    exact ⟨_, .ordered relation wrapped⟩
  | contain other item => exact ⟨_, .contain other item⟩
  | length n => exact ⟨_, .length n⟩
  | pattern source => exact ⟨_, .pattern source⟩

theorem matcher_eq (h : Behind forms kind check check') : check.matcher = check'.matcher := by
  cases h <;> rfl

theorem outcome_eq (h : Behind forms kind check check') (wrapped : (kind.behind forms).Value) :
    check.outcome wrapped = check'.outcome (Kind.innermost forms wrapped) := by
  cases h with
  | equal other operand => rw [outcome, outcome, Kind.agrees_behind]
  | truthy => rw [outcome, outcome, Kind.isTrue_behind]
  | falsy => rw [outcome, outcome, Kind.isTrue_behind]
  | none => rw [outcome, outcome, Kind.isNone_behind]
  | ordered relation operand => rw [outcome, outcome, Kind.compare?_behind]
  | contain other item => rw [outcome, outcome, Kind.contains?_behind]
  | length n => rw [outcome, outcome, Kind.length?_behind]
  | pattern source => rw [outcome, outcome, Kind.text?_behind]

theorem expected_eq (h : Behind forms kind check check') (renderer : Renderer) :
    check.expected renderer = check'.expected renderer := by
  cases h with
  | equal other operand => exact congrArg some (renderer.render_behind forms operand)
  | ordered relation operand => exact congrArg some (renderer.render_behind forms operand)
  | _ => rfl

theorem measured?_eq (h : Behind forms kind check check') (wrapped : (kind.behind forms).Value) :
    check.measured? wrapped = check'.measured? (Kind.innermost forms wrapped) := by
  cases h with
  | length n => rw [measured?, measured?, Kind.length?_behind]
  | _ => rfl

theorem usageError_eq (h : Behind forms kind check check') (renderer : Renderer) (subject : String)
    (obstacle : Obstacle) :
    obstacle.usageError renderer check subject = obstacle.usageError renderer check' subject := by
  cases obstacle <;> simp only [Obstacle.usageError, h.matcher_eq, h.expected_eq]

end Behind

end Check

/-- Two answers are the same, but that failures may come from different calls. -/
inductive SameAnswer : Except ExpectError Unit → Except ExpectError Unit → Prop where
  | pass : SameAnswer (.ok ()) (.ok ())
  | usage (error : UsageError) : SameAnswer (.error (.usage error)) (.error (.usage error))
  | fail (failure : AssertionFailure) (site : Site) :
    SameAnswer (.error (.assertion failure)) (.error (.assertion { failure with site }))

namespace Expectation

variable {forms : List PointerForm} {kind : Kind} {check : Check (kind.behind forms)}
  {check' : Check kind}

/-- A check answers the same wherever it is called. -/
theorem sameAnswer_site (renderer : Renderer) (site site' : Site) (expectation : Expectation kind)
    (check : Check kind) :
    SameAnswer (expectation.check renderer site check) (expectation.check renderer site' check) := by
  rw [check_eq, check_eq]
  cases check.outcome expectation.value with
  | error obstacle => exact .usage _
  | ok outcome =>
    simp only [evaluate]
    split
    · exact .pass
    · exact .fail _ site'

def innermost (forms : List PointerForm) (expectation : Expectation (kind.behind forms)) :
    Expectation kind :=
  ⟨Kind.innermost forms expectation.value, expectation.negated, expectation.label⟩

theorem subject_innermost (renderer : Renderer) (expectation : Expectation (kind.behind forms)) :
    expectation.subject renderer = (expectation.innermost forms).subject renderer := by
  obtain ⟨wrapped, negated, label⟩ := expectation
  cases label with
  | none => exact renderer.render_behind forms wrapped
  | some label => rfl

theorem check_innermost (h : Check.Behind forms kind check check') (renderer : Renderer) (site : Site)
    (expectation : Expectation (kind.behind forms)) :
    expectation.check renderer site check =
      (expectation.innermost forms).check renderer site check' := by
  have houtcome := h.outcome_eq expectation.value
  have hmeasured := h.measured?_eq expectation.value
  have hsubject := subject_innermost renderer expectation
  have hreceived := renderer.render_behind forms expectation.value
  rw [check_eq, check_eq, innermost, houtcome, hsubject]
  cases check'.outcome (Kind.innermost forms expectation.value) with
  | error obstacle => simp only [h.usageError_eq, innermost]
  | ok outcome =>
    simp only [evaluate, hsubject, hreceived, h.matcher_eq, h.expected_eq, hmeasured, innermost]

end Expectation

/-- What a stack of pointers leaves of a value as it is. -/
structure Kind.TransparentBehind {kind : Kind} (forms : List PointerForm)
    (wrapped : (kind.behind forms).Value) : Prop where
  isTrue_eq : (kind.behind forms).isTrue wrapped = kind.isTrue (innermost forms wrapped)
  isNone_eq : (kind.behind forms).isNone wrapped = kind.isNone (innermost forms wrapped)
  length?_eq : (kind.behind forms).length? wrapped = kind.length? (innermost forms wrapped)
  text?_eq : (kind.behind forms).text? wrapped = kind.text? (innermost forms wrapped)
  contains?_eq : ∀ (other : Kind) (item : other.Value),
    (kind.behind forms).contains? wrapped other item =
      kind.contains? (innermost forms wrapped) other item
  render_eq : ∀ renderer : Renderer,
    renderer.render (kind.behind forms) wrapped = renderer.render kind (innermost forms wrapped)
  /-- Every check but that for identity can be put to the pointers. -/
  exists_check : ∀ check' : Check kind, check'.matcher ≠ .same →
    ∃ check, Check.Behind forms kind check check'
  sameAnswer : ∀ (check : Check (kind.behind forms)) (check' : Check kind),
    Check.Behind forms kind check check' →
    ∀ (renderer : Renderer) (site site' : Site) (negated : Bool) (label : Option String),
      SameAnswer (Expectation.check renderer site ⟨wrapped, negated, label⟩ check)
        (Expectation.check renderer site' ⟨innermost forms wrapped, negated, label⟩ check')

/-- Pointers are transparent. Behind any stack of them a value is as true, as absent, as long, the same
text, contains the same items and is shown alike. Every check but that for identity can be put to the
pointers and gives the same answer: it passes, meets the same usage error, or leaves a failure that
differs in the place of the call at most. -/
theorem pointers_transparent {kind : Kind} (forms : List PointerForm)
    (wrapped : (kind.behind forms).Value) : Kind.TransparentBehind forms wrapped where
  isTrue_eq := Kind.isTrue_behind forms wrapped
  isNone_eq := Kind.isNone_behind forms wrapped
  length?_eq := Kind.length?_behind forms wrapped
  text?_eq := Kind.text?_behind forms wrapped
  contains?_eq := Kind.contains?_behind forms wrapped
  render_eq := fun renderer => renderer.render_behind forms wrapped
  exists_check := fun _ => Check.Behind.exists_of_ne_same forms
  sameAnswer := by
    intro check check' h renderer site site' negated label
    rw [Expectation.check_innermost h]
    exact Expectation.sameAnswer_site renderer site site' _ check'

/-- A shared pointer to a boxed list answers as the list when it is compared with another such pointer,
which leads to an equal list elsewhere. -/
theorem pointers_transparent_boxed_list :
    let forms : List PointerForm := [.shared, .owned]
    let kind : Kind := .sequence .vector .int
    let value : kind.Value := [2, 10]
    let wrapped : (kind.behind forms).Value := ⟨.object 0, .object 1, value⟩
    let operand : (kind.behind forms).Value := ⟨.object 2, .object 3, value⟩
    let site : Site := ⟨"tests/cart.rs", 4⟩
    let site' : Site := ⟨"tests/cart.rs", 5⟩
    Check.Behind forms kind (.equal (kind.behind forms) operand) (.equal kind value) ∧
    SameAnswer (Expectation.check .initial site ⟨wrapped, true, none⟩ (.equal (kind.behind forms) operand))
      (Expectation.check .initial site' ⟨value, true, none⟩ (.equal kind value)) ∧
    Expectation.Fails .initial site ⟨wrapped, true, none⟩ (.equal (kind.behind forms) operand) := by
  intro forms kind value wrapped operand site site'
  have hb : Check.Behind forms kind (.equal (kind.behind forms) operand) (.equal kind value) :=
    .equal kind operand
  exact ⟨hb, (pointers_transparent forms wrapped).sameAnswer _ _ hb .initial site site' true none,
    Expectation.fails_of_eq rfl rfl⟩

end Attest
