import Attest.Proofs.Verdicts

/-!
# Truth, length and absence together

Whether a value is true, how long it is and whether it is absent are asked separately, of every kind of
value and of every kind of document. The three agree: what has a length is true unless the length is
zero, and what is absent is false. Present options and pointers leave the truth of what they hold as it
is, while an absent one at any depth makes all that is around it false; none is asked of the outermost
option alone.
-/

namespace Attest

theorem Text.isEmpty_eq (s : String) : s.isEmpty = (s.toList.length == 0) := by
  rw [Bool.eq_iff_iff, String.isEmpty_iff, beq_iff_eq, List.length_eq_zero_iff,
    String.toList_eq_nil_iff]

namespace Kind

variable {kind : Kind} {value : kind.Value}

/-- What has a length: texts, sequences, sets, maps, and the documents made like them. -/
inductive Measured : Any → Prop where
  | text (s : String) : Measured ⟨.text, s⟩
  | sequence (form : SequenceForm) (item : Kind) (xs : List item.Value) :
    Measured ⟨.sequence form item, xs⟩
  | set (arrangement : Arrangement) (item : Kind) (xs : List item.Value) :
    Measured ⟨.set arrangement item, xs⟩
  | map (arrangement : Arrangement) (key value : Kind) (entries : List (key.Value × value.Value)) :
    Measured ⟨.map arrangement key value, entries⟩
  | string (s : String) : Measured ⟨.json, .string s⟩
  | array (items : List Json) : Measured ⟨.json, .array items⟩
  | object (fields : List (String × Json)) : Measured ⟨.json, .object fields⟩

theorem exists_length?_iff : (∃ n, kind.length? value = some n) ↔ Measured (bare kind value) := by
  constructor
  · rintro ⟨n, h⟩
    induction kind with
    | pointer form target ih => exact ih h
    | text => exact .text value
    | sequence form item => exact .sequence form item value
    | set arrangement item => exact .set arrangement item value
    | map arrangement key item => exact .map arrangement key item value
    | json =>
      cases value with
      | string s => exact .string s
      | array items => exact .array items
      | object fields => exact .object fields
      | _ => cases h
    | _ => cases h
  · intro h
    induction kind with
    | pointer form target ih => exact ih h
    | _ => cases h <;> exact ⟨_, rfl⟩

/-- A value with a length is true unless the length is zero. -/
theorem isTrue_of_length? {n : Nat} (h : kind.length? value = some n) :
    kind.isTrue value = (n != 0) := by
  have nonempty {α : Type} (xs : List α) : (!xs.isEmpty) = (xs.length != 0) := by
    cases xs <;> rfl
  have nonemptyText (s : String) : (!s.isEmpty) = (s.toList.length != 0) :=
    congrArg _ (Text.isEmpty_eq s)
  induction kind with
  | pointer form target ih => exact ih h
  | text =>
    cases h
    exact nonemptyText value
  | sequence form item =>
    cases h
    exact nonempty value
  | set arrangement item =>
    cases h
    exact nonempty value
  | map arrangement key item =>
    cases h
    exact nonempty value
  | json =>
    cases value with
    | string s =>
      cases h
      exact nonemptyText s
    | array items =>
      cases h
      exact nonempty items
    | object fields =>
      cases h
      exact nonempty fields
    | _ => cases h
  | _ => cases h

/-- None is an option around which there are pointers alone, or the null document. -/
theorem isNone_iff : kind.isNone value = true ↔
    (∃ item, bare kind value = ⟨.option item, none⟩) ∨ bare kind value = ⟨.json, .null⟩ := by
  induction kind with
  | pointer form target ih => exact ih
  | option item =>
    cases value with
    | none => exact iff_of_true rfl (Or.inl ⟨item, rfl⟩)
    | some x => simp [isNone, bare]
  | json => cases value <;> simp [isNone, bare, Json.isNull]
  | _ => simp [isNone, bare]

theorem isTrue_of_isNone (h : kind.isNone value = true) : kind.isTrue value = false := by
  induction kind with
  | pointer form target ih => exact ih h
  | option item =>
    cases value with
    | none => rfl
    | some x => cases h
  | json =>
    cases value with
    | null => rfl
    | _ => cases h
  | _ => cases h

/-- A value lies within present options and pointers, in any order and number. -/
inductive Nests : (kind : Kind) → kind.Value → Any → Prop where
  | core {kind : Kind} (value : kind.Value) : Nests kind value ⟨kind, value⟩
  | present {item : Kind} {value : item.Value} {core : Any} (h : Nests item value core) :
    Nests (.option item) (some value) core
  | pointer (form : PointerForm) {target : Kind} {p : Pointer target.Value} {core : Any}
    (h : Nests target p.target core) : Nests (.pointer form target) p core

theorem Nests.isTrue_eq {core : Any} (h : Nests kind value core) :
    kind.isTrue value = core.1.isTrue core.2 := by
  induction h with
  | core value => rfl
  | present h ih => exact ih
  | pointer form h ih => exact ih

end Kind

namespace Expectation

variable {kind : Kind} {renderer : Renderer} {site site' : Site} (expectation : Expectation kind)

theorem sameVerdict_falsy_truthy_not :
    SameVerdict renderer site site' expectation .falsy expectation.not .truthy := by
  refine sameVerdict_of_outcome rfl rfl ?_
  change (!kind.isTrue expectation.value) = expectation.negated ↔
    kind.isTrue expectation.value = !expectation.negated
  exact Bool.not_eq_eq_eq_not

theorem truthy_or_falsy :
    (expectation.Passes renderer site .truthy ∧ expectation.Fails renderer site' .falsy) ∨
      (expectation.Fails renderer site .truthy ∧ expectation.Passes renderer site' .falsy) := by
  have hfalsy : (Check.falsy : Check kind).outcome expectation.value =
    .ok (!kind.isTrue expectation.value) := rfl
  by_cases h : kind.isTrue expectation.value = expectation.negated
  · refine Or.inr ⟨fails_of_eq rfl h, passes_of_ne hfalsy ?_⟩
    simp [h]
  · refine Or.inl ⟨passes_of_ne rfl h, fails_of_eq hfalsy ?_⟩
    exact Bool.not_eq_eq_eq_not.mpr (Bool.eq_not_of_ne h)

theorem sameVerdict_truthy_length_not {n : Nat} (h : kind.length? expectation.value = some n) :
    SameVerdict renderer site site' expectation .truthy expectation.not (.length 0) := by
  have hlength : (Check.length 0).outcome expectation.not.value = .ok (n == 0) := by
    rw [Check.outcome, Expectation.not, h]
  refine sameVerdict_of_outcome rfl hlength ?_
  rw [Kind.isTrue_of_length? h, Expectation.not]
  exact Bool.not_eq_eq_eq_not

theorem passes_falsy_iff (label : Option String) (value : kind.Value) :
    (ofValue value label).Passes renderer site .falsy ↔ kind.isTrue value = false := by
  have houtcome : (Check.falsy : Check kind).outcome value = .ok (!kind.isTrue value) := rfl
  rw [passes_ofValue_iff houtcome, Bool.not_eq_true']

theorem passes_none_iff (label : Option String) (value : kind.Value) :
    (ofValue value label).Passes renderer site .none ↔ kind.isNone value = true :=
  passes_ofValue_iff rfl

theorem sameVerdict_truthy_nested {core : Kind.Any} (h : Kind.Nests kind expectation.value core) :
    SameVerdict renderer site site' expectation .truthy
      (⟨core.2, expectation.negated, expectation.label⟩ : Expectation core.1) .truthy := by
  refine sameVerdict_of_outcome rfl rfl ?_
  rw [h.isTrue_eq]

end Expectation

/-- How the truth, the length and the absence of the value of an expectation go together. -/
structure Expectation.TruthLengthLaws {kind : Kind} (expectation : Expectation kind)
    (renderer : Renderer) (site site' : Site) : Prop where
  falsy_alike : expectation.SameVerdict renderer site site' .falsy expectation.not .truthy
  truthy_or_falsy :
    (expectation.Passes renderer site .truthy ∧ expectation.Fails renderer site' .falsy) ∨
      (expectation.Fails renderer site .truthy ∧ expectation.Passes renderer site' .falsy)
  measured_iff : (∃ n, kind.length? expectation.value = some n) ↔
    Kind.Measured (Kind.bare kind expectation.value)
  isTrue_iff : ∀ n, kind.length? expectation.value = some n →
    (kind.isTrue expectation.value = true ↔ n ≠ 0)
  length_alike : ∀ n, kind.length? expectation.value = some n →
    expectation.SameVerdict renderer site site' .truthy expectation.not (.length 0)
  falsy_of_none : (ofValue expectation.value expectation.label).Passes renderer site .none →
    (ofValue expectation.value expectation.label).Passes renderer site' .falsy
  /-- Nothing passes for none but an absent option or the null document, behind any pointers. -/
  none_iff : (ofValue expectation.value expectation.label).Passes renderer site .none ↔
    (∃ item, Kind.bare kind expectation.value = ⟨.option item, none⟩) ∨
      Kind.bare kind expectation.value = ⟨.json, .null⟩
  isTrue_nested : ∀ core, Kind.Nests kind expectation.value core →
    kind.isTrue expectation.value = core.1.isTrue core.2
  nested_alike : ∀ core, Kind.Nests kind expectation.value core →
    expectation.SameVerdict renderer site site' .truthy
      (⟨core.2, expectation.negated, expectation.label⟩ : Expectation core.1) .truthy
  absent_falsy : ∀ item, Kind.Nests kind expectation.value ⟨.option item, none⟩ →
    (ofValue expectation.value expectation.label).Passes renderer site .falsy

/-- Truth, length and absence fit together. Falsy is truthy under the other polarity, and one of the two
passes where the other one fails. What has a length, namely what is a text, a collection or a document
like these behind any pointers, is true when the length is not zero. What passes for none passes for
falsy, and nothing passes for none but an absent option or the null document behind any pointers. Present
options and pointers around a value leave its truth as it is, so all that is around an absent option is
false. -/
theorem truth_length_absence_agree {kind : Kind} (expectation : Expectation kind)
    (renderer : Renderer) (site site' : Site) :
    expectation.TruthLengthLaws renderer site site' where
  falsy_alike := expectation.sameVerdict_falsy_truthy_not
  truthy_or_falsy := expectation.truthy_or_falsy
  measured_iff := Kind.exists_length?_iff
  isTrue_iff := by
    intro n h
    rw [Kind.isTrue_of_length? h, bne_iff_ne]
  length_alike := fun _ h => expectation.sameVerdict_truthy_length_not h
  falsy_of_none := by
    intro hnone
    rw [Expectation.passes_none_iff] at hnone
    rw [Expectation.passes_falsy_iff]
    exact Kind.isTrue_of_isNone hnone
  none_iff := by
    rw [Expectation.passes_none_iff, Kind.isNone_iff]
  isTrue_nested := fun _ h => h.isTrue_eq
  nested_alike := fun _ h => expectation.sameVerdict_truthy_nested h
  absent_falsy := by
    intro item h
    rw [Expectation.passes_falsy_iff]
    exact h.isTrue_eq

/-- An absent option within present ones makes them false but is not what none asks for, and a text of
one character is true though it is a document behind a pointer. -/
theorem truth_length_absence_agree_nested :
    let inner : Kind := .option .int
    let kind : Kind := .option (.pointer .owned (.option inner))
    let nested : Expectation kind := .ofValue (some ⟨.object 0, some none⟩) none
    let document : Expectation (.pointer .sharedAcross .json) := .ofValue ⟨.object 1, .string "é"⟩ none
    let site : Site := ⟨"tests/cart.rs", 7⟩
    Kind.Nests kind nested.value ⟨inner, none⟩ ∧
    nested.Passes .initial site .falsy ∧ ¬ nested.Passes .initial site .none ∧
    Kind.length? (.pointer .sharedAcross .json) document.value = some 1 ∧
    document.Passes .initial site .truthy ∧ document.not.Passes .initial site (.length 0) := by
  intro inner kind nested document site
  have hcore : Kind.Nests inner none ⟨inner, none⟩ := .core _
  have hnests : Kind.Nests kind nested.value ⟨inner, none⟩ :=
    .present (.pointer .owned (.present hcore))
  have hlength : Kind.length? (.pointer .sharedAcross .json) document.value = some 1 := by decide
  have htruthy : document.Passes .initial site .truthy := rfl
  have hlaws := truth_length_absence_agree nested .initial site site
  have hmeasured := truth_length_absence_agree document .initial site site
  refine ⟨hnests, hlaws.absent_falsy .int hnests, ?_, hlength, htruthy,
    (hmeasured.length_alike 1 hlength).passes.mp htruthy⟩
  intro hpass
  rcases hlaws.none_iff.mp hpass with ⟨item, h⟩ | h <;> cases h

end Attest
