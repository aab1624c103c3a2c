import Attest.Proofs.SortedCollections
import Attest.Proofs.Verdicts

/-!
# Values and their documents

Truth values, integers, texts, lists of documents and maps from texts to documents have documents
that stand for them, and so do optional values of these types, an absent one being null. A question
that can be put to such a value can be put to its document, and both give the same verdict. For
integers this needs that no integer but zero is rounded to zero when it becomes a floating-point
number.
-/

namespace Attest

namespace Number

/-- An integer other than zero is at least one, far above the smallest numbers of the format. -/
theorem roundRatio_double_pos {n : Nat} (h : n ≠ 0) : 0 < roundRatio .double n 1 := by
  have hleast : FloatFormat.double.leastExponent = -1074 := by decide
  have hplace : -1073 ≤ lastPlace .double n 1 := by
    rw [lastPlace]
    have hguess : -53 ≤ (n.log2 : Int) - (1 : Nat).log2 - FloatFormat.double.fractionBits - 1 := by
      have hone : Nat.log2 1 = 0 := by decide
      have hbits : FloatFormat.double.fractionBits = 52 := rfl
      omega
    split <;> omega
  rw [roundRatio, if_neg h]
  have hsteps : 0 < (lastPlace .double n 1 - FloatFormat.double.leastExponent).toNat := by omega
  refine lt_min (by decide) (Nat.add_pos_left (Nat.mul_pos hsteps (by decide)) _)

end Number

namespace Json

/-- An integer is true unless it is zero, whatever it is rounded to. -/
theorem isTrue_integer (n : Int) : (number (.integer n)).isTrue = (n != 0) := by
  by_cases h : n = 0
  · subst h
    rfl
  · have hpos := Attest.Number.roundRatio_double_pos (Int.natAbs_ne_zero.mpr h)
    rw [bne_iff_ne.mpr h, isTrue, Number.nearest, Attest.Number.Floating.isZero,
      Attest.Number.Floating.ofInt, beq_false_of_ne hpos.ne']
    rfl

theorem isSome_field?_iff (key : String) (fields : List (String × Json)) :
    (field? key fields).isSome = true ↔ key ∈ fields.map Prod.fst := by
  rw [field?, Option.isSome_map, List.find?_isSome]
  simp

end Json

namespace Kind

/-- A document stands for a value that is not optional, whatever pointers lead to the value. -/
inductive PlainImage : (kind : Kind) → kind.Value → Json → Prop where
  | bool (b : Bool) : PlainImage .bool b (.bool b)
  | int (n : Int) : PlainImage .int n (.number (.integer n))
  | text (s : String) : PlainImage .text s (.string s)
  | items (form : SequenceForm) (documents : List Json) :
    PlainImage (.sequence form .json) documents (.array documents)
  | fields (entries : List (String × Json))
    (ascending : Ascending Text.compare (entries.map Prod.fst)) :
    PlainImage (.map .sorted .text .json) entries (.object entries)
  | pointer (form : PointerForm) {target : Kind} (p : Pointer target.Value) {document : Json}
    (image : PlainImage target p.target document) :
    PlainImage (.pointer form target) p document

/-- A document stands for a value or for an optional one. -/
inductive Image : (kind : Kind) → kind.Value → Json → Prop where
  | plain {kind : Kind} {value : kind.Value} {document : Json}
    (image : PlainImage kind value document) : Image kind value document
  | absent (item : Kind) : Image (.option item) none .null
  | present {item : Kind} {value : item.Value} {document : Json}
    (image : PlainImage item value document) : Image (.option item) (some value) document

/-- The kinds whose values have a length. -/
def HasLength : Kind → Prop
  | .text | .sequence _ _ | .map _ _ _ => True
  | .pointer _ target => HasLength target
  | _ => False

/-- The kinds whose values are texts. -/
def HasText : Kind → Prop
  | .text => True
  | .pointer _ target => HasText target
  | _ => False

/-- Texts can be asked for texts, lists of documents for texts and documents, and maps for keys. -/
def Accepts : Kind → Any → Prop
  | .text, item => ∃ needle, bare item.1 item.2 = ⟨.text, needle⟩
  | .sequence _ .json, item =>
    (∃ needle, bare item.1 item.2 = ⟨.text, needle⟩) ∨
      ∃ wanted, bare item.1 item.2 = ⟨.json, wanted⟩
  | .map .sorted .text .json, item => ∃ key, item = ⟨.text, key⟩
  | .pointer _ target, item => Accepts target item
  | _, _ => False

variable {kind : Kind} {value : kind.Value} {document : Json}

namespace PlainImage

theorem isTrue_eq (h : PlainImage kind value document) : kind.isTrue value = document.isTrue := by
  induction h with
  | int n => exact (Json.isTrue_integer n).symm
  | pointer form p image ih => exact ih
  | _ => rfl

theorem isNone_eq (h : PlainImage kind value document) : kind.isNone value = false := by
  induction h with
  | pointer form p image ih => exact ih
  | _ => rfl

theorem isNull_eq (h : PlainImage kind value document) : document.isNull = false := by
  induction h with
  | pointer form p image ih => exact ih
  | _ => rfl

/-- A value with a length and its document have the same one. -/
theorem length?_eq (h : PlainImage kind value document) (hl : kind.HasLength) :
    ∃ n, kind.length? value = some n ∧ document.length? = some n := by
  induction h with
  | pointer form p image ih => exact ih hl
  | bool | int => cases hl
  | _ => exact ⟨_, rfl, rfl⟩

/-- A text and its document have the same text. -/
theorem text?_eq (h : PlainImage kind value document) (ht : kind.HasText) :
    ∃ s, kind.text? value = some s ∧ document.text? = some s := by
  induction h with
  | pointer form p image ih => exact ih ht
  | text s => exact ⟨s, rfl, rfl⟩
  | _ => cases ht

/-- A value and its document contain the same items. -/
theorem contains?_eq (h : PlainImage kind value document) {item other : Any}
    (ha : kind.Accepts item) (hsame : bare other.1 other.2 = bare item.1 item.2) :
    ∃ found, kind.contains? value item.1 item.2 = some found ∧
      Kind.json.contains? document other.1 other.2 = some found := by
  induction h with
  | pointer form p image ih => exact ih ha
  | bool | int => cases ha
  | text s =>
    obtain ⟨needle, hneedle⟩ := ha
    refine ⟨Text.contains s needle, ?_, ?_⟩
    · rw [contains?, hneedle]
    · rw [contains?, hsame, hneedle]
      rfl
  | items form documents =>
    rcases ha with ⟨needle, hneedle⟩ | ⟨wanted, hwanted⟩
    · refine ⟨documents.any fun x => x.text? == some needle, ?_, ?_⟩
      · simp only [contains?, agrees, hneedle]
      · rw [contains?, hsame, hneedle]
        rfl
    · refine ⟨documents.any fun x => x.equal wanted, ?_, ?_⟩
      · simp only [contains?, agrees, hwanted]
      · rw [contains?, hsame, hwanted]
        rfl
  | fields entries ascending =>
    obtain ⟨key, rfl⟩ := ha
    have hfound : hasSorted (compare? .text) key (entries.map Prod.fst) =
        (Json.field? key entries).isSome := by
      rw [Bool.eq_iff_iff, Json.isSome_field?_iff]
      exact hasSorted_iff ascending
    refine ⟨(Json.field? key entries).isSome, ?_, ?_⟩
    · rw [← hfound]
      rfl
    · rw [contains?, hsame]
      rfl

end PlainImage

namespace Image

theorem isTrue_eq (h : Image kind value document) : kind.isTrue value = document.isTrue := by
  cases h with
  | plain image => exact image.isTrue_eq
  | absent item => rfl
  | present image => exact image.isTrue_eq

theorem isNone_eq (h : Image kind value document) : kind.isNone value = document.isNull := by
  cases h with
  | plain image => rw [image.isNone_eq, image.isNull_eq]
  | absent item => rfl
  | present image => exact image.isNull_eq.symm

/-- The length, the text and the items of a value can be asked for only where it is not optional. -/
theorem plain_of (h : Image kind value document)
    (ha : kind.HasLength ∨ kind.HasText ∨ ∃ item, kind.Accepts item) :
    PlainImage kind value document := by
  cases h with
  | plain image => exact image
  | absent | present => rcases ha with h | h | ⟨_, h⟩ <;> cases h

end Image

end Kind

namespace Check

/-- One question, put to a value and to its document. Operands are alike but for the pointers around
them. -/
inductive Counterpart (kind : Kind) : Check kind → Check .json → Prop where
  | truthy : Counterpart kind .truthy .truthy
  | falsy : Counterpart kind .falsy .falsy
  | none : Counterpart kind .none .none
  | length (n : Nat) (available : kind.HasLength) : Counterpart kind (.length n) (.length n)
  | pattern (source : String) (available : kind.HasText) :
    Counterpart kind (.pattern source) (.pattern source)
  | contain (item other : Kind.Any) (available : kind.Accepts item)
    (same : Kind.bare other.1 other.2 = Kind.bare item.1 item.2) :
    Counterpart kind (.contain item.1 item.2) (.contain other.1 other.2)

variable {kind : Kind} {value : kind.Value} {document : Json} {check : Check kind}
  {check' : Check .json}

theorem Counterpart.matcher_eq (h : Counterpart kind check check') :
    check'.matcher = check.matcher := by
  cases h <;> rfl

/-- A question has the same outcome for a value and for its document. Only a pattern can leave it
without one. -/
theorem Counterpart.outcome_eq (h : Counterpart kind check check')
    (hi : Kind.Image kind value document) :
    check'.outcome document = check.outcome value ∧
      ((∃ outcome, check.outcome value = .ok outcome) ∨
        check.matcher = .matchPattern ∧
          ∃ source fault, check.outcome value = .error (.invalidPattern source fault)) := by
  cases h with
  | truthy =>
    refine ⟨?_, Or.inl ⟨_, rfl⟩⟩
    rw [outcome, outcome, hi.isTrue_eq]
    rfl
  | falsy =>
    refine ⟨?_, Or.inl ⟨_, rfl⟩⟩
    rw [outcome, outcome, hi.isTrue_eq]
    rfl
  | none =>
    refine ⟨?_, Or.inl ⟨_, rfl⟩⟩
    rw [outcome, outcome, hi.isNone_eq]
    rfl
  | length n available =>
    obtain ⟨actual, hvalue, hdocument⟩ := (hi.plain_of (Or.inl available)).length?_eq available
    have hjson : Kind.json.length? document = some actual := hdocument
    rw [outcome, outcome, hvalue, hjson]
    exact ⟨rfl, Or.inl ⟨_, rfl⟩⟩
  | pattern source available =>
    obtain ⟨s, hvalue, hdocument⟩ :=
      (hi.plain_of (Or.inr (Or.inl available))).text?_eq available
    have hjson : Kind.json.text? document = some s := hdocument
    rw [outcome, outcome, hvalue, hjson]
    refine ⟨rfl, ?_⟩
    dsimp only
    cases Regex.ofPattern source.toList with
    | ok regex => exact Or.inl ⟨_, rfl⟩
    | error fault => exact Or.inr ⟨rfl, source, fault, rfl⟩
  | contain item other available same =>
    obtain ⟨found, hvalue, hdocument⟩ :=
      (hi.plain_of (Or.inr (Or.inr ⟨item, available⟩))).contains?_eq available same
    rw [outcome, outcome, hvalue, hdocument]
    exact ⟨rfl, Or.inl ⟨_, rfl⟩⟩

end Check

namespace Expectation

variable {renderer : Renderer} {site : Site} {negated : Bool} {label : Option String}

theorem passes_truthy_integer_iff (n : Int) :
    Passes renderer site (⟨.number (.integer n), negated, label⟩ : Expectation .json) .truthy ↔
      (n ≠ 0 ↔ negated = false) := by
  have htrue : Kind.json.isTrue (.number (.integer n)) = true ↔ n ≠ 0 := by
    rw [Kind.isTrue, Json.isTrue_integer, bne_iff_ne]
  exact passes_iff_condition rfl htrue

theorem passes_falsy_integer_iff (n : Int) :
    Passes renderer site (⟨.number (.integer n), negated, label⟩ : Expectation .json) .falsy ↔
      (n = 0 ↔ negated = false) := by
  have hfalse : (!Kind.json.isTrue (.number (.integer n))) = true ↔ n = 0 := by
    rw [Kind.isTrue, Json.isTrue_integer, Bool.not_eq_true', bne_eq_false_iff_eq]
  exact passes_iff_condition rfl hfalse

end Expectation

/-- A value and its document give the same verdict on every question that can be put to both, under
either polarity: both pass, both fail, or both refuse the same pattern. An integer of a document
passes for being true unless it is zero, and for being false if it is, and the other way round under
the other polarity. Every sorted map of texts to documents that is built has an object for its
document. -/
theorem document_same_verdict {kind : Kind} {value : kind.Value} {document : Json}
    {check : Check kind} {check' : Check .json} (hi : Kind.Image kind value document)
    (hc : Check.Counterpart kind check check') (renderer renderer' : Renderer) (site site' : Site)
    (negated : Bool) (label label' : Option String) :
    let typed : Expectation kind := ⟨value, negated, label⟩
    let dynamic : Expectation .json := ⟨document, negated, label'⟩
    ((typed.Passes renderer site check ∧ dynamic.Passes renderer' site' check') ∨
      (typed.Fails renderer site check ∧ dynamic.Fails renderer' site' check') ∨
      ∃ source fault,
        typed.check renderer site check =
          .error (.usage (.invalidPattern .matchPattern source fault)) ∧
        dynamic.check renderer' site' check' =
          .error (.usage (.invalidPattern .matchPattern source fault))) ∧
    (∀ n : Int,
      let integer : Expectation .json := ⟨.number (.integer n), negated, label'⟩
      (integer.Passes renderer' site' .truthy ↔ (n ≠ 0 ↔ negated = false)) ∧
      (integer.Passes renderer' site' .falsy ↔ (n = 0 ↔ negated = false))) ∧
    ∀ entries : List (String × Json),
      Kind.Image (.map .sorted .text .json) (Kind.mapOf .sorted .text .json entries)
        (.object (Kind.mapOf .sorted .text .json entries)) := by
  intro typed dynamic
  refine ⟨?_, fun n => ⟨Expectation.passes_truthy_integer_iff n, Expectation.passes_falsy_integer_iff n⟩,
    fun entries => .plain (.fields _ (Kind.ascending_mapOf .json entries))⟩
  obtain ⟨hsame, ⟨outcome, ho⟩ | ⟨hm, source, fault, ho⟩⟩ := hc.outcome_eq hi
  · have ho' : check'.outcome document = .ok outcome := hsame.trans ho
    by_cases hp : outcome = negated
    · exact Or.inr (Or.inl ⟨Expectation.fails_of_eq ho hp, Expectation.fails_of_eq ho' hp⟩)
    · exact Or.inl ⟨Expectation.passes_of_ne ho hp, Expectation.passes_of_ne ho' hp⟩
  · have ho' : check'.outcome document = .error (.invalidPattern source fault) := hsame.trans ho
    have htyped : typed.check renderer site check = _ := Expectation.check_of_obstacle ho
    have hdynamic : dynamic.check renderer' site' check' = _ := Expectation.check_of_obstacle ho'
    refine Or.inr (Or.inr ⟨source, fault.message, ?_, ?_⟩)
    · rw [htyped, Obstacle.usageError, hm]
    · rw [hdynamic, Obstacle.usageError, hc.matcher_eq, hm]

/-- A map does not pass for lacking a key that it has, and neither does its object, though the key
of the one is an owned text and that of the other a borrowed one. -/
theorem document_same_verdict_key :
    let entries : List (String × Json) := [("b", .null), ("a", .bool true)]
    let value := Kind.mapOf .sorted .text .json entries
    let typed : Expectation (.map .sorted .text .json) := ⟨value, true, none⟩
    let dynamic : Expectation .json := ⟨.object value, true, none⟩
    let site : Site := ⟨"tests/cart.rs", 12⟩
    let borrowed : Kind.Any := ⟨.pointer .borrowed .text, ⟨.object 0, "b"⟩⟩
    Kind.Image (.map .sorted .text .json) value (.object value) ∧
    Check.Counterpart (.map .sorted .text .json) (.contain .text "b")
      (.contain borrowed.1 borrowed.2) ∧
    typed.Fails .initial site (.contain .text "b") ∧
    dynamic.Fails .initial site (.contain borrowed.1 borrowed.2) := by
  intro entries value typed dynamic site borrowed
  have hi : Kind.Image (.map .sorted .text .json) value (.object value) :=
    .plain (.fields _ (Kind.ascending_mapOf .json entries))
  have hc : Check.Counterpart (.map .sorted .text .json) (.contain .text "b")
      (.contain borrowed.1 borrowed.2) := .contain ⟨.text, "b"⟩ borrowed ⟨"b", rfl⟩ rfl
  obtain ⟨⟨hp, -⟩ | hf | ⟨_, _, hp, -⟩, -, -⟩ :=
    document_same_verdict hi hc .initial .initial site site true none none
  · cases hp
  · exact ⟨hi, hc, hf⟩
  · cases hp

end Attest
