import Attest.Proofs.DocumentImages

/-!
# Contents of documents

A document is asked for another document or for a text, and a list of documents also for numbers and
truth values. Whichever way an item is given, the answer is that for the document it stands for. There
is no answer for documents without parts, and none for a text that is asked for something else.
-/

namespace Attest

namespace Json

theorem equal_string (document : Json) (s : String) :
    document.equal (string s) = (document.text? == some s) := by
  cases document <;> rfl

/-- A text is looked for as the document that it is. -/
theorem containsDocument?_string (document : Json) (needle : String) :
    document.containsDocument? (string needle) = document.containsText? needle := by
  cases document with
  | array items => simp only [containsDocument?, containsText?, equal_string]
  | _ => rfl

/-- The documents and items for which there is no answer. -/
inductive CannotHold : Json → Json → Prop where
  | null (item : Json) : CannotHold null item
  | bool (b : Bool) (item : Json) : CannotHold (bool b) item
  | number (n : Json.Number) (item : Json) : CannotHold (number n) item
  | string (s : String) {item : Json} (other : ∀ t, item ≠ string t) : CannotHold (string s) item

theorem containsDocument?_eq_none_iff (document item : Json) :
    document.containsDocument? item = none ↔ document.CannotHold item := by
  constructor
  · intro h
    cases document with
    | null => exact .null item
    | bool b => exact .bool b item
    | number n => exact .number n item
    | string s =>
      apply CannotHold.string
      rintro t rfl
      cases h
    | array items => cases h
    | object fields => cases item <;> cases h
  · intro h
    cases h with
    | null | bool | number => rfl
    | string s other =>
      cases item with
      | string t => exact absurd rfl (other t)
      | _ => rfl

/-- Whether a document has parts of its own, items or fields. -/
def HasParts : Json → Prop
  | array _ | object _ => True
  | _ => False

theorem HasParts.not_cannotHold {document : Json} (h : document.HasParts) (item : Json) :
    ¬ document.CannotHold item := by
  intro hnone
  cases hnone <;> exact h

theorem containsDocument?_array_iff (items : List Json) (item : Json) :
    (array items).containsDocument? item = some true ↔ ∃ x ∈ items, x.equal item = true := by
  rw [containsDocument?, Option.some.injEq, List.any_eq_true]

theorem containsDocument?_object_iff (fields : List (String × Json)) (item : Json) :
    (object fields).containsDocument? item = some true ↔
      ∃ key, item = string key ∧ key ∈ fields.map Prod.fst := by
  cases item with
  | string key =>
    rw [containsDocument?, Option.some.injEq, isSome_field?_iff]
    simp
  | _ => simp [containsDocument?]

end Json

namespace Kind

/-- An item that a document can be asked for, a document or a text behind any pointers, and the document
that is meant. -/
inductive Asks : Any → Json → Prop where
  | document {item : Any} {wanted : Json} (h : bare item.1 item.2 = ⟨.json, wanted⟩) :
    Asks item wanted
  | text {item : Any} {needle : String} (h : bare item.1 item.2 = ⟨.text, needle⟩) :
    Asks item (.string needle)

/-- An item that a list of documents can be asked for. -/
inductive StandsFor : Any → Json → Prop where
  | asked {item : Any} {wanted : Json} (h : Asks item wanted) : StandsFor item wanted
  | int {item : Any} {n : Int} (h : bare item.1 item.2 = ⟨.int, n⟩) :
    StandsFor item (.number (.integer n))
  | bool {item : Any} {b : Bool} (h : bare item.1 item.2 = ⟨.bool, b⟩) : StandsFor item (.bool b)

variable {item : Any} {wanted : Json}

theorem contains?_json (document wanted : Json) :
    contains? .json document .json wanted = document.containsDocument? wanted := rfl

theorem Asks.contains?_eq (h : Asks item wanted) (document : Json) :
    contains? .json document item.1 item.2 = contains? .json document .json wanted := by
  rw [contains?_json, contains?]
  cases h with
  | document h => rw [h]
  | text h => rw [h, Json.containsDocument?_string]

/-- An element equals an item as it equals the document that the item stands for. -/
theorem StandsFor.agrees_eq (h : StandsFor item wanted) (x : Json) :
    agrees .json x item.1 item.2 = x.equal wanted := by
  rw [agrees]
  cases h with
  | asked h =>
    cases h with
    | document h => rw [h]
    | text h => rw [h, Json.equal_string]
  | int h =>
    rw [h]
    cases x with
    | number m => cases m <;> rfl
    | _ => rfl
  | bool h =>
    rw [h]
    cases x <;> rfl

theorem StandsFor.contains?_sequence (h : StandsFor item wanted) (form : SequenceForm)
    (items : List Json) :
    contains? (.sequence form .json) items item.1 item.2 =
      contains? .json (.array items) .json wanted := by
  rw [contains?_json, contains?, Json.containsDocument?]
  congr 2
  funext x
  exact h.agrees_eq x

theorem StandsFor.self (wanted : Json) : StandsFor ⟨.json, wanted⟩ wanted :=
  .asked (.document rfl)

end Kind

namespace Expectation

variable {kind : Kind} {renderer : Renderer} {site : Site} {expectation : Expectation kind}

theorem outcome_contain {value : kind.Value} {other : Kind} {item : other.Value} {found : Bool}
    (h : kind.contains? value other item = some found) :
    (Check.contain other item).outcome value = .ok found := by
  rw [Check.outcome, h]

theorem passes_or_fails_contain {other : Kind} {item : other.Value}
    (h : kind.contains? expectation.value other item ≠ none) :
    expectation.Passes renderer site (.contain other item) ∨
      expectation.Fails renderer site (.contain other item) := by
  obtain ⟨found, hfound⟩ := Option.ne_none_iff_exists'.mp h
  exact passes_or_fails (outcome_contain hfound)

end Expectation

/-- How a document answers when it is asked for items. -/
structure Json.AnswersItems (document : Json) : Prop where
  /-- Each way to give an item has the answer of the document that the item stands for. -/
  asked : ∀ (item : Kind.Any) (wanted : Json), Kind.Asks item wanted →
    Kind.json.contains? document item.1 item.2 = Kind.json.contains? document .json wanted
  refused_iff : ∀ wanted : Json,
    Kind.json.contains? document .json wanted = none ↔ document.CannotHold wanted
  verdict : ∀ (expectation : Expectation .json) (item : Kind.Any) (wanted : Json),
    expectation.value = document → document.HasParts → Kind.Asks item wanted →
    ∀ (renderer : Renderer) (site : Site),
      expectation.Passes renderer site (.contain item.1 item.2) ∨
        expectation.Fails renderer site (.contain item.1 item.2)
  items_iff : ∀ (items : List Json) (wanted : Json), document = .array items →
    (Kind.json.contains? document .json wanted = some true ↔ ∃ x ∈ items, x.equal wanted = true)
  keys_iff : ∀ (fields : List (String × Json)) (wanted : Json), document = .object fields →
    (Kind.json.contains? document .json wanted = some true ↔
      ∃ key, wanted = .string key ∧ key ∈ fields.map Prod.fst)

/-- How a list of documents answers when it is asked for items. -/
structure Kind.AnswersLikeDocument (form : SequenceForm) (items : List Json) : Prop where
  asked : ∀ (item : Any) (wanted : Json), Asks item wanted →
    (sequence form .json).contains? items item.1 item.2 =
      Kind.json.contains? (.array items) item.1 item.2
  /-- A number or a truth value is looked for as the document that it stands for, too. -/
  standsFor : ∀ (item : Any) (wanted : Json), StandsFor item wanted →
    (sequence form .json).contains? items item.1 item.2 =
      (sequence form .json).contains? items .json wanted

theorem Json.answersItems (document : Json) : document.AnswersItems where
  asked := fun _ _ hasks => hasks.contains?_eq document
  refused_iff := containsDocument?_eq_none_iff document
  verdict := by
    rintro expectation item wanted rfl hparts hasks renderer site
    apply Expectation.passes_or_fails_contain
    rw [hasks.contains?_eq, Kind.contains?_json, ne_eq, containsDocument?_eq_none_iff]
    exact hparts.not_cannotHold wanted
  items_iff := by
    rintro items wanted rfl
    exact containsDocument?_array_iff items wanted
  keys_iff := by
    rintro fields wanted rfl
    exact containsDocument?_object_iff fields wanted

theorem Kind.answersLikeDocument (form : SequenceForm) (items : List Json) :
    AnswersLikeDocument form items where
  asked := by
    intro item wanted hasks
    have hlist := (StandsFor.asked hasks).contains?_sequence form items
    rw [hlist, hasks.contains?_eq]
  standsFor := by
    intro item wanted hstands
    have hself := (StandsFor.self wanted).contains?_sequence form items
    rw [hstands.contains?_sequence, hself]

/-- Containment of documents. Each way to give an item has the answer of the document that the item
stands for. There is none exactly for documents that cannot hold the item, so a list or an object always
passes or fails; a list holds what equals one of its items, and an object its keys. A list of documents
answers as the document made of it, also when it is asked for a number or a truth value. -/
theorem document_containment :
    (∀ document : Json, document.AnswersItems) ∧
    ∀ (form : SequenceForm) (items : List Json), Kind.AnswersLikeDocument form items :=
  ⟨Json.answersItems, Kind.answersLikeDocument⟩

/-- A borrowed text and a number are found in a list as the documents they stand for. -/
theorem document_containment_mixed_list :
    let items : List Json := [.number (.integer 5), .string "x"]
    let borrowed : Kind.Any := ⟨.pointer .borrowed .text, ⟨.object 0, "x"⟩⟩
    let five : Kind.Any := ⟨.int, (5 : Int)⟩
    Kind.Asks borrowed (.string "x") ∧ Kind.StandsFor five (.number (.integer 5)) ∧
    Kind.json.contains? (.array items) borrowed.1 borrowed.2 = some true ∧
    (Kind.sequence .vector .json).contains? items borrowed.1 borrowed.2 = some true ∧
    (Kind.sequence .vector .json).contains? items five.1 five.2 = some true := by
  intro items borrowed five
  obtain ⟨hdocuments, hlists⟩ := document_containment
  have hanswers := hdocuments (.array items)
  have hlist := hlists .vector items
  have hborrowed : Kind.Asks borrowed (.string "x") := .text rfl
  have hfive : Kind.StandsFor five (.number (.integer 5)) := .int rfl
  have hdocument : Kind.json.contains? (.array items) borrowed.1 borrowed.2 = some true :=
    (hanswers.asked borrowed _ hborrowed).trans
      ((hanswers.items_iff items _ rfl).mpr ⟨.string "x", by simp [items], rfl⟩)
  exact ⟨hborrowed, hfive, hdocument, (hlist.asked borrowed _ hborrowed).trans hdocument,
    hlist.standsFor five _ hfive⟩

end Attest
