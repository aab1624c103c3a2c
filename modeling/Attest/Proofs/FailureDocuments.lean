import Attest.Failure
import Attest.Proofs.JsonRoundTrip

/-!
# Documents of failures

The text of a failure's document gives the failure back. Its fields stand under their keys in a
fixed order; an absent text is null, which no text is written as, and the matcher goes by the name
of its call, which no two matchers share.
-/

namespace Attest

namespace Matcher

/-- A capitalised name in lower case, with an underscore before every word but the first. -/
def snakeCase : List Char → List Char
  | [] => []
  | first :: rest =>
    first.toLower :: rest.flatMap fun c => if c.isUpper then ['_', c.toLower] else [c.toLower]

theorem toList_name (matcher : Matcher) :
    matcher.name.toList = snakeCase matcher.variantName.toList := by
  cases matcher <;> decide

theorem named?_name (matcher : Matcher) : named? matcher.name = some matcher := by
  cases matcher <;> decide

end Matcher

namespace AssertionFailure

/-- The text of a document that is a text, or its absence. -/
def optionalText? : Json → Option (Option String)
  | .null => some none
  | .string s => some (some s)
  | _ => none

def truth? : Json → Option Bool
  | .bool b => some b
  | _ => none

def line? : Json → Option Nat
  | .number (.integer (.ofNat n)) => some n
  | _ => none

/-- The failure of a document, found by its keys. -/
def ofJson? : Json → Option AssertionFailure
  | .object fields => do
    let name ← (Json.field? "matcher" fields).bind Json.text?
    let matcher ← Matcher.named? name
    let subject ← (Json.field? "subject" fields).bind Json.text?
    let label ← (Json.field? "label" fields).bind optionalText?
    let expected ← (Json.field? "expected" fields).bind optionalText?
    let received ← (Json.field? "received" fields).bind Json.text?
    let negated ← (Json.field? "negated" fields).bind truth?
    let file ← (Json.field? "file" fields).bind Json.text?
    let line ← (Json.field? "line" fields).bind line?
    return ⟨matcher, subject, label, expected, received, negated, ⟨file, line⟩⟩
  | _ => none

theorem optionalText?_option (text : Option String) :
    optionalText? (Json.option .string text) = some text := by
  cases text <;> rfl

theorem ofJson?_toJson (failure : AssertionFailure) : ofJson? failure.toJson = some failure := by
  simp [ofJson?, toJson, Json.field?, Json.text?, Matcher.named?_name, optionalText?_option, truth?,
    line?]

theorem integral_optional (text : Option String) : (Json.option .string text).Integral := by
  cases text with
  | none => exact .null
  | some text => exact .string text

theorem integral_toJson {failure : AssertionFailure}
    (h : failure.site.line ≤ Json.largestUnsigned) : failure.toJson.Integral := by
  refine .object _ ?_
  simp only [List.forall_mem_cons]
  refine ⟨.string _, .string _, integral_optional _, integral_optional _, .string _, .bool _,
    .string _, .integer _ ?_ ?_, fun _ h => nomatch h⟩
  · unfold Json.greatestNegated
    omega
  · exact Int.ofNat_le.mpr h

end AssertionFailure

/-- The text of a failure's document, where the line fits 64 bits, is read as the object with its
eight fields in their order. From that object the failure is found again, so equal texts are the
texts of equal failures. -/
theorem failure_document_lossless (failure other : AssertionFailure)
    (hfailure : failure.site.line ≤ Json.largestUnsigned)
    (hother : other.site.line ≤ Json.largestUnsigned) :
    Json.read? failure.toJson.toText = some (.object [
      ("matcher", .string failure.matcher.name),
      ("subject", .string failure.subject),
      ("label", failure.label.elim .null .string),
      ("expected", failure.expected.elim .null .string),
      ("received", .string failure.received),
      ("negated", .bool failure.negated),
      ("file", .string failure.site.file),
      ("line", .number (.integer failure.site.line))]) ∧
      failure.matcher.name.toList = Matcher.snakeCase failure.matcher.variantName.toList ∧
      (Json.read? failure.toJson.toText).bind AssertionFailure.ofJson? = some failure ∧
      (failure.toJson.toText = other.toJson.toText ↔ failure = other) := by
  have hread := (AssertionFailure.integral_toJson hfailure).read?_toText
  have hreadOther := (AssertionFailure.integral_toJson hother).read?_toText
  refine ⟨?_, Matcher.toList_name _, ?_, ⟨?_, ?_⟩⟩
  · rw [hread, AssertionFailure.toJson]
    cases failure.label <;> cases failure.expected <;> rfl
  · rw [hread, Option.bind_some, AssertionFailure.ofJson?_toJson]
  · intro htext
    have hsame : failure.toJson = other.toJson :=
      Option.some.inj (hread.symm.trans (htext ▸ hreadOther))
    have hdecoded := AssertionFailure.ofJson?_toJson failure
    rw [hsame, AssertionFailure.ofJson?_toJson] at hdecoded
    exact (Option.some.inj hdecoded).symm
  · rintro rfl
    rfl

/-- A subject made to look like the end of its field stays a subject, and an empty label is not an
absent one. -/
theorem failure_document_lossless_empty_label :
    let site : Site := ⟨"tests/cart.rs", 12⟩
    let forged : AssertionFailure :=
      ⟨.contain, "\",\"label\":\\\x01é", some "", none, "x", true, site⟩
    let plain (label : Option String) : AssertionFailure :=
      ⟨.contain, "x", label, none, "x", true, site⟩
    Json.read? forged.toJson.toText = some (.object [
      ("matcher", .string "to_contain"),
      ("subject", .string "\",\"label\":\\\x01é"),
      ("label", .string ""),
      ("expected", .null),
      ("received", .string "x"),
      ("negated", .bool true),
      ("file", .string "tests/cart.rs"),
      ("line", .number (.integer 12))]) ∧
    (plain (some "")).toJson.toText ≠ (plain none).toJson.toText := by
  intro site forged plain
  have hforged := failure_document_lossless forged forged (by decide) (by decide)
  have hplain := failure_document_lossless (plain (some "")) (plain none) (by decide) (by decide)
  refine ⟨hforged.1, fun htext => ?_⟩
  exact absurd (hplain.2.2.2.mp htext) (by decide)

end Attest
