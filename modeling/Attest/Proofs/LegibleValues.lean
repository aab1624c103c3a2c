import Attest.Proofs.ConsistentOrder
import Attest.Proofs.JsonRoundTrip
import Attest.Proofs.QuotedTexts
import Attest.Proofs.ShownParts

/-!
# Values told apart by their texts

Values made of integers, truth values, characters, texts, options, sequences and tuples have the same
text only if they are equal: a shown value determines its parts from left to right, and escapes keep a
text from passing for anything else. So a failed comparison whose sides are not cut shows what is
different.
-/

namespace Attest

theorem EndsPart.isDigit_eq_false {rest : List Char} (h : EndsPart rest) :
    ∀ c ∈ rest.head?, Number.isDigit c = false := by
  intro c hc
  obtain rfl | rfl | rfl := h c hc <;> rfl

theorem legible_truth : Legible Layout.truth Layout.truth fun a b => a == b := by
  apply Legible.of_inj
  · intro b
    cases b <;> exact startsPart_cons (by decide) _
  · intro a b rest rest' _ _ h
    cases a <;> cases b
    · exact ⟨rfl, List.append_cancel_left h⟩
    · cases h
    · cases h
    · exact ⟨rfl, List.append_cancel_left h⟩

theorem legible_integerChars :
    Legible Number.integerChars Number.integerChars fun m n => m == n := by
  apply Legible.of_inj
  · intro n
    obtain ⟨c, rest, hn, hc⟩ := Json.integerChars_eq_cons n
    have hbracket : c ≠ ']' := by
      rintro rfl
      exact Json.notMem_otherMarks hc (by decide)
    rw [hn]
    exact startsPart_cons hbracket rest
  · intro m n rest rest' hrest hrest' h
    exact Number.integerChars_append_inj hrest.isDigit_eq_false hrest'.isDigit_eq_false h

theorem legible_quotedText : Legible Text.quotedText Text.quotedText fun s t => s == t := by
  apply Legible.of_inj
  · intro s
    exact startsPart_cons (by decide) _
  · intro s t rest rest' _ _ h
    obtain ⟨htext, hends⟩ := Text.quoted_append_inj (Or.inl rfl) h
    exact ⟨String.toList_injective htext, hends⟩

theorem legible_quotedChar :
    Legible (fun c => Text.quoted '\'' [c]) (fun c => Text.quoted '\'' [c]) fun c d => c == d := by
  apply Legible.of_inj
  · intro c
    exact startsPart_cons (by decide) _
  · intro c d rest rest' _ _ h
    obtain ⟨htext, hends⟩ := Text.quoted_append_inj (Or.inr rfl) h
    exact ⟨List.head_eq_of_cons_eq htext, hends⟩

namespace Kind

/-- Kinds that are alike but for the pointers in them and the way in which sequences are held, built
from the kinds whose values are told apart by their texts. -/
inductive Alike : Kind → Kind → Prop where
  | unit : Alike .unit .unit
  | bool : Alike .bool .bool
  | char : Alike .char .char
  | int : Alike .int .int
  | text : Alike .text .text
  | option {item other : Kind} (h : Alike item other) : Alike (.option item) (.option other)
  | sequence (form form' : SequenceForm) {item other : Kind} (h : Alike item other) :
    Alike (.sequence form item) (.sequence form' other)
  | tuple {more : Nat} {part part' : Fin (more + 1) → Kind} (h : ∀ i, Alike (part i) (part' i)) :
    Alike (.tuple more part) (.tuple more part')
  | pointerLeft (form : PointerForm) {target other : Kind} (h : Alike target other) :
    Alike (.pointer form target) other
  | pointerRight (form : PointerForm) {kind target : Kind} (h : Alike kind target) :
    Alike kind (.pointer form target)

theorem agrees_option (item other : Kind) :
    (fun (v : (option item).Value) (w : (option other).Value) =>
        agrees (.option item) v (.option other) w) =
      fun v w => equalEach (fun a b => agrees item a other b) v.toList w.toList := by
  funext v w
  match v, w with
  | none, none | none, some _ | some _, none => rfl
  | some a, some b => exact (Bool.and_true (agrees item a other b)).symm

theorem agrees_tuple {more : Nat} (part part' : Fin (more + 1) → Kind) :
    (fun (v : (tuple more part).Value) (w : (tuple more part').Value) =>
        agrees (.tuple more part) v (.tuple more part') w) =
      equalRow fun i a b => agrees (part i) a (part' i) b :=
  funext₂ fun _ _ => dif_pos rfl

/-- The text of a value determines it, in either layout and whatever follows. -/
theorem Alike.legible {kind other : Kind} (h : Alike kind other) (layout : Layout) :
    Legible (kind.shown layout) (other.shown layout) fun a b => kind.agrees a other b := by
  induction h generalizing layout with
  | unit =>
    refine ⟨fun _ _ _ => rfl, fun _ _ rest rest' _ _ h => ⟨rfl, ?_⟩, ?_⟩
    · exact List.append_cancel_left h
    · exact ⟨fun _ => startsPart_cons (by decide) _, fun _ => startsPart_cons (by decide) _⟩
  | bool => exact legible_truth
  | char => exact legible_quotedChar
  | int => exact legible_integerChars
  | text => exact legible_quotedText
  | option h ih =>
    rw [agrees_option]
    exact (ih layout.inner).option layout
  | sequence form form' h ih => exact (ih layout.inner).list layout
  | tuple h ih =>
    rw [agrees_tuple]
    exact .row (fun i => ih i layout.inner) layout
  | pointerLeft form h ih => exact (ih layout).comap Pointer.target id
  | pointerRight form h ih =>
    simp only [agrees_pointer]
    exact (ih layout).comap id Pointer.target

/-- Alike values have the same text exactly when they are equal. -/
theorem Alike.shown_eq_iff {kind other : Kind} (h : Alike kind other) (layout : Layout)
    (a : kind.Value) (b : other.Value) :
    kind.shown layout a = other.shown layout b ↔ kind.agrees a other b = true := by
  have hnothing : EndsPart [] := fun _ hc => nomatch hc
  constructor
  · intro hshown
    exact ((h.legible layout).apart a b [] [] hnothing hnothing (by rw [hshown])).1
  · exact (h.legible layout).same a b

end Kind

theorem Renderer.render_of_length_le (renderer : Renderer) (kind : Kind) {value : kind.Value}
    (h : (kind.shown renderer.config.layout value).length ≤ renderer.config.truncateAt) :
    renderer.render kind value = .ofList (kind.shown renderer.config.layout value) := by
  rw [render, truncate, Text.truncate_of_length_le h]

/-- What a failed comparison of an unlabelled value shows. -/
theorem Expectation.texts_of_failed_equal {kind other : Kind} {renderer : Renderer} {site : Site}
    {expectation : Expectation kind} {operand : other.Value} {failure : AssertionFailure}
    (hlabel : expectation.label = none)
    (h : expectation.check renderer site (.equal other operand) = .error (.assertion failure)) :
    failure.subject = renderer.render kind expectation.value ∧
      failure.expected = some (renderer.render other operand) ∧
      kind.agrees expectation.value other operand = expectation.negated := by
  have hreports := failure_reports h
  obtain ⟨houtcome, -⟩ := failure_of_check h
  refine ⟨?_, hreports.expected_eq, Except.ok.inj houtcome⟩
  rw [hreports.subject_eq, hlabel, Option.getD_none]

/-- A failed comparison is legible when nothing is cut. The two shown sides coincide exactly when the
values are equal: a comparison fails for different texts and shows them, and a negated one fails for
one text and shows it twice. -/
theorem uncut_comparison_legible {kind other : Kind} (h : Kind.Alike kind other) (a : kind.Value)
    (b : other.Value) (renderer : Renderer) (site : Site)
    (ha : (kind.shown renderer.config.layout a).length ≤ renderer.config.truncateAt)
    (hb : (other.shown renderer.config.layout b).length ≤ renderer.config.truncateAt) :
    let expectation : Expectation kind := .ofValue a none
    (renderer.render kind a = renderer.render other b ↔ kind.agrees a other b = true) ∧
    (expectation.Fails renderer site (.equal other b) ↔
      renderer.render kind a ≠ renderer.render other b) ∧
    (∀ failure, expectation.check renderer site (.equal other b) = .error (.assertion failure) →
      ∃ text, failure.expected = some text ∧ failure.subject ≠ text) ∧
    (expectation.not.Fails renderer site (.equal other b) ↔
      renderer.render kind a = renderer.render other b) ∧
    (∀ failure, expectation.not.check renderer site (.equal other b) = .error (.assertion failure) →
      failure.expected = some failure.subject) := by
  intro expectation
  have htexts : renderer.render kind a = renderer.render other b ↔ kind.agrees a other b = true := by
    rw [renderer.render_of_length_le kind ha, renderer.render_of_length_le other hb,
      ← h.shown_eq_iff renderer.config.layout a b]
    exact ⟨fun hsame => String.ofList_injective hsame, fun hsame => congrArg String.ofList hsame⟩
  have houtcome : (Check.equal other b).outcome a = .ok (kind.agrees a other b) := rfl
  have hplain : expectation.Fails renderer site (.equal other b) ↔ kind.agrees a other b = false :=
    Expectation.fails_iff houtcome
  have hnegated : expectation.not.Fails renderer site (.equal other b) ↔
      kind.agrees a other b = true := Expectation.fails_iff houtcome
  refine ⟨htexts, ?_, fun failure hfailure => ?_, ?_, fun failure hfailure => ?_⟩
  · rw [hplain, ne_eq, htexts, Bool.not_eq_true]
  · obtain ⟨hsubject, hexpected, hunequal⟩ := Expectation.texts_of_failed_equal rfl hfailure
    refine ⟨_, hexpected, fun hsame => ?_⟩
    rw [hsubject] at hsame
    exact Bool.false_ne_true (hunequal.symm.trans (htexts.mp hsame))
  · rw [hnegated, htexts]
  · obtain ⟨hsubject, hexpected, hequal⟩ := Expectation.texts_of_failed_equal rfl hfailure
    rw [hexpected, hsubject]
    exact congrArg some (htexts.mpr hequal).symm

/-- A line break inside a text is not one between two texts, whoever owns them. -/
theorem uncut_comparison_legible_line_break :
    let owned : Kind := .sequence .vector .text
    let borrowed : Kind := .sequence .slice (.pointer .borrowed .text)
    let one : owned.Value := ["\"\n"]
    let two : borrowed.Value := [⟨.object 0, "\""⟩, ⟨.object 1, ""⟩]
    let renderer : Renderer := ⟨⟨25, true⟩⟩
    let site : Site := ⟨"tests/cart.rs", 12⟩
    let expectation : Expectation owned := .ofValue one none
    Kind.Alike owned borrowed ∧
    (owned.shown (.spread 0) one).length ≤ 25 ∧ (borrowed.shown (.spread 0) two).length ≤ 25 ∧
    renderer.render owned one = "[\n    \"\\\"\\n\",\n]" ∧
    renderer.render borrowed two = "[\n    \"\\\"\",\n    \"\",\n]" ∧
    expectation.Fails renderer site (.equal borrowed two) := by
  intro owned borrowed one two renderer site expectation
  have halike : Kind.Alike owned borrowed := .sequence _ _ (.pointerRight _ .text)
  have hone : (owned.shown (.spread 0) one).length ≤ 25 := by decide
  have htwo : (borrowed.shown (.spread 0) two).length ≤ 25 := by decide
  have hshown : renderer.render owned one = "[\n    \"\\\"\\n\",\n]" := by decide
  have hshown' : renderer.render borrowed two = "[\n    \"\\\"\",\n    \"\",\n]" := by decide
  have hdifferent : renderer.render owned one ≠ renderer.render borrowed two := by
    rw [hshown, hshown']
    decide
  obtain ⟨-, hfails, -⟩ := uncut_comparison_legible halike one two renderer site hone htwo
  exact ⟨halike, hone, htwo, hshown, hshown', hfails.mpr hdifferent⟩

end Attest
