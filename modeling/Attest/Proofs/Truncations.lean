import Attest.Proofs.Messages

/-!
# Widths of cut texts

A text that is too wide is cut to exactly the width, and a text that fits is left alone. The cut can
be made with a prefix of bytes and a difference of machine words, and neither of them ever goes wrong.
Cutting twice is cutting once, to the smaller width: what the first cut leaves starts like the text
itself, up to where the dots of the second one begin.
-/

namespace Attest

namespace Text

/-- The difference of two machine words, unless it is negative. -/
def difference? (a b : UInt64) : Option UInt64 :=
  if b ≤ a then some (a - b) else none

/-- The first bytes of a text, unless they end inside a character or past the end. -/
def firstBytes? (text : String) (bytes : UInt64) : Option String :=
  (text.pos? ⟨bytes.toNat⟩).map fun stop => (text.sliceTo stop).copy

/-- Cuts a text as a machine does, with operations that have no result where they would stop it. -/
def truncate? (width : UInt64) (text : String) : Option String :=
  let dots := String.ofList ellipsis
  if text.length ≤ width.toNat then some text
  else if width.toNat < dots.utf8ByteSize then firstBytes? dots width
  else (difference? width (.ofNat dots.utf8ByteSize)).map fun kept =>
    .ofList (text.toList.take kept.toNat) ++ dots

theorem take_ellipsis_of_le {width : Nat} (h : width ≤ 3) :
    ellipsis.take width = List.replicate width '.' := by
  have hdots : ellipsis = List.replicate 3 '.' := rfl
  rw [hdots, List.take_replicate, min_eq_left h]

/-- Up to where the dots of a narrower cut begin, a cut text reads like the text itself. -/
theorem truncate_truncate (m n : Nat) (text : List Char) :
    truncate m (truncate n text) = truncate (min m n) text := by
  have hlength := length_truncate n text
  by_cases hn : text.length ≤ n
  · rw [truncate_of_length_le hn]
    by_cases hm : m ≤ n
    · rw [min_eq_left hm]
    · rw [truncate_of_length_le (by omega), truncate_of_length_le (by omega)]
  by_cases hm : n ≤ m
  · rw [min_eq_right hm, truncate_of_length_le (by omega)]
  · have hkept : m - 3 ≤ (text.take (n - 3)).length := by
      rw [List.length_take]
      omega
    rw [min_eq_left (by omega), truncate_of_lt (by omega), truncate_of_lt (by omega),
      truncate_of_lt (by omega), List.take_append_of_le_length hkept, List.take_take]
    congr 2
    omega

/-- Fewer than three bytes of the dots are whole dots. -/
theorem firstBytes?_ellipsis {width : UInt64} (h : width.toNat < 3) :
    firstBytes? (.ofList ellipsis) width = some (.ofList (ellipsis.take width.toNat)) := by
  have hfew : ∀ n < 3, ((String.ofList ellipsis).pos? ⟨n⟩).map
      (fun stop => ((String.ofList ellipsis).sliceTo stop).copy) =
        some (.ofList (ellipsis.take n)) := by
    decide
  exact hfew width.toNat h

theorem difference?_three {width : UInt64} (h : 3 ≤ width.toNat) :
    ∃ kept, difference? width 3 = some kept ∧ kept.toNat = width.toNat - 3 := by
  have hle : (3 : UInt64) ≤ width := UInt64.le_iff_toNat_le.mpr h
  refine ⟨width - 3, if_pos hle, ?_⟩
  rw [UInt64.toNat_sub_of_le _ _ hle]
  rfl

/-- No operation of a cut goes wrong. -/
theorem truncate?_eq_some (width : UInt64) (text : String) :
    truncate? width text = some (.ofList (truncate width.toNat text.toList)) := by
  have hbytes : (String.ofList ellipsis).utf8ByteSize = 3 := by decide
  have hword : UInt64.ofNat 3 = 3 := rfl
  simp only [truncate?, hbytes, hword]
  by_cases hfits : text.length ≤ width.toNat
  · have hlength : text.toList.length ≤ width.toNat := by
      rwa [String.length_toList]
    rw [if_pos hfits, truncate_of_length_le hlength, String.ofList_toList]
  have hwide : width.toNat < text.toList.length := by
    rw [String.length_toList]
    omega
  rw [if_neg hfits, truncate_of_lt hwide]
  by_cases hfew : width.toNat < 3
  · have hnone : width.toNat - 3 = 0 := by omega
    rw [if_pos hfew, firstBytes?_ellipsis hfew, hnone, List.take_zero, List.nil_append]
  · obtain ⟨kept, hkept, hvalue⟩ := difference?_three (Nat.not_lt.mp hfew)
    have hall : ellipsis.take width.toNat = ellipsis :=
      List.take_of_length_le (Nat.not_lt.mp hfew)
    rw [if_neg hfew, hkept, hall, Option.map_some, hvalue, String.ofList_append]

end Text

namespace Renderer

variable (renderer : Renderer)

theorem toList_truncate (text : List Char) :
    (renderer.truncate text).toList = Text.truncate renderer.config.truncateAt text :=
  String.toList_ofList

theorem length_truncate (text : List Char) :
    (renderer.truncate text).length = min text.length renderer.config.truncateAt := by
  rw [← String.length_toList, toList_truncate, Text.length_truncate]

theorem length_render_le (kind : Kind) (value : kind.Value) :
    (renderer.render kind value).length ≤ renderer.config.truncateAt := by
  rw [render, length_truncate]
  exact min_le_right _ _

/-- Of two widths the smaller one shows, whichever text was cut first. -/
theorem truncate_truncate (other : Renderer) (text : List Char) :
    renderer.truncate (other.truncate text).toList =
      .ofList (Text.truncate (min renderer.config.truncateAt other.config.truncateAt) text) := by
  rw [toList_truncate, truncate, Text.truncate_truncate]

end Renderer

/-- The texts of values in a failure keep to a width. A label and a length that was found are no such
texts. -/
structure AssertionFailure.FitsIn (failure : AssertionFailure) (width : Nat) : Prop where
  subject : failure.label = none → failure.subject.length ≤ width
  expected : ∀ text, failure.expected = some text → text.length ≤ width
  received : failure.matcher ≠ .haveLength → failure.received.length ≤ width

theorem Expectation.fitsIn_of_check {kind : Kind} {renderer : Renderer} {site : Site}
    {expectation : Expectation kind} {check : Check kind} {failure : AssertionFailure}
    (h : expectation.check renderer site check = .error (.assertion failure)) :
    failure.FitsIn renderer.config.truncateAt := by
  have hreports := failure_reports h
  refine ⟨fun hlabel => ?_, fun text htext => ?_, fun hmatcher => ?_⟩
  · rw [hreports.subject_eq, ← hreports.label_eq, hlabel]
    exact renderer.length_render_le kind expectation.value
  · rw [hreports.expected_eq] at htext
    obtain ⟨operand, -, rfl⟩ := Option.map_eq_some_iff.mp htext
    exact renderer.length_render_le operand.1 operand.2
  · rw [hreports.received_value (hreports.matcher_eq ▸ hmatcher)]
    exact renderer.length_render_le kind expectation.value

/-- Truncation at every width of a machine word. No operation of it goes wrong; the result has as many
characters as the text and the width allow, is the text itself where that fits, and else its beginning
and three dots, or dots alone where no more fits. So no shown value is wider than the width, and in a
failure only labels and lengths can be. -/
theorem truncation_exact (width : UInt64) (pretty : Bool) :
    let renderer : Renderer := ⟨⟨width.toNat, pretty⟩⟩
    (∀ text : String,
      Text.truncate? width text = some (renderer.truncate text.toList) ∧
      (renderer.truncate text.toList).length = min text.length width.toNat ∧
      (text.length ≤ width.toNat → renderer.truncate text.toList = text) ∧
      (width.toNat < text.length → 3 ≤ width.toNat →
        renderer.truncate text.toList =
          .ofList (text.toList.take (width.toNat - 3)) ++ "...") ∧
      (width.toNat < text.length → width.toNat < 3 →
        renderer.truncate text.toList = .ofList (.replicate width.toNat '.'))) ∧
    (∀ (kind : Kind) (value : kind.Value), (renderer.render kind value).length ≤ width.toNat) ∧
    ∀ (kind : Kind) (expectation : Expectation kind) (check : Check kind) (site : Site)
      (failure : AssertionFailure),
      expectation.check renderer site check = .error (.assertion failure) →
        failure.FitsIn width.toNat := by
  intro renderer
  refine ⟨fun text => ⟨Text.truncate?_eq_some width text, ?_, fun hfits => ?_, fun hwide hroom => ?_,
    fun hwide hfew => ?_⟩, renderer.length_render_le, fun _ _ _ _ _ h => Expectation.fitsIn_of_check h⟩
  · rw [renderer.length_truncate, String.length_toList]
  · have hlength : text.toList.length ≤ width.toNat := by rwa [String.length_toList]
    rw [Renderer.truncate, Text.truncate_of_length_le hlength, String.ofList_toList]
  · have hlength : width.toNat < text.toList.length := by rwa [String.length_toList]
    have hall : Text.ellipsis.take width.toNat = Text.ellipsis := List.take_of_length_le hroom
    rw [Renderer.truncate, Text.truncate_of_lt hlength, hall, String.ofList_append]
    rfl
  · have hlength : width.toNat < text.toList.length := by rwa [String.length_toList]
    have hnone : width.toNat - 3 = 0 := by omega
    rw [Renderer.truncate, Text.truncate_of_lt hlength, hnone, List.take_zero, List.nil_append,
      Text.take_ellipsis_of_le (Nat.le_of_lt hfew)]

/-- Characters count, not bytes: six of seven are allowed and three of them stay. -/
theorem truncation_exact_wide_characters :
    let renderer : Renderer := ⟨⟨6, false⟩⟩
    let text := "日本語ですよね"
    6 < text.length ∧ renderer.truncate text.toList = "日本語..." ∧
    Text.truncate? 6 text = some "日本語..." ∧ (renderer.render .text text).length ≤ 6 := by
  intro renderer text
  obtain ⟨htexts, hvalues, -⟩ := truncation_exact 6 false
  obtain ⟨hbytes, -, -, hcut, -⟩ := htexts text
  have hwide : 6 < text.length := by decide
  have hroom : 3 ≤ (6 : UInt64).toNat := by decide
  have hresult : renderer.truncate text.toList = "日本語..." :=
    (hcut hwide hroom).trans (by decide)
  exact ⟨hwide, hresult, hbytes.trans (congrArg some hresult), hvalues .text text⟩

/-- Truncations compose. Two of them are one to the smaller width, in either order, and one more to the
same width changes nothing; so a value at a smaller width is shown as what is left of it at a larger
one. -/
theorem truncations_compose (m n : Nat) (pretty pretty' : Bool) (text : String) :
    let renderer : Renderer := ⟨⟨m, pretty⟩⟩
    let other : Renderer := ⟨⟨n, pretty'⟩⟩
    renderer.truncate (other.truncate text.toList).toList =
      Renderer.truncate ⟨⟨min m n, pretty⟩⟩ text.toList ∧
    renderer.truncate (other.truncate text.toList).toList =
      other.truncate (renderer.truncate text.toList).toList ∧
    renderer.truncate (renderer.truncate text.toList).toList = renderer.truncate text.toList ∧
    (m ≤ n → ∀ (kind : Kind) (value : kind.Value),
      Renderer.render ⟨⟨m, pretty⟩⟩ kind value =
        renderer.truncate (Renderer.render ⟨⟨n, pretty⟩⟩ kind value).toList) := by
  intro renderer other
  refine ⟨renderer.truncate_truncate other _, ?_, ?_, fun hle kind value => ?_⟩
  · rw [renderer.truncate_truncate other, other.truncate_truncate renderer, min_comm]
  · rw [renderer.truncate_truncate renderer, min_self]
    rfl
  · have hcut := renderer.truncate_truncate ⟨⟨n, pretty⟩⟩ (kind.shown renderer.config.layout value)
    rw [min_eq_left hle] at hcut
    exact hcut.symm

/-- The dots of the first cut give way to those of the second one. -/
theorem truncations_compose_inside_dots :
    let renderer : Renderer := ⟨⟨4, true⟩⟩
    4 ≤ 5 ∧ Renderer.render ⟨⟨5, true⟩⟩ .int (1234567 : Int) = "12..." ∧
    Renderer.render ⟨⟨4, true⟩⟩ .int (1234567 : Int) = "1..." ∧
    renderer.truncate "12...".toList = "1..." := by
  intro renderer
  have hwide : Renderer.render ⟨⟨5, true⟩⟩ .int (1234567 : Int) = "12..." := by decide
  have hnarrow : Renderer.render ⟨⟨4, true⟩⟩ .int (1234567 : Int) = "1..." := by decide
  obtain ⟨-, -, -, hcompose⟩ := truncations_compose 4 5 true true ""
  have hcut := hcompose (by decide) .int (1234567 : Int)
  rw [hwide, hnarrow] at hcut
  exact ⟨by decide, hwide, hnarrow, hcut.symm⟩

end Attest
