import Attest.Proofs.TextContents

/-!
# Literal expressions

A pattern without metacharacters is read as the sequence of its characters, and the only thing that can
keep it from being read is its size. Such a sequence takes every position of a text to the one behind an
occurrence, if there is one, and a search starts at all positions. So a text matches a literal pattern
exactly when it contains it.
-/

namespace Attest

namespace Regex

/-- The characters that stand for more than themselves in a pattern. -/
def metacharacters : List Char :=
  ['\\', '.', '+', '*', '?', '(', ')', '|', '[', ']', '\x7b', '\x7d', '^', '$']

/-- All characters of a pattern stand for themselves. -/
def IsLiteral (pattern : List Char) : Prop :=
  ∀ c ∈ pattern, c ∉ metacharacters

instance (pattern : List Char) : Decidable (IsLiteral pattern) :=
  List.decidableBAll (fun c => c ∉ metacharacters) pattern

/-- The expression for some characters in a row. -/
def literal : List Char → Regex
  | [] => empty
  | c :: pattern => (pattern.map fun d => one (.single d)).foldl both (one (.single c))

/-! ### Reading a literal pattern -/

/-- The part that a character is read as. -/
def literalPart (c : Char) : Part :=
  .regex (one (.single c)) 0

theorem readChoice_literal_cons {c : Char} (h : c ∉ metacharacters) (fuel : Nat) (parts : List Part)
    (rest : List Char) :
    readChoice (fuel + 1) .initial [] parts [] (c :: rest) =
      readChoice fuel .initial [] (literalPart c :: parts) [] rest := by
  simp only [metacharacters, List.mem_cons, List.not_mem_nil, or_false, not_or] at h
  have hskip : skip Flags.initial.verbose (c :: rest) = c :: rest := rfl
  have hliteral : literalRegex .initial c false = .ok (one (.single c)) := rfl
  rw [readChoice, hskip]
  split <;> simp_all [literalPart, bind, Except.bind]

/-- Literal characters are read one by one, and each adds its part. -/
theorem readChoice_literal {pattern : List Char} (h : IsLiteral pattern) {fuel : Nat}
    (hfuel : pattern.length < fuel) (parts : List Part) :
    readChoice fuel .initial [] parts [] pattern =
      .ok ⟨(sequenceOf (parts.reverse ++ pattern.map literalPart)).1,
        (sequenceOf (parts.reverse ++ pattern.map literalPart)).2, [], []⟩ := by
  induction pattern generalizing fuel parts with
  | nil =>
    obtain ⟨fuel, rfl⟩ := Nat.exists_eq_succ_of_ne_zero (Nat.ne_zero_of_lt hfuel)
    simp [readChoice, skip, Flags.initial, choiceOf]
  | cons c pattern ih =>
    obtain ⟨fuel, rfl⟩ := Nat.exists_eq_succ_of_ne_zero (Nat.ne_zero_of_lt hfuel)
    obtain ⟨hc, hrest⟩ := List.forall_mem_cons.mp h
    rw [Nat.succ_eq_add_one, readChoice_literal_cons hc,
      ih hrest (by simpa using hfuel) (literalPart c :: parts)]
    simp

theorem sequenceOf_literal (pattern : List Char) :
    (sequenceOf (pattern.map literalPart)).1 = literal pattern ∧
      (sequenceOf (pattern.map literalPart)).2 ≤ 1 := by
  have hdepths : ∀ n, (List.replicate n 0).foldl max 0 = 0 := by
    intro n
    induction n with
    | zero => rfl
    | succ n ih => exact ih
  constructor
  · simp only [sequenceOf, List.filterMap_map, Function.comp_def, literalPart]
    cases pattern <;> simp [literal, List.filterMap_eq_map']
  · simp only [sequenceOf, List.map_map, Function.comp_def, literalPart, List.map_const', hdepths]
    split <;> omega

/-- A literal pattern is read as the sequence of its characters unless that is too large. -/
theorem ofPattern_literal_eq {pattern : List Char} (h : IsLiteral pattern) :
    ofPattern pattern =
      if weightLimit < (literal pattern).weight then .error .tooLarge else .ok (literal pattern) := by
  obtain ⟨hregex, hdepth⟩ := sequenceOf_literal pattern
  have hshallow : ¬ depthLimit < (sequenceOf (pattern.map literalPart)).2 := by
    have hlimit : depthLimit = 250 := rfl
    omega
  have hread := readChoice_literal h (Nat.lt_succ_self pattern.length) []
  rw [List.reverse_nil, List.nil_append] at hread
  rw [ofPattern, hread]
  simp [bind, Except.bind, hregex, hshallow, pure, Except.pure]

/-! ### Searching for it -/

theorem contains_single_iff {c d : Char} : (CharClass.single c).contains d.toNat = true ↔ d = c := by
  simp only [CharClass.single, CharClass.contains, Bool.and_eq_true, decide_eq_true_eq]
  rw [and_comm, ← Nat.le_antisymm_iff, Char.toNat_inj]

/-- A step leads from a position in the set over one occurrence of the character. -/
theorem getElem?_advance {c : Char} {text : List Char} {s : Positions} {k : Nat} :
    (Positions.advance (.single c) text s)[k]? = some true ↔
      ∃ i, k = i + 1 ∧ s[i]? = some true ∧ text[i]? = some c := by
  cases k with
  | zero => simp [Positions.advance]
  | succ k =>
    have hstep : (Positions.advance (.single c) text s)[k + 1]? = some true ↔
        s[k]? = some true ∧ text[k]? = some c := by
      rw [Positions.advance, List.getElem?_cons_succ, List.getElem?_zipWith]
      cases text[k]? <;> cases s[k]? <;> simp [contains_single_iff]
    simp [hstep]

/-- The positions behind the occurrences of a literal pattern that start in a set. -/
theorem getElem?_foldl_advance {text : List Char} (pattern : List Char) {s : Positions} {k : Nat} :
    (pattern.foldl (fun s c => Positions.advance (.single c) text s) s)[k]? = some true ↔
      ∃ i, k = i + pattern.length ∧ s[i]? = some true ∧ pattern <+: text.drop i := by
  induction pattern generalizing s with
  | nil => simp
  | cons c pattern ih =>
    rw [List.foldl_cons, ih]
    constructor
    · rintro ⟨j, rfl, hj, hrest⟩
      obtain ⟨i, rfl, hi, hc⟩ := getElem?_advance.mp hj
      refine ⟨i, by rw [List.length_cons]; omega, hi, ?_⟩
      rw [List.drop_eq_getElem?_toList_append, hc]
      exact List.cons_prefix_cons.mpr ⟨rfl, hrest⟩
    · rintro ⟨i, rfl, hi, hoccurs⟩
      rw [List.drop_eq_getElem?_toList_append] at hoccurs
      cases hc : text[i]? with
      | none =>
        have hend : text.length ≤ i + 1 := Nat.le_succ_of_le (List.getElem?_eq_none_iff.mp hc)
        simp [hc, List.drop_eq_nil_of_le hend] at hoccurs
      | some d =>
        rw [hc] at hoccurs
        obtain ⟨rfl, hrest⟩ := List.cons_prefix_cons.mp hoccurs
        refine ⟨i + 1, by rw [List.length_cons]; omega, ?_, hrest⟩
        exact getElem?_advance.mpr ⟨i, rfl, hi, hc⟩

theorem ends_foldl_both (text : List Char) (first : Regex) (rest : List Regex) (s : Positions) :
    ends text (rest.foldl both first) s =
      rest.foldl (fun s regex => ends text regex s) (ends text first s) := by
  induction rest generalizing first with
  | nil => rfl
  | cons regex rest ih => exact ih (both first regex)

theorem ends_literal (text pattern : List Char) (s : Positions) :
    ends text (literal pattern) s =
      pattern.foldl (fun s c => Positions.advance (.single c) text s) s := by
  cases pattern with
  | nil => rfl
  | cons c pattern =>
    rw [literal, ends_foldl_both, List.foldl_map]
    rfl

/-- A text matches a literal pattern exactly when the pattern occurs in it. -/
theorem matchesIn_literal (pattern text : List Char) :
    (literal pattern).matchesIn text = true ↔ pattern <:+: text := by
  have hstart (i : Nat) : (List.replicate (text.length + 1) true)[i]? = some true ↔
      i ≤ text.length := by
    simp only [List.getElem?_replicate, Option.ite_none_right_eq_some, and_true, Nat.lt_succ_iff]
  rw [matchesIn, ends_literal, List.any_eq_true]
  simp only [id, exists_eq_right, List.mem_iff_getElem?, getElem?_foldl_advance, hstart]
  constructor
  · rintro ⟨k, i, -, -, hoccurs⟩
    exact hoccurs.isInfix.trans (List.drop_suffix i text).isInfix
  · rintro ⟨before, after, rfl⟩
    refine ⟨before.length + pattern.length, before.length, rfl, ?_, after, ?_⟩
    · simp
    · simp

/-- What a literal pattern is read as matches a text exactly when the pattern occurs in it. -/
theorem matchesIn_ofPattern {pattern : List Char} (h : IsLiteral pattern) {regex : Regex}
    (hread : ofPattern pattern = .ok regex) (text : List Char) :
    regex.matchesIn text = true ↔ pattern <:+: text := by
  rw [ofPattern_literal_eq h] at hread
  split at hread
  · cases hread
  · cases hread
    exact matchesIn_literal pattern text

end Regex

theorem Kind.Searches.text?_eq {subject item : Kind.Any} {s t : String}
    (h : Kind.Searches subject item s t) : subject.1.text? subject.2 = some s := by
  have hbare := Kind.passedOn_bare Kind.text? (fun _ _ _ => rfl) subject.2
  cases h with
  | text hs ht => rw [hbare, hs, Kind.text?]
  | document hs ht => rw [hbare, hs, Kind.text?, Json.text?]

theorem Expectation.outcome_pattern {kind : Kind} {value : kind.Value} {text pattern : String}
    (htext : kind.text? value = some text) {regex : Regex}
    (hread : Regex.ofPattern pattern.toList = .ok regex) :
    (Check.pattern pattern).outcome value = .ok (regex.matchesIn text.toList) := by
  simp only [Check.outcome, htext, hread]

/-- A search for a literal pattern is a search for a text. If the pattern can be read at all, a text
matches it exactly when the text contains it, under either polarity: the check passes where the pattern
stands between two texts, unless it is negated, and fails otherwise. The empty pattern can be read and
is found in every text. -/
theorem literal_pattern_matches_contents {kind : Kind} (expectation : Expectation kind) (text : String)
    (htext : kind.text? expectation.value = some text) (renderer : Renderer) (site site' : Site) :
    (∀ (item : Kind.Any) (pattern : String),
      Kind.Searches ⟨kind, expectation.value⟩ item text pattern →
      Regex.IsLiteral pattern.toList → (∃ regex, Regex.ofPattern pattern.toList = .ok regex) →
      expectation.SameVerdict renderer site site' (.pattern pattern) expectation
        (.contain item.1 item.2) ∧
      (expectation.Passes renderer site (.pattern pattern) ↔
        ((∃ before after, text = before ++ pattern ++ after) ↔ expectation.negated = false)) ∧
      (expectation.Fails renderer site (.pattern pattern) ↔
        ((∃ before after, text = before ++ pattern ++ after) ↔ expectation.negated = true))) ∧
    (expectation.Passes renderer site (.pattern "") ↔ expectation.negated = false) ∧
    (expectation.Fails renderer site (.pattern "") ↔ expectation.negated = true) := by
  have hmatches (pattern : String) (hliteral : Regex.IsLiteral pattern.toList) (regex : Regex)
      (hregex : Regex.ofPattern pattern.toList = .ok regex) :
      regex.matchesIn text.toList = true ↔ ∃ before after, text = before ++ pattern ++ after := by
    rw [Regex.matchesIn_ofPattern hliteral hregex, Text.infix_iff_exists]
  constructor
  · rintro item pattern hsearch hliteral ⟨regex, hregex⟩
    have houtcome := Expectation.outcome_pattern htext hregex
    have hoccurs := hmatches pattern hliteral regex hregex
    have hcontains : (Check.contain item.1 item.2).outcome expectation.value =
        .ok (Text.contains text pattern) := Expectation.outcome_contain hsearch.contains?_eq
    have hsame : regex.matchesIn text.toList = Text.contains text pattern := by
      rw [Bool.eq_iff_iff, hoccurs, Text.contains, Text.occursIn_iff_isInfix, Text.infix_iff_exists]
    refine ⟨?_, Expectation.passes_iff_condition houtcome hoccurs,
      Expectation.fails_iff_condition houtcome hoccurs⟩
    rw [hsame] at houtcome
    exact Expectation.sameVerdict_of_outcome houtcome hcontains Iff.rfl
  · have hempty : Regex.ofPattern "".toList = .ok .empty := rfl
    have houtcome := Expectation.outcome_pattern htext hempty
    have hoccurs := hmatches "" (by decide) .empty hempty
    have hfound : ∃ before after, text = before ++ "" ++ after := ⟨"", text, by simp⟩
    rw [Expectation.passes_iff_condition houtcome hoccurs,
      Expectation.fails_iff_condition houtcome hoccurs]
    exact ⟨iff_true_left hfound, iff_true_left hfound⟩

/-- A pattern of wide characters is found at the end of a document's text, behind a beginning of it that
breaks off, and is read though it holds a blank and a hyphen. -/
theorem literal_pattern_matches_contents_near_miss :
    let expectation : Expectation (.pointer .borrowed .json) :=
      .ofValue ⟨.object 0, .string "é -é -è"⟩ none
    let item : Kind.Any := ⟨.pointer .borrowed .text, ⟨.object 1, "é -è"⟩⟩
    let site : Site := ⟨"tests/cart.rs", 8⟩
    Kind.text? _ expectation.value = some "é -é -è" ∧
    Kind.Searches ⟨_, expectation.value⟩ item "é -é -è" "é -è" ∧
    Regex.IsLiteral "é -è".toList ∧ (∃ regex, Regex.ofPattern "é -è".toList = .ok regex) ∧
    expectation.Passes .initial site (.pattern "é -è") ∧
    expectation.Passes .initial site (.contain item.1 item.2) := by
  intro expectation item site
  have htext : Kind.text? _ expectation.value = some "é -é -è" := rfl
  have hsearch : Kind.Searches ⟨_, expectation.value⟩ item "é -é -è" "é -è" := .document rfl (.text rfl)
  have hliteral : Regex.IsLiteral "é -è".toList := by decide
  have hread : ∃ regex, Regex.ofPattern "é -è".toList = .ok regex := ⟨_, rfl⟩
  obtain ⟨hfound, -⟩ :=
    literal_pattern_matches_contents expectation "é -é -è" htext .initial site site
  obtain ⟨hsame, hpasses, -⟩ := hfound item "é -è" hsearch hliteral hread
  have hpass : expectation.Passes .initial site (.pattern "é -è") :=
    hpasses.mpr (iff_of_true ⟨"é -", "", by decide⟩ rfl)
  exact ⟨htext, hsearch, hliteral, hread, hpass, hsame.passes.mp hpass⟩

end Attest
