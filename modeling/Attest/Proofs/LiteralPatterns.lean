import Attest.Registry.Basic
import Mathlib.Data.List.Infix

/-!
# Literal patterns

A pattern none of whose characters has a meaning of its own describes one text, and with a star
behind it the texts that begin with it. No character of the texts is special: neither a slash nor a
colon stops the star, and a leading dot does not hide a text from it. A registry therefore selects by
such patterns as plain filters on name and id do.
-/

namespace Attest

namespace Glob

/-- None of the characters stands for anything but itself in a pattern. -/
def IsLiteral (s : List Char) : Prop :=
  ∀ c ∈ s, c ∉ ['?', '*', '[', ']']

instance (s : List Char) : Decidable (IsLiteral s) :=
  List.decidableBAll (fun c => c ∉ ['?', '*', '[', ']']) s

theorem IsLiteral.append {s t : List Char} (hs : IsLiteral s) (ht : IsLiteral t) :
    IsLiteral (s ++ t) :=
  fun c hc => (List.mem_append.mp hc).elim (hs c) (ht c)

theorem read_cons_literal {c : Char} (h : c ∉ ['?', '*', '[', ']']) (position : Nat)
    (previous : Option Char) (rest : List Char) :
    read position previous (c :: rest) =
      (read (position + 1) (some c) rest).map (.char c :: ·) := by
  simp only [List.mem_cons, List.not_mem_nil, or_false, not_or] at h
  obtain ⟨hany, hmany, hopen, -⟩ := h
  rw [read] <;> simp_all

/-- Literal characters are read one by one, whatever follows them. -/
theorem read_literal_append {s : List Char} (h : IsLiteral s) (position : Nat)
    (previous : Option Char) (rest : List Char) :
    read position previous (s ++ rest) =
      (read (position + s.length) (s.getLast?.or previous) rest).map (s.map .char ++ ·) := by
  induction s generalizing position previous with
  | nil =>
    change read position previous rest = Except.map _ (read position previous rest)
    cases read position previous rest <;> rfl
  | cons c s ih =>
    have hc := h c List.mem_cons_self
    have hs : IsLiteral s := fun d hd => h d (List.mem_cons_of_mem c hd)
    rw [List.cons_append, read_cons_literal hc, ih hs]
    have hlast : s.getLast?.or (some c) = (c :: s).getLast?.or previous := by
      rw [List.getLast?_cons]
      cases s.getLast? <;> rfl
    have hplace : position + 1 + s.length = position + (c :: s).length := by
      simp only [List.length_cons]
      omega
    rw [hlast, hplace]
    cases read (position + (c :: s).length) ((c :: s).getLast?.or previous) rest <;> rfl

/-- A trial of literal characters succeeds where the text begins with them and the rest succeeds on
what remains of it. -/
theorem trial_literal_append_iff (s : List Char) (tokens : List Token) (text : List Char) :
    trial (s.map .char ++ tokens) text = .matched ↔
      ∃ rest, text = s ++ rest ∧ trial tokens rest = .matched := by
  induction s generalizing text with
  | nil => simp
  | cons c s ih =>
    cases text with
    | nil => simp [trial, tryOne]
    | cons d text =>
      by_cases hd : d = c
      · subst hd
        simpa [trial, tryOne] using ih text
      · simp [trial, tryOne, hd]

theorem trial_nil_iff (text : List Char) : trial [] text = .matched ↔ text = [] := by
  cases text <;> simp [trial]

/-- A star at the end takes whatever is left. -/
theorem trial_many (text : List Char) : trial [.many] text = .matched := by
  have hretry (text : List Char) : retry (fun _ => true) (trial []) text = .matched := by
    induction text with
    | nil => rfl
    | cons c text ih =>
      cases text with
      | nil => rfl
      | cons d text => exact ih
  cases text with
  | nil => rfl
  | cons c text => exact hretry (c :: text)

variable {pattern : String}

/-- A literal pattern describes the text that it spells. -/
theorem ofPattern_literal (h : IsLiteral pattern.toList) :
    ∃ glob, ofPattern pattern = .ok glob ∧ ∀ text, glob.describes text = (text == pattern) := by
  refine ⟨⟨pattern.toList.map .char⟩, ?_, fun text => ?_⟩
  · have hread := read_literal_append h 0 none []
    rw [List.append_nil] at hread
    rw [ofPattern, hread, read]
    simp [Except.map]
  · have htrial := trial_literal_append_iff pattern.toList [] text.toList
    rw [List.append_nil] at htrial
    rw [describes, Bool.eq_iff_iff, beq_iff_eq, beq_iff_eq, htrial]
    simp [trial_nil_iff, String.toList_inj]

/-- A literal pattern and a star describe the texts that begin with it. -/
theorem ofPattern_literal_star (h : IsLiteral pattern.toList) :
    ∃ glob, ofPattern (pattern ++ "*") = .ok glob ∧
      ∀ text, glob.describes text = pattern.toList.isPrefixOf text.toList := by
  refine ⟨⟨pattern.toList.map .char ++ [.many]⟩, ?_, fun text => ?_⟩
  · have hstar (position : Nat) (previous : Option Char) :
        read position previous ['*'] = .ok [.many] := by
      simp [read, Except.map]
    rw [ofPattern, String.toList_append, read_literal_append h]
    simp [hstar, Except.map]
  · rw [describes, Bool.eq_iff_iff, beq_iff_eq, trial_literal_append_iff, List.isPrefixOf_iff_prefix]
    simp only [trial_many, and_true]
    exact exists_congr fun rest => eq_comm

end Glob

namespace Registry

open Glob (IsLiteral)

variable {pattern : String} {registry : Registry}

/-- What a pattern describes decides what it selects. -/
theorem matching_of_describes {glob : Glob} (hglob : Glob.ofPattern pattern = .ok glob)
    (accepts : String → Bool) (haccepts : ∀ text, glob.describes text = accepts text) :
    registry.matching pattern =
      .ok (registry.tests.filter fun test => accepts test.name || accepts test.id) := by
  rw [matching, hglob]
  simp only [Except.map, haccepts]

theorem matching_literal (h : IsLiteral pattern.toList) :
    registry.matching pattern =
      .ok (registry.tests.filter fun test => test.name == pattern || test.id == pattern) := by
  obtain ⟨glob, hglob, hdescribes⟩ := Glob.ofPattern_literal h
  exact matching_of_describes hglob _ hdescribes

theorem matching_literal_star (h : IsLiteral pattern.toList) :
    registry.matching (pattern ++ "*") =
      .ok (registry.tests.filter fun test => pattern.toList.isPrefixOf test.name.toList ||
        pattern.toList.isPrefixOf test.id.toList) := by
  obtain ⟨glob, hglob, hdescribes⟩ := Glob.ofPattern_literal_star h
  exact matching_of_describes hglob (fun text => pattern.toList.isPrefixOf text.toList) hdescribes

/-- The first test with a name is among those whose name or id it is. -/
theorem get?_eq_find?_filter :
    registry.get? pattern =
      (registry.tests.filter fun test => test.name == pattern || test.id == pattern).find?
        fun test => test.name == pattern := by
  rw [List.find?_filter, get?]
  congr 1
  funext test
  by_cases hname : test.name = pattern <;> simp [hname]

/-- A star alone selects everything. -/
theorem matching_star : registry.matching "*" = .ok registry.tests := by
  have hempty : IsLiteral "".toList := by decide
  have hall : registry.matching ("" ++ "*") = .ok registry.tests := by
    rw [matching_literal_star hempty]
    simp
  exact hall

/-- The tests of a file are found by the file and two colons. -/
theorem isPrefixOf_id {test : RegisteredTest} {file : String} (h : test.file = some file) :
    (file ++ "::").toList.isPrefixOf test.id.toList = true := by
  have hid : test.id = file ++ "::" ++ test.name := by rw [RegisteredTest.id, h]
  rw [hid, List.isPrefixOf_iff_prefix]
  exact ⟨test.name.toList, String.toList_append.symm⟩

theorem exists_matching_file {test : RegisteredTest} (htest : test ∈ registry.tests) {file : String}
    (hfile : test.file = some file) (hliteral : IsLiteral file.toList) :
    ∃ selected, registry.matching (file ++ "::*") = .ok selected ∧ test ∈ selected := by
  have hbeginning : IsLiteral (file ++ "::").toList := by
    rw [String.toList_append]
    exact hliteral.append (by decide)
  have hpattern : file ++ "::*" = file ++ "::" ++ "*" := by
    rw [String.append_assoc]
    rfl
  refine ⟨_, hpattern ▸ matching_literal_star hbeginning, List.mem_filter.mpr ⟨htest, ?_⟩⟩
  rw [isPrefixOf_id hfile, Bool.or_true]

/-- A literal pattern selects the tests whose name or id it is, and with a star behind it those whose
name or id begins with it, all in the order of registration and as often as they were registered. So
the star alone selects everything, the first test with a name is the first of that name among those
that the name selects, and a file with two colons and a star selects every test of the file. -/
theorem literal_pattern_selects (registry : Registry) (h : IsLiteral pattern.toList) :
    let selected := registry.tests.filter fun test => test.name == pattern || test.id == pattern
    registry.matching pattern = .ok selected ∧
    registry.get? pattern = selected.find? (fun test => test.name == pattern) ∧
    (registry.get? pattern = none ↔ ∀ test ∈ selected, test.name ≠ pattern) ∧
    registry.matching (pattern ++ "*") =
      .ok (registry.tests.filter fun test => pattern.toList.isPrefixOf test.name.toList ||
        pattern.toList.isPrefixOf test.id.toList) ∧
    registry.matching "*" = .ok registry.tests ∧
    ∀ test ∈ registry.tests, ∀ file, test.file = some file → IsLiteral file.toList →
      ∃ selected, registry.matching (file ++ "::*") = .ok selected ∧ test ∈ selected := by
  intro selected
  have hnone : registry.get? pattern = none ↔ ∀ test ∈ selected, test.name ≠ pattern := by
    rw [get?_eq_find?_filter, List.find?_eq_none]
    simp only [beq_iff_eq, ne_eq]
    exact Iff.rfl
  exact ⟨matching_literal h, get?_eq_find?_filter, hnone, matching_literal_star h, matching_star,
    fun _ htest _ hfile hliteral => exists_matching_file htest hfile hliteral⟩

/-- A leading dot and slashes are characters like others, and a test that is selected by its name and
by its id is selected once. -/
theorem literal_pattern_selects_hidden_file :
    let test (name : String) : RegisteredTest := .ofBody name name .pass
    let registry : Registry :=
      ⟨[(test "one").definedAt "app" ".ci/suite/a.rs" 3, test ".ci/two", test "two"]⟩
    IsLiteral ".ci/".toList ∧
    (registry.matching (".ci/" ++ "*")).map (List.map RegisteredTest.id) =
      .ok [".ci/suite/a.rs::one", ".ci/two"] := by
  intro test registry
  have h : IsLiteral ".ci/".toList := by decide
  obtain ⟨-, -, -, hstar, -, -⟩ := literal_pattern_selects registry h
  refine ⟨h, ?_⟩
  rw [hstar]
  cbv

end Registry

end Attest
