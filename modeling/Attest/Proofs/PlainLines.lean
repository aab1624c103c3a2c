import Attest.Proofs.Decimals
import Attest.Yaml.Scalar
import Attest.Yaml.Tag

/-!
# Lines of words

Files of lines that have a key and a value each, both of them single words, or a comment, or nothing.
Behind a line the scanner moves over all that has no entry, and stops at the start of a line. A plain
scalar ends on its line: the gap behind it is part of that space, and no word follows that is indented
far enough to belong to the scalar.
-/

namespace Attest.Yaml

/-- The characters of which a file is made, besides line breaks. -/
def isPrintable (c : Char) : Bool :=
  ' ' ≤ c && c ≤ '~'

/-- A word that stands for itself without quotes. -/
structure Word where
  chars : List Char
  isNameChar_of_mem : ∀ c ∈ chars, isNameChar c = true
  ne_nil : chars ≠ []
  ne_dash : chars ≠ ['-']

theorem Word.exists_cons (word : Word) :
    ∃ c chars, word.chars = c :: chars ∧ isNameChar c = true := by
  obtain ⟨c, chars, hchars⟩ := List.exists_cons_of_ne_nil word.ne_nil
  exact ⟨c, chars, hchars, word.isNameChar_of_mem c (hchars ▸ List.mem_cons_self)⟩

/-- An entry of a mapping. A dash at the start of its line could mark a document. -/
structure Entry where
  key : Word
  value : Word
  head_key_ne : key.chars.head? ≠ some '-'
  key_length_le : key.chars.length ≤ 1024

/-- A line of a file. -/
inductive Line where
  | blank (indent : Nat)
  | comment (indent : Nat) (text : List Char) (isPrintable_of_mem : ∀ c ∈ text, isPrintable c = true)
  | entry (entry : Entry)

namespace Line

def chars : Line → List Char
  | blank indent => .replicate indent ' '
  | comment indent text _ => .replicate indent ' ' ++ '#' :: text
  | entry ⟨key, value, _, _⟩ => key.chars ++ ':' :: ' ' :: value.chars

def entry? : Line → Option Entry
  | entry e => some e
  | _ => none

theorem eq_of_entry? {line : Line} {e : Entry} (h : line.entry? = some e) : line = entry e := by
  cases line <;> cases h
  rfl

end Line

/-- The text of a file, with a line break between its lines. A line break at the end leaves an empty
line behind it. -/
def textOf (lines : List Line) : List Char :=
  .intercalate ['\n'] (lines.map Line.chars)

/-- What follows a line in a file. -/
def restOf (lines : List Line) : List Char :=
  lines.flatMap fun line => '\n' :: line.chars

/-- The entries of a file. -/
def entriesOf (lines : List Line) : List Entry :=
  lines.filterMap Line.entry?

theorem restOf_cons (line : Line) (lines : List Line) :
    restOf (line :: lines) = '\n' :: (line.chars ++ restOf lines) := by
  rw [restOf, List.flatMap_cons, List.cons_append]
  rfl

theorem textOf_cons (line : Line) (lines : List Line) :
    textOf (line :: lines) = line.chars ++ restOf lines := by
  induction lines generalizing line with
  | nil => simp [textOf, restOf, List.intercalate]
  | cons next lines ih =>
    have hnext := ih next
    simp only [textOf, List.intercalate, List.map_cons, List.intersperse_cons_cons,
      List.flatten_cons] at hnext ⊢
    rw [hnext, restOf_cons]
    rfl

/-! ### Characters -/

section Printable

variable {c : Char} (h : isPrintable c = true)
include h

theorem ne_of_isPrintable {d : Char} (hd : isPrintable d = false) : c ≠ d := by
  rintro rfl
  simp [h] at hd

theorem isBreak_of_isPrintable : isBreak c = false := by
  rw [Bool.eq_false_iff]
  intro hbreak
  simp only [isBreak, Bool.or_eq_true, beq_iff_eq] at hbreak
  rcases hbreak with (((rfl | rfl) | rfl) | rfl) | rfl <;> exact absurd h (by decide)

theorem isAllowed_of_isPrintable : isAllowed c = true := by
  simp only [isPrintable, Bool.and_eq_true, decide_eq_true_eq] at h
  simp [isAllowed, h]

end Printable

theorem isPrintable_of_isNameChar {c : Char} (h : isNameChar c = true) : isPrintable c = true := by
  have hrange {a b : Char} (ha : ' ' ≤ a) (hb : b ≤ '~') (hc : a ≤ c ∧ c ≤ b) :
      isPrintable c = true := by
    simp only [isPrintable, Bool.and_eq_true, decide_eq_true_eq]
    exact ⟨Char.le_trans ha hc.1, Char.le_trans hc.2 hb⟩
  have hclasses : (c.isUpper || c.isLower || c.isDigit || c == '_' || c == '-') = true := h
  simp only [Bool.or_eq_true, beq_iff_eq] at hclasses
  rcases hclasses with (((hupper | hlower) | hdigit) | rfl) | rfl
  · have hc : 'A' ≤ c ∧ c ≤ 'Z' := of_decide_eq_true hupper
    exact hrange (by decide) (by decide) hc
  · have hc : 'a' ≤ c ∧ c ≤ 'z' :=
      (Bool.and_eq_true_iff.mp hlower).imp of_decide_eq_true of_decide_eq_true
    exact hrange (by decide) (by decide) hc
  · exact hrange (by decide) (by decide) (Number.le_of_isDigit hdigit)
  · decide
  · decide

theorem Line.isPrintable_of_mem_chars {line : Line} {c : Char} (h : c ∈ line.chars) :
    isPrintable c = true := by
  have hword (word : Word) (hc : c ∈ word.chars) : isPrintable c = true :=
    isPrintable_of_isNameChar (word.isNameChar_of_mem c hc)
  cases line with
  | blank indent =>
    obtain rfl := List.eq_of_mem_replicate h
    decide
  | comment indent text htext =>
    rw [Line.chars, List.mem_append, List.mem_cons] at h
    rcases h with h | rfl | h
    · obtain rfl := List.eq_of_mem_replicate h
      decide
    · decide
    · exact htext c h
  | entry entry =>
    simp only [Line.chars, List.mem_append, List.mem_cons] at h
    rcases h with h | rfl | rfl | h
    · exact hword _ h
    · decide
    · decide
    · exact hword _ h

theorem eq_or_isPrintable_of_mem_restOf {lines : List Line} {c : Char} (h : c ∈ restOf lines) :
    c = '\n' ∨ isPrintable c = true := by
  obtain ⟨line, -, hline⟩ := List.mem_flatMap.mp h
  rw [List.mem_cons] at hline
  exact hline.imp_right Line.isPrintable_of_mem_chars

theorem ne_of_isNameChar {c d : Char} (hc : isNameChar c = true) (hd : isNameChar d = false) :
    c ≠ d := by
  rintro rfl
  simp [hc] at hd

theorem isBlank_of_isNameChar {c : Char} (h : isNameChar c = true) : isBlank c = false := by
  have hspace : c ≠ ' ' := ne_of_isNameChar h rfl
  have htab : c ≠ '\t' := ne_of_isNameChar h rfl
  simp [isBlank, hspace, htab]

/-! ### Space between entries -/

section Space

variable {keyAllowed inComment : Bool} {position : Position} {rest : List Char}

theorem skipSpace_cons {c : Char} (hc : c ≠ '\r') :
    skipSpace false keyAllowed inComment position (c :: rest) =
      if isBreak c then skipSpace false true false (position.nextLine 1) rest
      else if inComment || c == '#' then skipSpace false keyAllowed true (position.advance 1) rest
      else if c == ' ' || (c == '\t' && !keyAllowed) then
        skipSpace false keyAllowed false (position.advance 1) rest
      else (⟨c :: rest, position⟩, keyAllowed) := by
  rw [skipSpace]
  · simp
  · rintro rest rfl
    exact absurd rfl hc

theorem skipSpace_spaces (n : Nat) :
    skipSpace false keyAllowed false position (.replicate n ' ' ++ rest) =
      skipSpace false keyAllowed false (position.advance n) rest := by
  induction n generalizing position with
  | zero => rfl
  | succ n ih =>
    rw [List.replicate_succ, List.cons_append, skipSpace_cons (by decide)]
    simp [isBreak, ih, Position.advance, Nat.add_assoc, Nat.add_comm 1]

theorem skipSpace_comment {comment : List Char} (h : ∀ c ∈ comment, isPrintable c = true) :
    skipSpace false keyAllowed true position (comment ++ rest) =
      skipSpace false keyAllowed true (position.advance comment.length) rest := by
  induction comment generalizing position with
  | nil => rfl
  | cons c comment ih =>
    obtain ⟨hc, hrest⟩ := List.forall_mem_cons.mp h
    rw [List.cons_append, skipSpace_cons (ne_of_isPrintable hc rfl)]
    simp [isBreak_of_isPrintable hc, ih hrest, Position.advance, Nat.add_assoc, Nat.add_comm 1]

theorem skipSpace_restOf_cons (line : Line) (lines : List Line) :
    skipSpace false keyAllowed inComment position (restOf (line :: lines)) =
      skipSpace false true false (position.nextLine 1) (line.chars ++ restOf lines) := by
  rw [restOf_cons, skipSpace_cons (by decide)]
  rfl

theorem skipSpace_word {c : Char} (h : isNameChar c = true) :
    skipSpace false keyAllowed false position (c :: rest) = (⟨c :: rest, position⟩, keyAllowed) := by
  have hprintable := isPrintable_of_isNameChar h
  have hspace : c ≠ ' ' := ne_of_isNameChar h rfl
  have hmark : c ≠ '#' := ne_of_isNameChar h rfl
  have htab : c ≠ '\t' := ne_of_isNameChar h rfl
  rw [skipSpace_cons (ne_of_isPrintable hprintable rfl)]
  simp [isBreak_of_isPrintable hprintable, hspace, hmark, htab]

theorem exists_skipSpace_idle {line : Line} (h : line.entry? = none) :
    ∃ last inComment', skipSpace false keyAllowed false position (line.chars ++ rest) =
      skipSpace false keyAllowed inComment' last rest := by
  cases line with
  | blank indent => exact ⟨_, _, skipSpace_spaces indent⟩
  | comment indent comment hcomment =>
    refine ⟨((position.advance indent).advance 1).advance comment.length, true, ?_⟩
    rw [Line.chars, List.append_assoc, skipSpace_spaces, List.cons_append, skipSpace_cons (by decide)]
    exact skipSpace_comment hcomment
  | entry entry => cases h

theorem skipSpace_entry (entry : Entry) :
    skipSpace false keyAllowed false position ((Line.entry entry).chars ++ rest) =
      (⟨(Line.entry entry).chars ++ rest, position⟩, keyAllowed) := by
  obtain ⟨c, key, hkey, hc⟩ := entry.key.exists_cons
  simp only [Line.chars, hkey, List.cons_append]
  exact skipSpace_word hc

/-- Space alone parts a place from the end of a line, and some lines follow that one. -/
def Cursor.Reaches (cursor : Cursor) (keyAllowed : Bool) (lines : List Line) : Prop :=
  ∃ keyAllowed' inComment last, skipSpace false keyAllowed false cursor.position cursor.rest =
    skipSpace false keyAllowed' inComment last (restOf lines)

/-- Behind a line, the first thing that says something starts a line. -/
theorem skipSpace_restOf_stops (lines : List Line) :
    let next := (skipSpace false keyAllowed inComment position (restOf lines)).1
    next.rest = [] ∨ next.position.column = 0 := by
  induction lines generalizing keyAllowed inComment position with
  | nil => exact Or.inl rfl
  | cons line lines ih =>
    rw [skipSpace_restOf_cons]
    cases hentry : line.entry? with
    | none =>
      obtain ⟨last, inComment', hskip⟩ := exists_skipSpace_idle hentry
      rw [hskip]
      exact ih
    | some entry =>
      obtain rfl := Line.eq_of_entry? hentry
      rw [skipSpace_entry]
      exact Or.inr rfl

end Space

/-! ### Plain scalars -/

/-- A gap between words leaves off where there is a word or a comment. It passes over no more than the
space between entries does. -/
theorem exists_readGap? (indent : Nat) {gap : Gap} {position : Position} {rest : List Char}
    (h : ∀ c ∈ rest, c = '\n' ∨ isPrintable c = true) :
    ∃ next after, readGap? indent gap position rest = some (next, after) ∧
      (∀ c ∈ after.rest.head?, isBlank c = false ∧ isBreak c = false) ∧
      skipSpace false next.isBroken false after.position after.rest =
        skipSpace false gap.isBroken false position rest := by
  fun_induction readGap? indent gap position rest with
  | case1 gap position => exact ⟨gap, _, rfl, by simp, rfl⟩
  | case2 gap position rest ih => exact absurd (h '\r' List.mem_cons_self) (by decide)
  | case3 gap position c rest _ hbreak ih =>
    obtain ⟨hc, hrest⟩ := List.forall_mem_cons.mp h
    obtain ⟨next, after, hread, hhead, hskip⟩ := ih hrest
    have hbroken : (gap.addBreak (normalBreak c)).isBroken = true := by
      unfold Gap.addBreak
      split
      · assumption
      · rfl
    refine ⟨next, after, hread, hhead, hskip.trans ?_⟩
    rw [hbroken, skipSpace_cons, if_pos hbreak]
    rintro rfl
    exact absurd hc (by decide)
  | case4 gap position c rest _ hbreak hblank htab =>
    simp only [Bool.and_eq_true, beq_iff_eq] at htab
    exact absurd (h c List.mem_cons_self) (htab.1.2 ▸ by decide)
  | case5 gap position c rest _ hbreak hblank _ ih =>
    obtain ⟨hc, hrest⟩ := List.forall_mem_cons.mp h
    obtain ⟨next, after, hread, hhead, hskip⟩ := ih hrest
    have hspace : c = ' ' := by
      simp only [isBlank, Bool.or_eq_true, beq_iff_eq] at hblank
      rcases hblank with rfl | rfl
      · rfl
      · exact absurd hc (by decide)
    have hbroken : (gap.addBlank c).isBroken = gap.isBroken := by
      unfold Gap.addBlank
      split <;> rfl
    refine ⟨next, after, hread, hhead, hskip.trans ?_⟩
    rw [hbroken, hspace, skipSpace_cons (by decide)]
    rfl
  | case6 gap position c rest _ hbreak hblank =>
    refine ⟨gap, _, rfl, ?_, rfl⟩
    rintro d ⟨⟩
    exact ⟨Bool.eq_false_iff.mpr hblank, Bool.eq_false_iff.mpr hbreak⟩

/-- A word goes on up to where another word could not start. -/
theorem plainWord?_append {word rest : List Char} (hword : ∀ c ∈ word, isNameChar c = true)
    (hrest : plainWord? false rest = some []) : plainWord? false (word ++ rest) = some word := by
  induction word with
  | nil => exact hrest
  | cons c word ih =>
    obtain ⟨hc, hword⟩ := List.forall_mem_cons.mp hword
    have hblank := isBlank_of_isNameChar hc
    have hbreak := isBreak_of_isPrintable (isPrintable_of_isNameChar hc)
    have hcolon : c ≠ ':' := ne_of_isNameChar hc rfl
    simp [plainWord?, hblank, hbreak, hcolon, ih hword]

theorem plainWord?_colon {rest : List Char} (h : endsWord rest = true) :
    plainWord? false (':' :: rest) = some [] := by
  simp [plainWord?, isBlank, isBreak, h]

theorem isAtBoundary_eq_false {cursor : Cursor}
    (h : cursor.position.column ≠ 0 ∨ ∀ c ∈ cursor.rest.head?, c ≠ '-' ∧ c ≠ '.') :
    cursor.isAtBoundary = false := by
  rcases h with hcolumn | hhead
  · simp [Cursor.isAtBoundary, Cursor.isAtMark, hcolumn]
  · have hmark {mark : Char} (hmark : ∀ c ∈ cursor.rest.head?, c ≠ mark) :
        cursor.isAtMark mark = false := by
      cases hrest : cursor.rest with
      | nil => simp [Cursor.isAtMark, hrest]
      | cons c rest =>
        have hc : c ≠ mark := hmark c (by rw [hrest]; rfl)
        simp [Cursor.isAtMark, hrest, hc]
    rw [Cursor.isAtBoundary, hmark fun c hc => (hhead c hc).1, hmark fun c hc => (hhead c hc).2]
    rfl

/-- No word of a plain scalar starts here. -/
def Cursor.EndsScalar (cursor : Cursor) : Prop :=
  cursor.isAtBoundary = true ∨ cursor.rest.head? = some '#' ∨ plainWord? false cursor.rest = some []

namespace Word

variable {word : Word} {rest : List Char} {position : Position}

theorem isAtBoundary_eq_false (h : position.column ≠ 0 ∨ word.chars.head? ≠ some '-') :
    Cursor.isAtBoundary ⟨word.chars ++ rest, position⟩ = false := by
  obtain ⟨c, chars, hchars, hc⟩ := word.exists_cons
  refine Yaml.isAtBoundary_eq_false (h.imp_right fun hdash d hd => ?_)
  rw [hchars] at hd hdash
  cases hd
  exact ⟨fun h => hdash (congrArg some h), ne_of_isNameChar hc rfl⟩

/-- A scalar of one word ends with the gap behind it, unless a word follows in its lines. -/
theorem plainScalar?_eq {margin : Nat} {gap : Gap} {after : Cursor}
    (hstart : position.column ≠ 0 ∨ word.chars.head? ≠ some '-')
    (hrest : plainWord? false rest = some [])
    (hgap : readGap? margin .empty (position.advance word.chars.length) rest = some (gap, after))
    (hafter : margin ≤ after.position.column → after.EndsScalar) :
    plainScalar? false margin ⟨word.chars ++ rest, position⟩ =
      some ⟨word.chars, gap.isBroken, after⟩ := by
  obtain ⟨c, chars, hchars, hc⟩ := word.exists_cons
  have hmark : c ≠ '#' := ne_of_isNameChar hc rfl
  have hboundary : Cursor.isAtBoundary ⟨word.chars ++ rest, position⟩ = false :=
    isAtBoundary_eq_false hstart
  have hword := plainWord?_append word.isNameChar_of_mem hrest
  have hskip : Cursor.skip ⟨word.chars ++ rest, position⟩ word.chars.length =
      ⟨rest, position.advance word.chars.length⟩ := by
    simp [Cursor.skip]
  have hstop (h : margin ≤ after.position.column) (fuel : Nat) :
      plainWords? false margin (fuel + 1) gap after = some ⟨[], gap.isBroken, after⟩ := by
    rcases hafter h with hend | hend | hend <;> simp [plainWords?, hend]
  have hfuel : (word.chars ++ rest).length + 1 = (chars ++ rest).length + 1 + 1 := by
    rw [hchars]
    rfl
  have hhead : (word.chars ++ rest).head? ≠ some '#' := by
    rw [hchars]
    simp [hmark]
  rw [plainScalar?, hfuel, plainWords?, hboundary, Bool.false_or, if_neg (by simpa using hhead), hword]
  simp only [Option.bind_eq_bind, Option.bind_some]
  rw [if_neg (by simpa using word.ne_nil), hskip, hgap]
  simp only [Option.bind_some]
  split
  · rfl
  · rename_i hcolumn
    rw [hstop (by simpa using hcolumn)]
    simp [Gap.text, Gap.empty]

end Word

theorem plainWord?_restOf (lines : List Line) : plainWord? false (restOf lines) = some [] := by
  cases lines with
  | nil => rfl
  | cons line lines => simp [restOf, plainWord?, isBlank, isBreak]

/-- The gap behind a line leaves off at a comment, at the start of a line or at the end. -/
theorem Cursor.Reaches.endsScalar {cursor : Cursor} {keyAllowed : Bool} {lines : List Line}
    (h : cursor.Reaches keyAllowed lines)
    (hhead : ∀ c ∈ cursor.rest.head?, isBlank c = false ∧ isBreak c = false)
    (hcolumn : 1 ≤ cursor.position.column) : cursor.EndsScalar := by
  obtain ⟨rest, position⟩ := cursor
  obtain ⟨keyAllowed', inComment, last, hskip⟩ := h
  cases rest with
  | nil => exact Or.inr (Or.inr rfl)
  | cons c rest =>
    by_cases hmark : c = '#'
    · exact Or.inr (Or.inl (congrArg some hmark))
    · obtain ⟨hblank, hbreak⟩ := hhead c rfl
      have hreturn : c ≠ '\r' := by
        rintro rfl
        exact absurd hbreak (by decide)
      simp only [isBlank, Bool.or_eq_false_iff] at hblank
      have hstops := @skipSpace_restOf_stops keyAllowed' inComment last lines
      rw [← hskip, skipSpace_cons hreturn] at hstops
      have hstart : position.column = 0 := by simpa [hbreak, hmark, hblank] using hstops
      exact absurd hstart (Nat.ne_of_gt hcolumn)

end Attest.Yaml
