import Attest.Text.Quoted

/-!
# Quoted texts read back

Each character between quotes is read back from what is written for it, escaped or not, and nothing
that is written for a character starts with the closing quote. So a quoted text determines the text and
where it ends, whatever it contains and whichever characters stand for themselves.
-/

namespace Attest

namespace Unicode

theorem hexDigitValue?_digitChar : ∀ n < 16, hexDigitValue? (Nat.digitChar n) = some n := by
  decide

theorem digitChar_ne_brace : ∀ n < 16, Nat.digitChar n ≠ '}' := by
  decide

theorem hexValue_concat (digits : List Char) {c : Char} {n : Nat} (h : hexDigitValue? c = some n) :
    hexValue (digits ++ [c]) = hexValue digits * 16 + n := by
  simp only [hexValue, List.foldl_append, List.foldl_cons, List.foldl_nil, h]

theorem hexValue_toDigits (n : Nat) : hexValue (Nat.toDigits 16 n) = n := by
  induction n using Nat.strongRecOn with
  | ind n ih =>
    rw [Nat.toDigits_eq_if (by decide)]
    by_cases h : n < 16
    · rw [if_pos h]
      have hdigit := hexValue_concat [] (hexDigitValue?_digitChar n h)
      simpa [hexValue] using hdigit
    · have hlast : n % 16 < 16 := by omega
      rw [if_neg h, hexValue_concat _ (hexDigitValue?_digitChar _ hlast), ih _ (by omega)]
      omega

theorem exists_of_mem_toDigits {base n : Nat} (hbase : 1 < base) {c : Char}
    (h : c ∈ Nat.toDigits base n) : ∃ d < base, c = Nat.digitChar d := by
  induction n using Nat.strongRecOn with
  | ind n ih =>
    rw [Nat.toDigits_eq_if hbase] at h
    split at h
    · exact ⟨n, ‹_›, List.mem_singleton.mp h⟩
    · rcases List.mem_append.mp h with h | h
      · exact ih _ (Nat.div_lt_self (by omega) hbase) h
      · exact ⟨n % base, Nat.mod_lt _ (by omega), List.mem_singleton.mp h⟩

/-- The digits of a number end at the closing brace. -/
theorem ne_brace_of_mem_toDigits {n : Nat} {c : Char} (h : c ∈ Nat.toDigits 16 n) : c ≠ '}' := by
  obtain ⟨d, hd, rfl⟩ := exists_of_mem_toDigits (by decide) h
  exact digitChar_ne_brace d hd

end Unicode

namespace Text

/-- Reads a character between quotes. -/
def unescape? : List Char → Option (Char × List Char)
  | '\\' :: '0' :: rest => some ('\x00', rest)
  | '\\' :: 't' :: rest => some ('\t', rest)
  | '\\' :: 'r' :: rest => some ('\r', rest)
  | '\\' :: 'n' :: rest => some ('\n', rest)
  | '\\' :: 'u' :: '{' :: rest =>
    some (.ofNat (Unicode.hexValue (rest.takeWhile (· ≠ '}'))),
      (rest.dropWhile (· ≠ '}')).tail)
  | '\\' :: c :: rest => some (c, rest)
  | c :: rest => some (c, rest)
  | [] => none

theorem unescape?_cons {c : Char} (h : c ≠ '\\') (rest : List Char) :
    unescape? (c :: rest) = some (c, rest) := by
  simp [unescape?, h]

theorem unescape?_numberEscape (c : Char) (rest : List Char) :
    unescape? (numberEscape c ++ rest) = some (c, rest) := by
  have hdigits : ∀ d ∈ Nat.toDigits 16 c.toNat, decide (d ≠ '}') = true := fun d hd =>
    decide_eq_true (Unicode.ne_brace_of_mem_toDigits hd)
  have htext : numberEscape c ++ rest =
      '\\' :: 'u' :: '{' :: (Nat.toDigits 16 c.toNat ++ '}' :: rest) := by
    simp [numberEscape]
  rw [htext, unescape?, List.takeWhile_append_of_pos hdigits, List.dropWhile_append_of_pos hdigits]
  simp [Unicode.hexValue_toDigits]

/-- Either kind of quote. -/
def IsQuote (quote : Char) : Prop :=
  quote = '"' ∨ quote = '\''

variable {quote : Char}

theorem unescape?_escape (hquote : IsQuote quote) (c : Char) (rest : List Char) :
    unescape? (escape quote c ++ rest) = some (c, rest) := by
  unfold escape
  -- the short escapes are known by their letters
  iterate 4
    split
    · subst c
      rfl
  split
  · rename_i h
    -- neither quote is a letter that another escape goes by
    obtain rfl | rfl := h
    · obtain rfl | rfl := hquote <;> rfl
    · rfl
  split
  · rename_i hplain _
    have hslash : c ≠ '\\' := (not_or.mp hplain).2
    exact unescape?_cons hslash rest
  · exact unescape?_numberEscape c rest

/-- What is written for a character does not start with the quote. -/
theorem escape_append_ne (hquote : IsQuote quote) (c : Char) (rest rest' : List Char) :
    escape quote c ++ rest ≠ quote :: rest' := by
  have hslash : '\\' ≠ quote := by
    rintro rfl
    rcases hquote with h | h <;> cases h
  intro h
  obtain ⟨d, others, hd, hne⟩ : ∃ d others, escape quote c = d :: others ∧ d ≠ quote := by
    unfold escape
    iterate 5
      split
      · exact ⟨_, _, rfl, hslash⟩
    rename_i hplain
    split
    · exact ⟨c, [], rfl, (not_or.mp hplain).1⟩
    · exact ⟨_, _, rfl, hslash⟩
  rw [hd, List.cons_append, List.cons.injEq] at h
  exact hne h.1

theorem escape_append_inj (hquote : IsQuote quote) {c d : Char} {rest rest' : List Char}
    (h : escape quote c ++ rest = escape quote d ++ rest') : c = d ∧ rest = rest' := by
  have hleft := unescape?_escape hquote c rest
  have hright := unescape?_escape hquote d rest'
  rw [h, hright] at hleft
  simpa [eq_comm] using hleft

/-- A quoted text determines the text and what follows. -/
theorem quoted_append_inj (hquote : IsQuote quote) {s t rest rest' : List Char}
    (h : quoted quote s ++ rest = quoted quote t ++ rest') : s = t ∧ rest = rest' := by
  simp only [quoted, List.cons_append, List.cons.injEq, true_and, List.append_assoc,
    List.nil_append] at h
  induction s generalizing t with
  | nil =>
    cases t with
    | nil => simpa using h
    | cons d t =>
      rw [List.flatMap_cons, List.append_assoc, List.flatMap_nil, List.nil_append] at h
      exact absurd h.symm (escape_append_ne hquote d _ _)
  | cons c s ih =>
    cases t with
    | nil =>
      rw [List.flatMap_cons, List.append_assoc, List.flatMap_nil, List.nil_append] at h
      exact absurd h (escape_append_ne hquote c _ _)
    | cons d t =>
      rw [List.flatMap_cons, List.flatMap_cons, List.append_assoc, List.append_assoc] at h
      obtain ⟨rfl, hrest⟩ := escape_append_inj hquote h
      obtain ⟨rfl, rfl⟩ := ih hrest
      exact ⟨rfl, rfl⟩

end Text

end Attest
