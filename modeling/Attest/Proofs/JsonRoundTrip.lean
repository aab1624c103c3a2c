import Attest.Json.Writer
import Attest.Proofs.Decimals

/-!
# Documents read back

A document whose numbers are integers of 64 bits is read back from its text. The escapes of a text
are undone character by character, so what stands inside a text can neither end it nor pass for a
bracket, a comma or a key; a number ends where the writer goes on, since no digit follows there.
-/

namespace Attest.Json

/-! ### Texts -/

theorem hexDigitValue?_hexDigit : ∀ n < 16, Unicode.hexDigitValue? (hexDigit n) = some n := by
  decide

/-- The four-digit escape of a control character gives its number. -/
theorem readUnit?_control {n : Nat} (h : n < 0x20) (rest : List Char) :
    readUnit? ('0' :: '0' :: hexDigit (n / 16) :: hexDigit (n % 16) :: rest) = some (n, rest) := by
  have hhigh := hexDigitValue?_hexDigit (n / 16) (by omega)
  have hlow := hexDigitValue?_hexDigit (n % 16) (by omega)
  have hzero : Unicode.hexDigitValue? '0' = some 0 := by decide
  have hvalue :
      Unicode.hexValue ['0', '0', hexDigit (n / 16), hexDigit (n % 16)] = n := by
    simp only [Unicode.hexValue, List.foldl_cons, List.foldl_nil, hzero, hhigh, hlow]
    omega
  simp [readUnit?, hzero, hhigh, hlow, hvalue]

/-- An escaped character is read back in one step. -/
theorem readText?_escape (fuel : Nat) (c : Char) (rest done : List Char) :
    readText? (fuel + 1) (escape c ++ rest) done = readText? fuel rest (c :: done) := by
  unfold escape
  -- one case for each way to write a character; where it is a letter, the reader computes
  split
  · rename_i h
    obtain rfl | rfl := h <;> rfl
  split
  · subst c
    rfl
  split
  · subst c
    rfl
  split
  · subst c
    rfl
  split
  · subst c
    rfl
  split
  · subst c
    rfl
  split
  · rename_i h
    -- far below the surrogates, so one escape is the whole character
    have hunit := readUnit?_control h rest
    have hsmall : c.toNat < 0xd800 := by omega
    simp [readText?, readEscape?, hunit, hsmall]
  · rename_i hmark _ _ _ _ _ hplain
    obtain ⟨hquote, hslash⟩ := not_or.mp hmark
    rw [List.singleton_append, readText?, if_neg hplain]
    · exact hquote
    · exact hslash

/-- A text is read back up to its closing quote. -/
theorem readText?_flatMap_escape (s rest : List Char) {fuel : Nat} (h : s.length < fuel)
    (done : List Char) :
    readText? fuel (s.flatMap escape ++ '"' :: rest) done = some (done.reverse ++ s, rest) := by
  induction s generalizing fuel done with
  | nil =>
    obtain ⟨fuel, rfl⟩ := Nat.exists_eq_add_of_lt h
    simp [readText?]
  | cons c s ih =>
    obtain ⟨fuel, rfl⟩ : ∃ n, fuel = n + 1 := ⟨fuel - 1, by omega⟩
    rw [List.flatMap_cons, List.append_assoc, readText?_escape,
      ih (by simpa using h) (c :: done), List.reverse_cons, List.append_assoc]
    rfl

theorem escape_ne_nil (c : Char) : escape c ≠ [] := by
  unfold escape
  repeat' split
  all_goals exact List.cons_ne_nil _ _

theorem length_le_flatMap_escape (s : List Char) : s.length ≤ (s.flatMap escape).length := by
  induction s with
  | nil => exact Nat.le_refl _
  | cons c s ih =>
    have hc : 0 < (escape c).length := List.length_pos_iff.mpr (escape_ne_nil c)
    rw [List.flatMap_cons, List.length_append, List.length_cons]
    omega

/-! ### Numbers -/

/-- What the writer goes on with after a number: nothing, a comma or a closing bracket. -/
def EndsNumber (rest : List Char) : Prop :=
  ∀ c ∈ rest.head?, c = ',' ∨ c = ']' ∨ c = '}'

theorem numberOfParts?_natural {n : Nat} (h : n ≤ largestUnsigned) :
    numberOfParts? false (Nat.toDigits 10 n) none none = some (.integer n) := by
  simp [numberOfParts?, takeDigits_toDigits h]

theorem numberOfParts?_negated {n : Nat} (hpos : 0 < n) (h : n ≤ greatestNegated) :
    numberOfParts? true (Nat.toDigits 10 n) none none = some (.integer (-(n : Int))) := by
  have hfits : n ≤ largestUnsigned := Nat.le_trans h (by decide)
  simp [numberOfParts?, takeDigits_toDigits hfits, hpos, h]

/-- Digits with their sign are read up to where the writer goes on. -/
theorem readNumber?_signed (negative : Bool) (n : Nat) {rest : List Char}
    (hrest : EndsNumber rest) :
    readNumber? ((if negative then ['-'] else []) ++ (Nat.toDigits 10 n ++ rest)) =
      (numberOfParts? negative (Nat.toDigits 10 n) none none).map fun x => (x, rest) := by
  have hdigit : ∀ c ∈ rest.head?, Attest.Number.isDigit c = false := by
    intro c hc
    obtain rfl | rfl | rfl := hrest c hc <;> rfl
  obtain ⟨htake, hdrop⟩ := Attest.Number.takeWhile_toDigits n hdigit
  obtain ⟨first, digits, hdigits⟩ := List.exists_cons_of_ne_nil (@Nat.toDigits_ne_nil n 10)
  have hminus : first ≠ '-' := by
    rintro rfl
    have hfirst : '-' ∈ Nat.toDigits 10 n := by simp [hdigits]
    exact absurd (Attest.Number.isDigit_of_mem_toDigits hfirst) (by decide)
  have hleading := Attest.Number.toDigits_ne_zero_cons n
  unfold readNumber?
  -- the sign is taken off first, and digits do not start with one
  split
  rename_i sign unsigned hsign
  obtain ⟨rfl, rfl⟩ : sign = negative ∧ unsigned = Nat.toDigits 10 n ++ rest := by
    cases negative with
    | true =>
      cases hsign
      exact ⟨rfl, rfl⟩
    | false =>
      rw [hdigits] at hsign ⊢
      simpa [hminus, eq_comm] using hsign
  simp only [htake, hdrop]
  -- no fraction and no power of ten: what follows is neither a point nor a mark of a power
  cases rest with
  | nil => simp
  | cons c rest =>
    have hc := hrest c rfl
    obtain rfl | rfl | rfl := hc <;> simp

theorem readNumber?_integerChars {n : Int} (hlow : -(greatestNegated : Int) ≤ n)
    (hhigh : n ≤ largestUnsigned) {rest : List Char} (hrest : EndsNumber rest) :
    readNumber? (Attest.Number.integerChars n ++ rest) = some (.integer n, rest) := by
  by_cases hn : n < 0
  · have hread := readNumber?_signed true n.natAbs hrest
    rw [numberOfParts?_negated (by omega) (by omega)] at hread
    have hvalue : -(n.natAbs : Int) = n := by omega
    rw [hvalue] at hread
    rw [Attest.Number.integerChars, if_pos hn]
    exact hread
  · have hread := readNumber?_signed false n.natAbs hrest
    rw [numberOfParts?_natural (by omega)] at hread
    have hvalue : (n.natAbs : Int) = n := by omega
    rw [hvalue] at hread
    rw [Attest.Number.integerChars, if_neg hn]
    exact hread

/-! ### Documents -/

/-- Documents whose numbers are integers of 64 bits, with or without sign. -/
inductive Integral : Json → Prop where
  | null : Integral null
  | bool (b : Bool) : Integral (bool b)
  | integer (n : Int) (low : -(greatestNegated : Int) ≤ n) (high : n ≤ largestUnsigned) :
    Integral (number (.integer n))
  | string (s : String) : Integral (string s)
  | array (items : List Json) (integral : ∀ item ∈ items, Integral item) : Integral (array items)
  | object (fields : List (String × Json)) (integral : ∀ field ∈ fields, Integral field.2) :
    Integral (object fields)

/-- Whether a document is read back from its text, whatever the writer goes on with. -/
def ReadsBack (document : Json) : Prop :=
  ∀ fuel rest, (write document).length ≤ fuel → EndsNumber rest →
    readValue? fuel (write document ++ rest) = some (document, rest)

@[simp] theorem skipBlanks_cons {c : Char} (h : isBlank c = false) (rest : List Char) :
    skipBlanks (c :: rest) = c :: rest := by
  simp [skipBlanks, h]

theorem endsNumber_cons {c : Char} (h : c = ',' ∨ c = ']' ∨ c = '}') (rest : List Char) :
    EndsNumber (c :: rest) := by
  intro d hd
  obtain rfl : c = d := Option.some.inj hd
  exact h

theorem endsNumber_writeItems (items : List Json) (rest : List Char) :
    EndsNumber (writeItems items ++ rest) := by
  cases items <;> simp [writeItems, endsNumber_cons]

theorem endsNumber_writeFields (fields : List (String × Json)) (rest : List Char) :
    EndsNumber (writeFields fields ++ rest) := by
  cases fields <;> simp [writeFields, endsNumber_cons]

theorem readText?_writeText (s : String) (rest : List Char) {fuel : Nat}
    (h : (writeText s).length ≤ fuel) :
    ∃ body, writeText s ++ rest = '"' :: body ∧
      readText? fuel body [] = some (s.toList, rest) := by
  refine ⟨s.toList.flatMap escape ++ '"' :: rest, by simp [writeText], ?_⟩
  have hlength := length_le_flatMap_escape s.toList
  simp only [writeText, List.length_cons, List.length_append, List.length_nil] at h
  exact readText?_flatMap_escape s.toList rest (by omega) []

/-- Items are read back one by one, each with the room that its own text and those after it give. -/
theorem readItems?_write {item : Json} {items : List Json}
    (h : ∀ document ∈ item :: items, ReadsBack document) {fuel : Nat}
    (hfuel : (write item).length + (writeItems items).length ≤ fuel) (rest : List Char)
    (done : List Json) :
    readItems? fuel (write item ++ (writeItems items ++ rest)) done =
      some (done.reverse ++ item :: items, rest) := by
  induction items generalizing item fuel done with
  | nil =>
    simp only [writeItems, List.length_singleton] at hfuel
    obtain ⟨fuel, rfl⟩ : ∃ n, fuel = n + 1 := ⟨fuel - 1, by omega⟩
    have hitem := h item List.mem_cons_self fuel _ (by omega) (endsNumber_writeItems [] rest)
    rw [readItems?, hitem]
    simp [writeItems, isBlank]
  | cons second items ih =>
    obtain ⟨hfirst, hothers⟩ := List.forall_mem_cons.mp h
    simp only [writeItems, List.length_cons, List.length_append] at hfuel
    obtain ⟨fuel, rfl⟩ : ∃ n, fuel = n + 1 := ⟨fuel - 1, by omega⟩
    have hitem := hfirst fuel _ (by omega) (endsNumber_writeItems (second :: items) rest)
    have hitems := ih hothers (show _ ≤ fuel by omega) (item :: done)
    rw [readItems?, hitem]
    simp [writeItems, isBlank, hitems]

/-- The key and the value of a field are read back, whatever the fields go on with. -/
theorem readText?_key (key : String) {value : Json} (hvalue : ReadsBack value) {fuel : Nat}
    (hfuel : (writeText key).length + (write value).length ≤ fuel) {others : List Char}
    (hothers : EndsNumber others) :
    ∃ body, writeText key ++ ':' :: (write value ++ others) = '"' :: body ∧
      readText? (fuel + 1) body [] = some (key.toList, ':' :: (write value ++ others)) ∧
      readValue? fuel (write value ++ others) = some (value, others) := by
  obtain ⟨body, hbody, hkey⟩ := readText?_writeText key (':' :: (write value ++ others))
    (show _ ≤ fuel + 1 by omega)
  exact ⟨body, hbody, hkey, hvalue fuel others (by omega) hothers⟩

theorem readFields?_write {key : String} {value : Json} {fields : List (String × Json)}
    (h : ∀ field ∈ (key, value) :: fields, ReadsBack field.2) {fuel : Nat}
    (hfuel : (writeText key).length + (write value).length + (writeFields fields).length ≤ fuel)
    (rest : List Char) (done : List (String × Json)) :
    readFields? fuel (writeText key ++ ':' :: (write value ++ (writeFields fields ++ rest))) done =
      some (done.reverse ++ (key, value) :: fields, rest) := by
  induction fields generalizing key value fuel done with
  | nil =>
    have hvalue : ReadsBack value := h _ List.mem_cons_self
    simp only [writeFields, List.length_singleton] at hfuel
    obtain ⟨fuel, rfl⟩ : ∃ n, fuel = n + 1 := ⟨fuel - 1, by omega⟩
    obtain ⟨body, hbody, hkey, hread⟩ := readText?_key key hvalue (show _ ≤ fuel by omega)
      (endsNumber_writeFields [] rest)
    rw [readFields?, hbody]
    simp only [skipBlanks_cons (show isBlank '"' = false from rfl), hkey,
      skipBlanks_cons (show isBlank ':' = false from rfl), hread]
    simp [writeFields, isBlank]
  | cons second fields ih =>
    obtain ⟨hfirst, hothers⟩ := List.forall_mem_cons.mp h
    have hvalue : ReadsBack value := hfirst
    simp only [writeFields, List.length_cons, List.length_append] at hfuel
    obtain ⟨fuel, rfl⟩ : ∃ n, fuel = n + 1 := ⟨fuel - 1, by omega⟩
    obtain ⟨body, hbody, hkey, hread⟩ := readText?_key key hvalue (show _ ≤ fuel by omega)
      (endsNumber_writeFields (second :: fields) rest)
    have hfields := ih hothers (show _ ≤ fuel by omega) ((key, value) :: done)
    rw [readFields?, hbody]
    simp only [skipBlanks_cons (show isBlank '"' = false from rfl), hkey,
      skipBlanks_cons (show isBlank ':' = false from rfl), hread]
    simp [writeFields, isBlank, hfields]

/-- An integer starts with a digit or a sign. -/
theorem integerChars_eq_cons (n : Int) : ∃ c rest, Attest.Number.integerChars n = c :: rest ∧
    (Attest.Number.isDigit c = true ∨ c = '-') := by
  unfold Attest.Number.integerChars
  split
  · exact ⟨_, _, rfl, Or.inr rfl⟩
  · obtain ⟨c, rest, h⟩ := List.exists_cons_of_ne_nil (@Nat.toDigits_ne_nil n.natAbs 10)
    have hc : c ∈ Nat.toDigits 10 n.natAbs := by simp [h]
    exact ⟨c, rest, h, Or.inl (Attest.Number.isDigit_of_mem_toDigits hc)⟩

/-- The marks that a number does not start with: blanks, and what starts or ends anything else. -/
def otherMarks : List Char :=
  [' ', '\t', '\n', '\r', 'n', 't', 'f', '"', '[', '{', ']']

theorem notMem_otherMarks {c : Char} (h : Attest.Number.isDigit c = true ∨ c = '-') :
    c ∉ otherMarks := by
  intro hc
  have hother : (otherMarks.all fun d => !Attest.Number.isDigit d && d != '-') = true := rfl
  have hmark := List.all_eq_true.mp hother c hc
  obtain h | rfl := h
  · simp [h] at hmark
  · exact Bool.false_ne_true hmark

theorem isBlank_of_notMem {c : Char} (h : c ∉ otherMarks) : isBlank c = false := by
  simp only [otherMarks, List.mem_cons, List.not_mem_nil, or_false, not_or] at h
  obtain ⟨hspace, htab, hline, hreturn, -⟩ := h
  simp [isBlank, hspace, htab, hline, hreturn]

theorem readValue?_of_numeral {c : Char} (h : c ∉ otherMarks) (fuel : Nat) (rest : List Char) :
    readValue? (fuel + 1) (c :: rest) =
      (readNumber? (c :: rest)).map fun (n, rest) => (number n, rest) := by
  have hblank := isBlank_of_notMem h
  simp only [otherMarks, List.mem_cons, List.not_mem_nil, or_false, not_or] at h
  obtain ⟨-, -, -, -, hnull, htrue, hfalse, hquote, hlist, hobject, -⟩ := h
  rw [readValue?.eq_def, skipBlanks_cons hblank]
  simp [hnull, htrue, hfalse, hquote, hlist, hobject]

/-- The text of a document starts with a mark that no list ends with. -/
theorem Integral.write_eq_cons {document : Json} (h : Integral document) :
    ∃ c rest, write document = c :: rest ∧ isBlank c = false ∧ c ≠ ']' := by
  cases h with
  | null => exact ⟨_, _, rfl, rfl, by decide⟩
  | bool b => cases b <;> exact ⟨_, _, rfl, rfl, by decide⟩
  | integer n =>
    obtain ⟨c, rest, hn, hc⟩ := integerChars_eq_cons n
    have hother := notMem_otherMarks hc
    refine ⟨c, rest, hn, isBlank_of_notMem hother, ?_⟩
    rintro rfl
    exact hother (by decide)
  | string s => exact ⟨_, _, rfl, rfl, by decide⟩
  | array items => cases items <;> exact ⟨_, _, rfl, rfl, by decide⟩
  | object fields => cases fields <;> exact ⟨_, _, rfl, rfl, by decide⟩

theorem readsBack_of_succ {document : Json} (hne : write document ≠ [])
    (h : ∀ fuel rest, (write document).length ≤ fuel + 1 → EndsNumber rest →
      readValue? (fuel + 1) (write document ++ rest) = some (document, rest)) :
    ReadsBack document := by
  intro fuel rest hfuel hrest
  have hpos := List.length_pos_iff.mpr hne
  obtain ⟨fuel, rfl⟩ : ∃ n, fuel = n + 1 := ⟨fuel - 1, by omega⟩
  exact h fuel rest hfuel hrest

theorem Integral.readsBack {document : Json} (h : Integral document) : ReadsBack document := by
  induction h with
  | null =>
    refine readsBack_of_succ (by simp [write]) fun fuel rest _ _ => ?_
    simp [write, readValue?, isBlank]
  | bool b =>
    cases b <;>
      refine readsBack_of_succ (by simp [write]) fun fuel rest _ _ => ?_ <;>
      simp [write, readValue?, isBlank]
  | integer n low high =>
    obtain ⟨c, digits, hn, hc⟩ := integerChars_eq_cons n
    refine readsBack_of_succ (by simp [write, Number.chars, hn]) fun fuel rest _ hrest => ?_
    have hread := readNumber?_integerChars low high hrest
    have hvalue := readValue?_of_numeral (notMem_otherMarks hc) fuel (digits ++ rest)
    rw [← List.cons_append, ← hn, hread] at hvalue
    exact hvalue
  | string s =>
    refine readsBack_of_succ (by simp [write, writeText]) fun fuel rest hfuel _ => ?_
    obtain ⟨body, hbody, hread⟩ := readText?_writeText s rest hfuel
    rw [write, hbody]
    simp [readValue?, isBlank, hread]
  | array items integral ih =>
    cases items with
    | nil =>
      refine readsBack_of_succ (by simp [write]) fun fuel rest _ _ => ?_
      simp [write, readValue?, isBlank]
    | cons item items =>
      refine readsBack_of_succ (by simp [write]) fun fuel rest hfuel _ => ?_
      -- the first item cannot be taken for the end of the list
      obtain ⟨c, tail, hc, hblank, hbracket⟩ := (integral item List.mem_cons_self).write_eq_cons
      simp only [write, List.length_cons, List.length_append] at hfuel
      have hread := readItems?_write ih (show _ ≤ fuel by omega) rest []
      have hfirst : skipBlanks (write item ++ (writeItems items ++ rest)) =
          c :: (tail ++ (writeItems items ++ rest)) := by
        rw [hc, List.cons_append, skipBlanks_cons hblank]
      simp [write, readValue?, isBlank, hfirst, hbracket, hread]
  | object fields integral ih =>
    cases fields with
    | nil =>
      refine readsBack_of_succ (by simp [write]) fun fuel rest _ _ => ?_
      simp [write, readValue?, isBlank]
    | cons field fields =>
      refine readsBack_of_succ (by simp [write]) fun fuel rest hfuel _ => ?_
      simp only [write, List.length_cons, List.length_append] at hfuel
      have hread := readFields?_write ih (show _ ≤ fuel by omega) rest []
      have hfirst (others : List Char) : skipBlanks (writeText field.1 ++ others) =
          '"' :: (field.1.toList.flatMap escape ++ '"' :: others) := by
        simp [writeText, isBlank]
      simp [write, readValue?, isBlank, hfirst, hread]

/-- A document with 64-bit integers is read back from its text, and nothing is left over. -/
theorem Integral.read?_toText {document : Json} (h : Integral document) :
    read? (toText document) = some document := by
  have htext : (toText document).toList = write document := String.toList_ofList
  have hlength : (toText document).length = (write document).length := String.length_ofList
  have hread := h.readsBack (2 * (toText document).length + 2) [] (by omega)
    (fun _ hc => nomatch hc)
  rw [List.append_nil] at hread
  rw [read?, htext, hread]
  rfl

end Attest.Json
