import Attest.Proofs.PlainLines
import Attest.Yaml.Node

/-!
# Block mappings of words

The entries of a file of lines are those of one mapping. A key, its colon and its value are a step of
the scanner each: the key is a word whose place is kept, the colon puts the mark of a key in front of it,
and of the mapping if the key is the first one, and the value takes the gap behind it along. Lines
without entries take no step. The mapping ends with the file, and a file without entries has none.
-/

namespace Attest.Yaml

/-! ### Tokens of entries -/

def Entry.tokens (entry : Entry) : List Token :=
  [.key, .scalar .plain entry.key.chars, .value, .scalar .plain entry.value.chars]

/-- The tokens of entries up to the end of the stream. The first one opens a mapping, if none is open
yet. -/
def tokensOf (isOpen : Bool) : List Entry → List Token
  | [] => if isOpen then [.blockEnd, .streamEnd] else [.streamEnd]
  | entry :: entries =>
    (if isOpen then [] else [.blockMappingStart]) ++ (entry.tokens ++ tokensOf true entries)

namespace Scanner

/-- The scanner between two entries of a mapping at the start of lines, or before the first one. -/
def between (cursor : Cursor) (tokens : List Token) (isOpen keyAllowed : Bool) : Scanner where
  cursor
  tokens
  margin := isOpen.toNat
  outerMargins := .replicate isOpen.toNat 0
  keyAllowed
  key := none
  outerKeys := []

/-- The scanner behind a word that may be a key. -/
def behindKey (cursor : Cursor) (key : List Char) (tokens : List Token) (isOpen : Bool)
    (start : Position) : Scanner :=
  { between cursor (.scalar .plain key :: tokens) isOpen false with
    key := some ⟨isOpen, tokens.length, start⟩ }

variable {scanner : Scanner} {cursor : Cursor} {tokens : List Token} {isOpen keyAllowed : Bool}

/-- Outside flow collections, a scanner moves over space to a place within its block. -/
theorem settle?_eq (hflow : scanner.outerKeys = [])
    (hspace : skipSpace false scanner.keyAllowed false scanner.cursor.position scanner.cursor.rest =
      (cursor, keyAllowed))
    (hkey : ∀ key ∈ scanner.key, key.reaches cursor.position = true)
    (hmargin : scanner.margin ≤ cursor.position.column + 1) :
    scanner.settle? = some { scanner with cursor, keyAllowed } := by
  have hdrop : dropStale? cursor.position scanner.key = some scanner.key := by
    cases h : scanner.key with
    | none => rfl
    | some key => simp [dropStale?, hkey key h]
  have hinside : endBlocks (cursor.position.column + 1) scanner.margin scanner.outerMargins
      scanner.tokens = (scanner.margin, scanner.outerMargins, scanner.tokens) := by
    cases h : scanner.outerMargins with
    | nil => simp [endBlocks, hmargin]
    | cons outer margins => simp [endBlocks, hmargin]
  cases scanner
  simp only at hflow hspace hkey hdrop hinside
  subst hflow
  simp [settle?, inFlow, hspace, dropStaleKeys?, hdrop, unindent, column, hinside]

/-- A word is read as a plain scalar, unless it is a dash that stands alone. -/
theorem pushAt?_word {c : Char} {rest : List Char} (hc : isNameChar c = true)
    (hdash : c = '-' → endsWord rest = false) (scanner : Scanner) :
    scanner.pushAt? c rest = scanner.pushPlain? := by
  have hblank := isBlank_of_isNameChar hc
  have hbreak := isBreak_of_isPrintable (isPrintable_of_isNameChar hc)
  have hcomment : c ≠ '#' := ne_of_isNameChar hc rfl
  have hdirective : c ≠ '%' := ne_of_isNameChar hc rfl
  have hreserved : c ≠ '@' ∧ c ≠ '`' := ⟨ne_of_isNameChar hc rfl, ne_of_isNameChar hc rfl⟩
  unfold pushAt?
  split <;> first | exact absurd hc (by decide) | skip
  · simp [hdash rfl]
  · simp [hblank, hbreak, hcomment, hdirective, hreserved]

theorem next?_of_settle? {settled : Scanner} {c : Char} {rest : List Char}
    (h : scanner.settle? = some settled) (hrest : settled.cursor.rest = c :: rest)
    (hdirective : settled.column = 0 → c ≠ '%') (hboundary : settled.cursor.isAtBoundary = false) :
    scanner.next? = settled.pushAt? c rest := by
  simp only [Cursor.isAtBoundary, Bool.or_eq_false_iff] at hboundary
  have hpercent : ¬ (settled.column = 0 ∧ c = '%') :=
    fun h => hdirective h.1 h.2
  simp [next?, h, hrest, hpercent, hboundary]

/-- Outside flow collections, a word is a scalar, whose place is kept where a key may start. -/
theorem next?_word (scanner : Scanner) {word : Word} {rest : List Char} {position : Position}
    {endsInBreak : Bool} {after : Cursor} (hflow : scanner.outerKeys = []) (hkey : scanner.key = none)
    (hspace : skipSpace false scanner.keyAllowed false scanner.cursor.position scanner.cursor.rest =
      (⟨word.chars ++ rest, position⟩, keyAllowed))
    (hstart : position.column ≠ 0 ∨ word.chars.head? ≠ some '-')
    (hmargin : scanner.margin ≤ position.column + 1)
    (hscalar : plainScalar? false scanner.margin ⟨word.chars ++ rest, position⟩ =
      some ⟨word.chars, endsInBreak, after⟩) :
    scanner.next? = some { scanner with
      cursor := after
      tokens := .scalar .plain word.chars :: scanner.tokens
      keyAllowed := endsInBreak
      key := if keyAllowed then
          some ⟨scanner.margin == position.column + 1, scanner.tokens.length, position⟩
        else none } := by
  have hsettle := settle?_eq hflow hspace (by simp [hkey]) hmargin
  obtain ⟨c, chars, hchars, hc⟩ := word.exists_cons
  have hdash : c = '-' → endsWord (chars ++ rest) = false := by
    rintro rfl
    cases chars with
    | nil => exact absurd hchars word.ne_dash
    | cons d chars =>
      have hd : isNameChar d = true := word.isNameChar_of_mem d (by simp [hchars])
      simp [endsWord, isBlank_of_isNameChar hd, isBreak_of_isPrintable (isPrintable_of_isNameChar hd)]
  have hrest : word.chars ++ rest = c :: (chars ++ rest) := by rw [hchars, List.cons_append]
  rw [next?_of_settle? hsettle hrest (fun _ => ne_of_isNameChar hc rfl)
    (Word.isAtBoundary_eq_false hstart), pushAt?_word hc hdash]
  cases scanner
  simp only at hflow hkey hscalar
  subst hflow hkey
  cases keyAllowed <;>
    simp [pushPlain?, saveKey?, forgetKey?, inFlow, column, push, hscalar]

/-- The key of an entry is a scalar whose place is kept. -/
theorem next?_key (entry : Entry) {rest : List Char} {position : Position}
    (hspace : skipSpace false keyAllowed false cursor.position cursor.rest =
      (⟨entry.key.chars ++ ':' :: ' ' :: rest, position⟩, true))
    (hcolumn : position.column = 0) :
    (between cursor tokens isOpen keyAllowed).next? =
      some (behindKey ⟨':' :: ' ' :: rest, position.advance entry.key.chars.length⟩
        entry.key.chars tokens isOpen position) := by
  have hgap (margin : Nat) (position : Position) : readGap? margin .empty position (':' :: ' ' :: rest) =
      some (.empty, ⟨':' :: ' ' :: rest, position⟩) := by
    simp [readGap?, isBreak, isBlank]
  have hcolon : plainWord? false (':' :: ' ' :: rest) = some [] := plainWord?_colon rfl
  have hscalar : plainScalar? false isOpen.toNat ⟨entry.key.chars ++ ':' :: ' ' :: rest, position⟩ =
      some ⟨entry.key.chars, false, _⟩ :=
    Word.plainScalar?_eq (Or.inr entry.head_key_ne) hcolon (hgap _ _) fun _ => Or.inr (Or.inr hcolon)
  have hmargin : isOpen.toNat ≤ position.column + 1 := by
    rw [hcolumn]
    exact isOpen.toNat_le
  have hrequired : (isOpen.toNat == position.column + 1) = isOpen := by
    rw [hcolumn]
    cases isOpen <;> rfl
  rw [next?_word _ rfl rfl hspace (Or.inr entry.head_key_ne) hmargin hscalar, if_pos rfl]
  simp [behindKey, between, hrequired]

/-- The colon behind a key opens the mapping, unless it is open. -/
theorem next?_colon {key rest : List Char} {start last : Position}
    (hline : last.line = start.line) (hindex : last.index ≤ start.index + 1024)
    (hcolumn : start.column = 0) :
    (behindKey ⟨':' :: ' ' :: rest, last⟩ key tokens isOpen start).next? =
      some (between ⟨' ' :: rest, last.advance 1⟩
        (.value :: .scalar .plain key :: .key ::
          ((if isOpen then [] else [.blockMappingStart]) ++ tokens)) true false) := by
  have hspace : skipSpace false false false last (':' :: ' ' :: rest) =
      (⟨':' :: ' ' :: rest, last⟩, false) := by
    rw [skipSpace_cons (by decide)]
    rfl
  have hreaches : SimpleKey.reaches ⟨isOpen, tokens.length, start⟩ last = true := by
    simp [SimpleKey.reaches, hline, hindex]
  have hmargin : isOpen.toNat ≤ last.column + 1 := Nat.le_trans isOpen.toNat_le (by omega)
  have hboundary : Cursor.isAtBoundary ⟨':' :: ' ' :: rest, last⟩ = false :=
    isAtBoundary_eq_false (Or.inr (by rintro c ⟨⟩; decide))
  rw [next?_of_settle? (settle?_eq rfl hspace (by rintro key ⟨⟩; exact hreaches) hmargin) rfl
    (fun _ => by decide) hboundary]
  have hends : endsWord (' ' :: rest) = true := rfl
  cases isOpen
  · simp [pushAt?, hends, pushValue?, confirmKey, opensBlock, behindKey, between, inFlow, hcolumn,
      indent, pushOver, insertAfter, Cursor.skip]
  · simp [pushAt?, hends, pushValue?, confirmKey, opensBlock, behindKey, between, inFlow, hcolumn,
      pushOver, insertAfter, Cursor.skip]

/-- The value of an entry is a scalar on its line, and the space behind the line is still to come. -/
theorem exists_next?_value (word : Word) (position : Position) (lines : List Line) :
    ∃ after isBroken,
      (between ⟨' ' :: (word.chars ++ restOf lines), position⟩ tokens true false).next? =
        some (between after (.scalar .plain word.chars :: tokens) true isBroken) ∧
      after.Reaches isBroken lines := by
  obtain ⟨c, chars, hchars, hc⟩ := word.exists_cons
  have hspace : skipSpace false false false position (' ' :: (word.chars ++ restOf lines)) =
      (⟨word.chars ++ restOf lines, position.advance 1⟩, false) := by
    rw [skipSpace_cons (by decide), hchars]
    exact skipSpace_word hc
  have hcolumn : (position.advance 1).column ≠ 0 := by simp [Position.advance]
  have hmargin : true.toNat ≤ (position.advance 1).column + 1 := by simp
  obtain ⟨gap, after, hgap, hhead, hskip⟩ := @exists_readGap? 1 .empty
    ((position.advance 1).advance word.chars.length) _ fun c => eq_or_isPrintable_of_mem_restOf
  have hreaches : after.Reaches gap.isBroken lines := ⟨_, _, _, hskip⟩
  have hscalar := word.plainScalar?_eq (Or.inl hcolumn) (plainWord?_restOf lines) hgap
    (hreaches.endsScalar hhead)
  refine ⟨after, gap.isBroken, ?_, hreaches⟩
  exact next?_word (between ⟨_, position⟩ tokens true false) rfl rfl hspace (Or.inl hcolumn) hmargin
    hscalar

/-- The stream ends behind the last entry, and so does the mapping, if there is one. -/
theorem exists_next?_end (tokens : List Token) (isOpen : Bool) {last : Position} {keyAllowed' : Bool}
    (hspace : skipSpace false keyAllowed false cursor.position cursor.rest =
      (⟨[], last⟩, keyAllowed')) :
    ∃ ended, (between cursor tokens isOpen keyAllowed).next? = some ended ∧
      ended.tokens = (tokensOf isOpen []).reverse ++ tokens := by
  have hmargin : isOpen.toNat ≤ last.column + 1 := Nat.le_trans isOpen.toNat_le (by omega)
  have hsettle := @settle?_eq (between cursor tokens isOpen keyAllowed) _ _ rfl hspace
    (by rintro key ⟨⟩) hmargin
  refine ⟨_, by simp only [next?, hsettle, Option.bind_eq_bind, Option.bind_some]; rfl, ?_⟩
  cases isOpen <;> rfl

theorem run?_of_next? {next : Scanner} (h : scanner.next? = some next)
    (hend : next.tokens.head? ≠ some .streamEnd) (fuel : Nat) :
    run? (fuel + 1) scanner = run? fuel next := by
  simp [run?, h, hend]

/-- The tokens of an entry are read in three steps. -/
theorem exists_run?_entry {entry : Entry} {lines : List Line} {position : Position}
    (hspace : skipSpace false keyAllowed false cursor.position cursor.rest =
      (⟨(Line.entry entry).chars ++ restOf lines, position⟩, true))
    (hcolumn : position.column = 0) :
    ∃ after isBroken,
      (∀ fuel, run? (fuel + 3) (between cursor tokens isOpen keyAllowed) =
        run? fuel (between after (entry.tokens.reverse ++
          ((if isOpen then [] else [.blockMappingStart]) ++ tokens)) true isBroken)) ∧
      after.Reaches isBroken lines := by
  simp only [Line.chars, List.append_assoc, List.cons_append] at hspace
  have hindex : (position.advance entry.key.chars.length).index ≤ position.index + 1024 :=
    Nat.add_le_add_left entry.key_length_le _
  obtain ⟨after, isBroken, hvalue, hreaches⟩ := exists_next?_value entry.value
    ((position.advance entry.key.chars.length).advance 1) lines
  refine ⟨after, isBroken, fun fuel => ?_, hreaches⟩
  rw [run?_of_next? (next?_key entry hspace hcolumn) (by simp [behindKey, between]),
    run?_of_next? (next?_colon (by rfl) hindex hcolumn) (by simp [between]),
    run?_of_next? hvalue (by simp [between])]
  simp [Entry.tokens]

/-- The entries of lines are read from wherever those lines are reached, with fuel for three steps each
and one for the end. -/
def ReadsEntries (lines : List Line) : Prop :=
  ∀ {cursor tokens isOpen keyAllowed fuel}, cursor.Reaches keyAllowed lines →
    3 * (entriesOf lines).length < fuel →
    run? fuel (between cursor tokens isOpen keyAllowed) =
      some (tokens.reverse ++ tokensOf isOpen (entriesOf lines))

/-- The entries of lines are read from the start of the first one, if those of the others are. -/
theorem run?_line {line : Line} {lines : List Line} {position : Position} {fuel : Nat}
    (hlines : ReadsEntries lines)
    (hspace : skipSpace false keyAllowed false cursor.position cursor.rest =
      skipSpace false true false position (line.chars ++ restOf lines))
    (hcolumn : position.column = 0) (hfuel : 3 * (entriesOf (line :: lines)).length < fuel) :
    run? fuel (between cursor tokens isOpen keyAllowed) =
      some (tokens.reverse ++ tokensOf isOpen (entriesOf (line :: lines))) := by
  cases hentry : line.entry? with
  | none =>
    obtain ⟨last, inComment, hskip⟩ := exists_skipSpace_idle hentry
    have hentries : entriesOf (line :: lines) = entriesOf lines := List.filterMap_cons_none hentry
    rw [hentries] at hfuel ⊢
    exact hlines ⟨_, _, _, hspace.trans hskip⟩ hfuel
  | some entry =>
    obtain rfl := Line.eq_of_entry? hentry
    have hentries : entriesOf (.entry entry :: lines) = entry :: entriesOf lines := rfl
    rw [hentries, List.length_cons] at hfuel
    obtain ⟨after, isBroken, hrun, hreaches⟩ :=
      exists_run?_entry (hspace.trans (skipSpace_entry entry)) hcolumn
    obtain ⟨fuel, rfl⟩ : ∃ more, fuel = more + 3 := ⟨fuel - 3, by omega⟩
    rw [hrun, hlines hreaches (by omega), hentries, tokensOf]
    cases isOpen <;> simp

theorem readsEntries (lines : List Line) : ReadsEntries lines := by
  induction lines with
  | nil =>
    rintro cursor tokens isOpen keyAllowed fuel ⟨_, _, _, hspace⟩ hfuel
    obtain ⟨ended, hnext, htokens⟩ := exists_next?_end tokens isOpen hspace
    have hend : ended.tokens.head? = some .streamEnd := by
      rw [htokens]
      cases isOpen <;> rfl
    have hreverse : ended.tokens.reverse = tokens.reverse ++ tokensOf isOpen [] := by
      rw [htokens, List.reverse_append, List.reverse_reverse]
    obtain ⟨fuel, rfl⟩ : ∃ more, fuel = more + 1 := ⟨fuel - 1, by omega⟩
    simp [run?, hnext, hend, hreverse, entriesOf]
  | cons line lines ih =>
    rintro cursor tokens isOpen keyAllowed fuel ⟨_, _, _, hspace⟩ hfuel
    rw [skipSpace_restOf_cons] at hspace
    exact run?_line ih hspace rfl hfuel

end Scanner

/-- An entry takes three characters at least. -/
theorem Line.length_entry?_le (line : Line) : 3 * line.entry?.toList.length ≤ line.chars.length := by
  cases line with
  | blank | comment => exact Nat.zero_le _
  | entry entry =>
    have hkey := List.length_pos_iff.mpr entry.key.ne_nil
    simp only [Line.entry?, Line.chars, Option.toList_some, List.length_append, List.length_cons,
      List.length_nil]
    omega

theorem length_entriesOf_cons (line : Line) (lines : List Line) :
    (entriesOf (line :: lines)).length = line.entry?.toList.length + (entriesOf lines).length := by
  cases h : line.entry? <;> simp [entriesOf, h, Nat.add_comm]

theorem length_entriesOf_le_restOf (lines : List Line) :
    3 * (entriesOf lines).length ≤ (restOf lines).length := by
  induction lines with
  | nil => exact Nat.le_refl _
  | cons line lines ih =>
    have hfirst := line.length_entry?_le
    rw [length_entriesOf_cons, restOf_cons, List.length_cons, List.length_append]
    omega

/-- So there is fuel for the tokens of a file. -/
theorem length_entriesOf_le_textOf (lines : List Line) :
    3 * (entriesOf lines).length ≤ (textOf lines).length := by
  cases lines with
  | nil => exact Nat.le_refl _
  | cons line lines =>
    have hfirst := line.length_entry?_le
    have hlines := length_entriesOf_le_restOf lines
    rw [textOf_cons, length_entriesOf_cons, List.length_append]
    omega

theorem eq_or_isPrintable_of_mem_textOf {lines : List Line} {c : Char} (h : c ∈ textOf lines) :
    c = '\n' ∨ isPrintable c = true := by
  cases lines with
  | nil => cases h
  | cons line lines =>
    rw [textOf_cons, List.mem_append] at h
    exact h.elim (fun hline => Or.inr (Line.isPrintable_of_mem_chars hline))
      eq_or_isPrintable_of_mem_restOf

theorem Scanner.ofStream_textOf (lines : List Line) :
    ofStream (textOf lines) = between ⟨textOf lines, .start⟩ [] false true := by
  have hcursor : Cursor.ofStream (textOf lines) = ⟨textOf lines, .start⟩ := by
    unfold Cursor.ofStream
    split
    · rename_i rest hmark
      have hmem : '\ufeff' ∈ textOf lines := hmark ▸ List.mem_cons_self
      exact absurd (eq_or_isPrintable_of_mem_textOf hmem) (by decide)
    · rfl
  rw [ofStream, hcursor]
  rfl

/-- The tokens of a file are those of its entries. -/
theorem Token.ofStream?_textOf (lines : List Line) :
    ofStream? (textOf lines) = some (tokensOf false (entriesOf lines)) := by
  have hallowed : (textOf lines).all isAllowed = true := by
    refine List.all_eq_true.mpr fun c hc => ?_
    rcases eq_or_isPrintable_of_mem_textOf hc with rfl | hc
    · rfl
    · exact isAllowed_of_isPrintable hc
  have hfuel := length_entriesOf_le_textOf lines
  rw [ofStream?, if_pos hallowed, Scanner.ofStream_textOf]
  cases lines with
  | nil => rfl
  | cons line lines =>
    have hspace : skipSpace false true false .start (textOf (line :: lines)) =
        skipSpace false true false .start (line.chars ++ restOf lines) := by
      rw [textOf_cons]
    exact Scanner.run?_line (Scanner.readsEntries lines) hspace rfl (Nat.lt_succ_of_le hfuel)

/-! ### Nodes of entries -/

def Entry.nodes (entry : Entry) : Node × Node :=
  (.scalar ⟨.plain, none, entry.key.chars⟩, .scalar ⟨.plain, none, entry.value.chars⟩)

section Nodes

variable {reader : Reader} {text : List Char} {rest : List Token}

@[simp] theorem Reader.before_tokens (tokens : List Token) :
    (reader.before tokens).tokens = tokens := rfl

@[simp] theorem Reader.before_before (tokens : List Token) :
    (reader.before tokens).before rest = reader.before rest := rfl

@[simp] theorem Reader.named_none (scalar : Option Scalar) : reader.named none scalar = reader := rfl

theorem node?_scalar (indentless : Bool) (fuel : Nat) :
    node? true indentless (fuel + 1) (reader.before (.scalar .plain text :: rest)) =
      some (.scalar ⟨.plain, none, text⟩, reader.before rest) := by
  simp [node?, Properties.read]

theorem part?_scalar (fuel : Nat) :
    part? blockStops true true (fuel + 2) (reader.before (.scalar .plain text :: rest)) =
      some (.scalar ⟨.plain, none, text⟩, reader.before rest) := by
  simp [part?, Reader.isAt, blockStops, node?_scalar]

theorem value?_scalar (fuel : Nat) :
    value? blockStops true (fuel + 3) (reader.before (.value :: .scalar .plain text :: rest)) =
      some (.scalar ⟨.plain, none, text⟩, reader.before rest) := by
  simp [value?, part?_scalar]

/-- The entries of a mapping are read one after the other. -/
theorem blockEntries?_tokensOf {entries : List Entry} {fuel : Nat} (h : entries.length + 4 ≤ fuel) :
    blockEntries? fuel (reader.before (tokensOf true entries)) =
      some (entries.map Entry.nodes, reader.before [.streamEnd]) := by
  induction entries generalizing fuel with
  | nil =>
    obtain ⟨fuel, rfl⟩ : ∃ more, fuel = more + 1 := ⟨fuel - 1, by omega⟩
    simp [blockEntries?, tokensOf]
  | cons entry entries ih =>
    rw [List.length_cons] at h
    obtain ⟨fuel, rfl⟩ : ∃ more, fuel = more + 4 := ⟨fuel - 4, by omega⟩
    have hrest := @ih (fuel + 3) (by omega)
    change blockEntries? (fuel + 4) (reader.before (.key :: .scalar .plain entry.key.chars :: .value ::
      .scalar .plain entry.value.chars :: tokensOf true entries)) = _
    rw [blockEntries?]
    simp only [Reader.before_tokens, Reader.before_before, Option.bind_eq_bind, part?_scalar,
      value?_scalar, Option.bind_some, hrest]
    rfl

theorem node?_tokensOf {entries : List Entry} {fuel : Nat} (h : entries.length + 4 ≤ fuel) :
    node? true false (fuel + 1) (reader.before (.blockMappingStart :: tokensOf true entries)) =
      some (.mapping (entries.map Entry.nodes), reader.before [.streamEnd]) := by
  have hentries := @blockEntries?_tokensOf reader entries fuel h
  simp [node?, Properties.read, hentries]

end Nodes

theorem length_le_length_tokensOf (isOpen : Bool) (entries : List Entry) :
    entries.length ≤ (tokensOf isOpen entries).length := by
  induction entries generalizing isOpen with
  | nil => exact Nat.zero_le _
  | cons entry entries ih =>
    have hrest := ih true
    simp only [tokensOf, Entry.tokens, List.length_append, List.length_cons]
    omega

/-- A file with entries is a mapping of them; one without any is no document at all. -/
theorem Document.ofStream?_textOf (lines : List Line) :
    ofStream? (textOf lines) =
      if entriesOf lines = [] then none
      else some ⟨.mapping ((entriesOf lines).map Entry.nodes), .empty⟩ := by
  rw [ofStream?, Token.ofStream?_textOf]
  cases entriesOf lines with
  | nil => rfl
  | cons entry entries =>
    have hlength := length_le_length_tokensOf true (entry :: entries)
    have hfuel : (entry :: entries).length + 4 ≤
        4 * (tokensOf true (entry :: entries)).length + 7 := by omega
    have hroot : root? false
        ⟨.blockMappingStart :: tokensOf true (entry :: entries), standardHandles, .empty⟩ =
        some (.mapping ((entry :: entries).map Entry.nodes),
          ⟨[.streamEnd], standardHandles, .empty⟩) :=
      @node?_tokensOf ⟨[], standardHandles, .empty⟩ (entry :: entries) _ hfuel
    change ofTokens? (.blockMappingStart :: tokensOf true (entry :: entries)) = _
    simp [ofTokens?, splitDirectives, areAcceptable, versions, handles, hroot]

end Attest.Yaml
