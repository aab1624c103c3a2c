import Attest.Proofs.Messages
import Attest.Proofs.QuotedTexts

/-!
# Messages on one line

In the compact layout a shown value has no control character, however it is nested and whatever its texts
hold, for these are escaped and all else is made of brackets, digits and fixed names. Cutting adds nothing
but dots. So neither a line break nor any other control character gets into a message, unless it comes
with a label, which is shown as it is.
-/

namespace Attest

namespace Text

/-- No character of a text is a control character of ASCII, and a line break is one. -/
def OneLine (text : List Char) : Prop :=
  ∀ c ∈ text, 0x20 ≤ c.toNat

/-- The control characters of a text. -/
def controlChars (text : String) : List Char :=
  text.toList.filter fun c => c.toNat < 0x20

instance (text : List Char) : Decidable (OneLine text) :=
  List.decidableBAll (fun c : Char => 0x20 ≤ c.toNat) text

variable {s t : List Char}

@[simp] theorem oneLine_nil : OneLine [] :=
  fun _ h => nomatch h

@[simp] theorem oneLine_cons_iff {c : Char} : OneLine (c :: s) ↔ 0x20 ≤ c.toNat ∧ OneLine s :=
  List.forall_mem_cons

@[simp] theorem oneLine_append_iff : OneLine (s ++ t) ↔ OneLine s ∧ OneLine t :=
  List.forall_mem_append

theorem OneLine.of_subset (ht : OneLine t) (h : s ⊆ t) : OneLine s :=
  fun c hc => ht c (h hc)

theorem oneLine_replicate (n : Nat) {c : Char} (h : 0x20 ≤ c.toNat) : OneLine (.replicate n c) :=
  fun d hd => by rwa [List.eq_of_mem_replicate hd]

theorem oneLine_toDigits {base n : Nat} (hbase : 1 < base) (hmost : base ≤ 16) :
    OneLine (Nat.toDigits base n) := by
  have hdigit : ∀ d < 16, 0x20 ≤ (Nat.digitChar d).toNat := by decide
  intro c hc
  obtain ⟨d, hd, rfl⟩ := Unicode.exists_of_mem_toDigits hbase hc
  exact hdigit d (by omega)

/-- Control characters do not stand for themselves between quotes, and no escape holds one. -/
theorem oneLine_escape {quote : Char} (hquote : 0x20 ≤ quote.toNat) (c : Char) :
    OneLine (escape quote c) := by
  have hshown (h : isShown c = true) : 0x20 ≤ c.toNat := by
    by_contra hlt
    have hprintable : Unicode.isPrintable c.toNat = false := if_pos (Nat.lt_of_not_le hlt)
    simp [isShown, hprintable] at h
  have hnumber : OneLine (numberEscape c) := by
    have hdigits : OneLine (Nat.toDigits 16 c.toNat) := oneLine_toDigits (by decide) (by decide)
    simp [numberEscape, hdigits]
  unfold escape
  split_ifs with _ _ _ _ hself h
  · decide
  · decide
  · decide
  · decide
  · rcases hself with rfl | rfl
    · simp [hquote]
    · decide
  · simp [hshown h]
  · exact hnumber

theorem oneLine_quoted {quote : Char} (hquote : 0x20 ≤ quote.toNat) (text : List Char) :
    OneLine (quoted quote text) := by
  have htext : OneLine (text.flatMap (escape quote)) := by
    intro c hc
    obtain ⟨d, -, hd⟩ := List.mem_flatMap.mp hc
    exact oneLine_escape hquote d c hd
  simp [quoted, hquote, htext]

theorem oneLine_quotedText (text : String) : OneLine (quotedText text) :=
  oneLine_quoted (by decide) text.toList

theorem oneLine_truncate (width : Nat) (h : OneLine s) : OneLine (truncate width s) := by
  have hdots : OneLine ellipsis := by decide
  by_cases hfits : s.length ≤ width
  · rwa [truncate_of_length_le hfits]
  · rw [truncate_of_lt (Nat.lt_of_not_le hfits), oneLine_append_iff]
    exact ⟨h.of_subset (List.take_subset _ _), hdots.of_subset (List.take_subset _ _)⟩

theorem controlChars_append (s t : String) :
    controlChars (s ++ t) = controlChars s ++ controlChars t := by
  rw [controlChars, String.toList_append, List.filter_append]
  rfl

theorem controlChars_eq_nil_iff {s : String} : controlChars s = [] ↔ OneLine s.toList := by
  simp [controlChars, OneLine, List.filter_eq_nil_iff]

end Text

open Text (OneLine oneLine_nil oneLine_cons_iff oneLine_append_iff oneLine_toDigits)

namespace Number

theorem oneLine_integerChars (n : Int) : OneLine (integerChars n) := by
  have hdigits : OneLine (Nat.toDigits 10 n.natAbs) := oneLine_toDigits (by decide) (by decide)
  unfold integerChars
  split
  · exact oneLine_cons_iff.mpr ⟨by decide, hdigits⟩
  · exact hdigits

theorem FloatStyle.oneLine_positional (decimal : Decimal) : OneLine (positional decimal) := by
  have hdigits : OneLine (Nat.toDigits 10 decimal.digits) := oneLine_toDigits (by decide) (by decide)
  have hzeros (n : Nat) : OneLine (.replicate n '0') := Text.oneLine_replicate n (by decide)
  have htake (n : Nat) := hdigits.of_subset (List.take_subset n _)
  have hdrop (n : Nat) := hdigits.of_subset (List.drop_subset n _)
  simp only [positional]
  split_ifs <;> simp [hdigits, hzeros, htake, hdrop]

theorem FloatStyle.oneLine_scientific (style : FloatStyle) {digits : List Char} (h : OneLine digits)
    (power : Int) : OneLine (style.scientific digits power) := by
  have hpower := oneLine_integerChars power
  have hsign : OneLine (if style.signedPower = true ∧ 0 ≤ power then ['+'] else []) := by
    split <;> decide
  match digits with
  | [] => simp [scientific, hsign, hpower]
  | [first] =>
    have hfirst := (oneLine_cons_iff.mp h).1
    simp [scientific, hsign, hpower, hfirst]
  | first :: second :: rest =>
    simp only [oneLine_cons_iff] at h
    simp [scientific, hsign, hpower, h]

theorem FloatStyle.oneLine_chars (style : FloatStyle) {format : FloatFormat} (x : Floating format) :
    OneLine (style.chars x) := by
  have hmagnitude : OneLine (style.magnitudeChars format x.magnitude) := by
    simp only [magnitudeChars]
    split_ifs
    · decide
    · exact oneLine_positional _
    · exact style.oneLine_scientific (oneLine_toDigits (by decide) (by decide)) _
  simp only [chars]
  split_ifs <;> simp [hmagnitude]

end Number

namespace Layout

theorem oneLine_truth (b : Bool) : OneLine (truth b) := by
  cases b <;> decide

theorem oneLine_joined {items : List (List Char)} (h : ∀ item ∈ items, OneLine item) :
    OneLine (joined items) := by
  induction items with
  | nil => exact oneLine_nil
  | cons item items ih =>
    obtain ⟨hitem, hrest⟩ := List.forall_mem_cons.mp h
    cases items with
    | nil => exact hitem
    | cons next items =>
      have hjoined := ih hrest
      simp only [joined, oneLine_append_iff, oneLine_cons_iff]
      exact ⟨hitem, by decide, by decide, hjoined⟩

theorem oneLine_enclose {opening closing : List Char} {items : List (List Char)}
    (hopening : OneLine opening) (hclosing : OneLine closing) (h : ∀ item ∈ items, OneLine item) :
    OneLine (compact.enclose opening closing items) := by
  have hjoined := oneLine_joined h
  cases items with
  | nil => simp [enclose, hopening, hclosing]
  | cons item items => simp [enclose, hopening, hclosing, hjoined]

theorem oneLine_list {items : List (List Char)} (h : ∀ item ∈ items, OneLine item) :
    OneLine (compact.list items) :=
  oneLine_enclose (by decide) (by decide) h

theorem oneLine_set {items : List (List Char)} (h : ∀ item ∈ items, OneLine item) :
    OneLine (compact.set items) :=
  oneLine_enclose (by decide) (by decide) h

theorem oneLine_tuple {name : List Char} {items : List (List Char)} (hname : OneLine name)
    (h : ∀ item ∈ items, OneLine item) : OneLine (compact.tuple name items) :=
  oneLine_enclose (oneLine_append_iff.mpr ⟨hname, by decide⟩) (by decide) h

theorem oneLine_row {items : List (List Char)} (h : ∀ item ∈ items, OneLine item) :
    OneLine (compact.row items) := by
  unfold row
  split
  · have hitem := h _ List.mem_cons_self
    have hopening : OneLine ['('] := by decide
    have hclosing : OneLine [',', ')'] := by decide
    exact oneLine_append_iff.mpr ⟨oneLine_append_iff.mpr ⟨hopening, hitem⟩, hclosing⟩
  · exact oneLine_tuple oneLine_nil h

theorem oneLine_option {item : Option (List Char)} (h : ∀ text ∈ item, OneLine text) :
    OneLine (compact.option item) := by
  cases item with
  | none => decide
  | some text => exact oneLine_tuple (by decide) (List.forall_mem_singleton.mpr (h text rfl))

theorem oneLine_entry {key value : List Char} (hkey : OneLine key) (hvalue : OneLine value) :
    OneLine (entry key value) := by
  simp [entry, hkey, hvalue]

theorem oneLine_record {name : List Char} {fields : List (List Char × List Char)}
    (hname : OneLine name) (h : ∀ field ∈ fields, OneLine field.1 ∧ OneLine field.2) :
    OneLine (compact.record name false fields) := by
  have hfields : OneLine (joined (fields.map fun field => entry field.1 field.2)) := by
    refine oneLine_joined (List.forall_mem_map.mpr fun field hfield => ?_)
    exact oneLine_entry (h field hfield).1 (h field hfield).2
  simp [record, hname, hfields]

end Layout

/-! ### Values -/

namespace Json

mutual

theorem oneLine_shown : ∀ document : Json, OneLine (document.shown .compact)
  | null => by
    change OneLine "Null".toList
    decide
  | bool b => by
    change OneLine (Layout.compact.tuple "Bool".toList [Layout.truth b])
    exact Layout.oneLine_tuple (by decide) (List.forall_mem_singleton.mpr (Layout.oneLine_truth b))
  | number n => by
    have hchars : OneLine n.chars := by
      cases n with
      | integer n => exact Attest.Number.oneLine_integerChars n
      | real x finite => exact Attest.Number.FloatStyle.oneLine_chars _ x
    change OneLine (Layout.compact.tuple "Number".toList [n.chars])
    exact Layout.oneLine_tuple (by decide) (List.forall_mem_singleton.mpr hchars)
  | string s => by
    have hquoted := Text.oneLine_quotedText s
    change OneLine (Layout.compact.tuple "String".toList [Text.quotedText s])
    exact Layout.oneLine_tuple (by decide) (List.forall_mem_singleton.mpr hquoted)
  | array items => by
    have hname : OneLine "Array ".toList := by decide
    have hitems := Layout.oneLine_list (oneLine_shownItems items)
    exact oneLine_append_iff.mpr ⟨hname, hitems⟩
  | object fields => by
    have hname : OneLine "Object ".toList := by decide
    have hfields := Layout.oneLine_set (oneLine_shownFields fields)
    exact oneLine_append_iff.mpr ⟨hname, hfields⟩

theorem oneLine_shownItems : ∀ items : List Json, ∀ text ∈ shownItems .compact items, OneLine text
  | [] => fun _ h => nomatch h
  | item :: items => List.forall_mem_cons.mpr ⟨oneLine_shown item, oneLine_shownItems items⟩

theorem oneLine_shownFields : ∀ fields : List (String × Json),
    ∀ text ∈ shownFields .compact fields, OneLine text
  | [] => fun _ h => nomatch h
  | (key, value) :: fields =>
    List.forall_mem_cons.mpr ⟨Layout.oneLine_entry (Text.oneLine_quotedText key) (oneLine_shown value),
      oneLine_shownFields fields⟩

end

end Json

namespace Structured

mutual

/-- The names of variants, records and their parts have no control characters. They come from
declarations, where none can stand. -/
def PlainlyNamed : Structured → Prop
  | positional _ name parts => OneLine name.toList ∧ PartsPlainlyNamed parts
  | labelled _ name parts => OneLine name.toList ∧ LabelledPlainlyNamed parts
  | present part => PlainlyNamed part
  | items parts => PartsPlainlyNamed parts
  | integer _ | real _ | text _ | absent => True

def PartsPlainlyNamed : List Structured → Prop
  | [] => True
  | part :: parts => PlainlyNamed part ∧ PartsPlainlyNamed parts

def LabelledPlainlyNamed : List (String × Structured) → Prop
  | [] => True
  | (label, part) :: parts =>
    OneLine label.toList ∧ PlainlyNamed part ∧ LabelledPlainlyNamed parts

end

mutual

theorem oneLine_shown : ∀ v : Structured, v.PlainlyNamed → OneLine (v.shown .compact)
  | integer n, _ => by
    rw [shown]
    exact Number.oneLine_integerChars n
  | real x, _ => by
    rw [shown]
    exact Number.FloatStyle.oneLine_chars _ x
  | text s, _ => by
    rw [shown]
    exact Text.oneLine_quotedText s
  | absent, _ => by rw [shown]; decide
  | present part, h => by
    rw [shown]
    refine Layout.oneLine_option fun text htext => ?_
    cases htext
    exact oneLine_shown part h
  | items parts, h => by
    rw [shown]
    exact Layout.oneLine_list (oneLine_shownParts parts h)
  | positional _ name [], h => by
    rw [shown]
    exact h.1
  | positional _ name (part :: parts), h => by
    rw [shown]
    exact Layout.oneLine_tuple h.1 (oneLine_shownParts (part :: parts) h.2)
  | labelled _ name parts, h => by
    rw [shown]
    exact Layout.oneLine_record h.1 (oneLine_shownLabelled parts h.2)

theorem oneLine_shownParts : ∀ parts : List Structured, PartsPlainlyNamed parts →
    ∀ text ∈ shownParts .compact parts, OneLine text
  | [], _ => fun _ h => nomatch h
  | part :: parts, h =>
    List.forall_mem_cons.mpr ⟨oneLine_shown part h.1, oneLine_shownParts parts h.2⟩

theorem oneLine_shownLabelled : ∀ parts : List (String × Structured), LabelledPlainlyNamed parts →
    ∀ field ∈ shownLabelled .compact parts, OneLine field.1 ∧ OneLine field.2
  | [], _ => fun _ h => nomatch h
  | (_, part) :: parts, h =>
    List.forall_mem_cons.mpr ⟨⟨h.1, oneLine_shown part h.2.1⟩, oneLine_shownLabelled parts h.2.2⟩

end

end Structured

namespace Kind

/-- All names in a value are those of declarations. -/
def PlainlyNamed : (kind : Kind) → kind.Value → Prop
  | .structured, v => v.PlainlyNamed
  | .option item, v => ∀ x ∈ v, PlainlyNamed item x
  | .sequence _ item, xs | .set _ item, xs => ∀ x ∈ xs, PlainlyNamed item x
  | .map _ key value, entries =>
    ∀ entry ∈ entries, PlainlyNamed key entry.1 ∧ PlainlyNamed value entry.2
  | .tuple _ part, v => ∀ i, PlainlyNamed (part i) (v i)
  | .pointer _ target, p => PlainlyNamed target p.target
  | .unit, _ | .bool, _ | .char, _ | .int, _ | .float _, _ | .text, _ | .json, _ => True

theorem oneLine_shown (kind : Kind) (value : kind.Value) (h : kind.PlainlyNamed value) :
    OneLine (kind.shown .compact value) := by
  induction kind with
  | unit =>
    have hunit : OneLine ['(', ')'] := by decide
    exact hunit
  | bool => exact Layout.oneLine_truth value
  | char => exact Text.oneLine_quoted (by decide) _
  | int => exact Number.oneLine_integerChars value
  | float format => exact Number.FloatStyle.oneLine_chars _ value
  | text => exact Text.oneLine_quotedText value
  | json => exact Json.oneLine_shown value
  | structured => exact Structured.oneLine_shown value h
  | option item ih =>
    refine Layout.oneLine_option fun text htext => ?_
    obtain ⟨x, hx, rfl⟩ := Option.map_eq_some_iff.mp htext
    exact ih x (h x hx)
  | sequence form item ih =>
    exact Layout.oneLine_list (List.forall_mem_map.mpr fun x hx => ih x (h x hx))
  | set arrangement item ih =>
    exact Layout.oneLine_set (List.forall_mem_map.mpr fun x hx => ih x (h x hx))
  | map arrangement key value ihKey ihValue =>
    refine Layout.oneLine_set (List.forall_mem_map.mpr fun entry hentry => ?_)
    obtain ⟨hkey, hvalue⟩ := h entry hentry
    exact Layout.oneLine_entry (ihKey entry.1 hkey) (ihValue entry.2 hvalue)
  | tuple more part ih =>
    refine Layout.oneLine_row fun text htext => ?_
    obtain ⟨i, rfl⟩ := List.mem_ofFn.mp htext
    exact ih i (value i) (h i)
  | pointer form target ih => exact ih value.target h

end Kind

/-! ### Messages -/

open Text (controlChars controlChars_append controlChars_eq_nil_iff)

theorem Renderer.controlChars_render {width : Nat} {kind : Kind} {value : kind.Value}
    (h : kind.PlainlyNamed value) : controlChars (render ⟨⟨width, false⟩⟩ kind value) = [] := by
  rw [controlChars_eq_nil_iff, render, truncate, String.toList_ofList]
  exact Text.oneLine_truncate width (kind.oneLine_shown value h)

theorem Matcher.controlChars_eq (matcher : Matcher) :
    controlChars matcher.name = [] ∧ controlChars matcher.phrase = [] := by
  cases matcher <;> decide

/-- What is expected and what was received brings no control character into a message. -/
theorem AssertionFailure.controlChars_message {failure : AssertionFailure}
    (hexpected : ∀ text ∈ failure.expected, controlChars text = [])
    (hreceived : controlChars failure.received = []) :
    controlChars failure.message = controlChars failure.subject := by
  have hfixed : controlChars "expected " = [] ∧ controlChars ", received " = [] ∧
      controlChars " " = [] ∧
      controlChars (if failure.negated then " not to " else " to ") = [] := by
    cases failure.negated <;> decide
  obtain ⟨hstart, hclause, hblank, hpolarity⟩ := hfixed
  have hoperand : controlChars ((failure.expected.map (" " ++ ·)).getD "") = [] := by
    cases h : failure.expected with
    | none => rfl
    | some expected => simp [controlChars_append, hblank, hexpected expected h]
  have hreceipt : controlChars (if failure.received = failure.subject then ""
      else ", received " ++ failure.received) = [] := by
    split
    · rfl
    · simp [controlChars_append, hclause, hreceived]
  simp only [message_eq, question, controlChars_append, hstart, hpolarity,
    failure.matcher.controlChars_eq, hoperand, hreceipt, List.nil_append, List.append_nil]

variable {kind : Kind} {width : Nat} {site : Site} {expectation : Expectation kind} {check : Check kind}

theorem Check.controlChars_expected
    (h : ∀ operand ∈ check.operand?, operand.1.PlainlyNamed operand.2) :
    ∀ text ∈ check.expected ⟨⟨width, false⟩⟩, controlChars text = [] := by
  intro text htext
  obtain ⟨operand, hoperand, rfl⟩ := Option.map_eq_some_iff.mp htext
  exact Renderer.controlChars_render (h operand hoperand)

theorem Check.controlChars_measured? (check : Check kind) (value : kind.Value) :
    ∀ text ∈ check.measured? value, controlChars text = [] := by
  intro text htext
  cases check with
  | length n =>
    obtain ⟨actual, -, rfl⟩ := Option.map_eq_some_iff.mp htext
    rw [controlChars_eq_nil_iff, String.toList_ofList]
    exact oneLine_toDigits (by decide) (by decide)
  | _ => cases htext

/-- A label is all that can bring control characters into what messages call a value. -/
theorem Expectation.controlChars_subject (h : kind.PlainlyNamed expectation.value) :
    controlChars (expectation.subject ⟨⟨width, false⟩⟩) =
      controlChars (expectation.label.getD "") := by
  rw [subject_eq]
  cases expectation.label with
  | none => exact Renderer.controlChars_render h
  | some label => rfl

/-- A usage error repeats what the value is called, and has no cause unless a pattern is at fault. -/
theorem Obstacle.controlChars_chain {renderer : Renderer} {subject : String} {obstacle : Obstacle}
    (hexpected : ∀ text ∈ check.expected renderer, controlChars text = [])
    (hpattern : ∀ pattern fault, obstacle ≠ invalidPattern pattern fault) :
    ∀ text ∈ (ExpectError.usage (obstacle.usageError renderer check subject)).chain,
      controlChars text = controlChars subject := by
  have hname := check.matcher.controlChars_eq.1
  have hoperand : controlChars ((check.expected renderer).getD "") = [] := by
    cases h : check.expected renderer with
    | none => rfl
    | some expected => exact hexpected expected h
  have hfixed : ∀ text ∈ ["usage error: ", ": ", " cannot be ordered against ",
      " is not supported for ", "value cannot hold an item of this kind", "value has no length",
      "value is not a string"], controlChars text = [] := by
    decide
  simp only [List.forall_mem_cons] at hfixed
  cases obstacle with
  | invalidPattern pattern fault => exact absurd rfl (hpattern pattern fault)
  | _ =>
    simp [ExpectError.chain, usageError, UsageError.causes, UsageError.message, controlChars_append,
      hname, hoperand, hfixed]

/-- Messages in the compact layout. A failed check, and a check that cannot be asked of a value, is
reported on one line, whatever the values, the operands and the width. A label is the exception: its own
control characters come in, and no others. Errors in patterns are left out, for they come with what the
reader of patterns has to say. -/
theorem compact_messages_on_one_line {error : ExpectError}
    (hvalue : kind.PlainlyNamed expectation.value)
    (hoperand : ∀ operand ∈ check.operand?, operand.1.PlainlyNamed operand.2)
    (herror : expectation.check ⟨⟨width, false⟩⟩ site check = .error error)
    (hpattern : ∀ matcher pattern cause, error ≠ .usage (.invalidPattern matcher pattern cause)) :
    ∀ text ∈ error.chain, match expectation.label with
      | none => ∀ c ∈ text.toList, 0x20 ≤ c.toNat
      | some label => controlChars text = controlChars label := by
  have hsubject : controlChars (expectation.subject ⟨⟨width, false⟩⟩) =
      controlChars (expectation.label.getD "") := Expectation.controlChars_subject hvalue
  have hchain : ∀ text ∈ error.chain, controlChars text = controlChars (expectation.label.getD "") := by
    cases ho : check.outcome expectation.value with
    | error obstacle =>
      rw [Expectation.check_of_obstacle ho] at herror
      cases herror
      have hobstacle : ∀ pattern fault, obstacle ≠ .invalidPattern pattern fault := by
        rintro pattern fault rfl
        exact hpattern _ _ _ rfl
      intro text htext
      rw [Obstacle.controlChars_chain (Check.controlChars_expected hoperand) hobstacle text htext]
      exact hsubject
    | ok outcome =>
      have hreceived : controlChars ((check.measured? expectation.value).getD
          (Renderer.render ⟨⟨width, false⟩⟩ kind expectation.value)) = [] := by
        cases hm : check.measured? expectation.value with
        | none => exact Renderer.controlChars_render hvalue
        | some text => exact check.controlChars_measured? _ text hm
      rw [Expectation.check_of_outcome ho, Expectation.evaluate] at herror
      split at herror
      · cases herror
      · cases herror
        refine List.forall_mem_singleton.mpr (Eq.trans ?_ hsubject)
        exact AssertionFailure.controlChars_message (Check.controlChars_expected hoperand) hreceived
  intro text htext
  have h := hchain text htext
  cases hl : expectation.label with
  | none =>
    rw [hl] at h
    exact controlChars_eq_nil_iff.mp h
  | some label =>
    rw [hl] at h
    exact h

/-- A line break in a label comes into the message. One in a text, a key of an object, a character or
an operand does not. -/
theorem compact_messages_on_one_line_labelled :
    let row : Kind := .tuple 1 (Fin.cases .json fun _ => .char)
    let value : row.Value := Fin.cases (Json.object [("\r", .string "\x00")]) fun _ => '\n'
    let expectation : Expectation (.map .sorted .text row) :=
      ⟨[("\x1b", value)], false, some "the\nlabel"⟩
    let check : Check (.map .sorted .text row) := .contain .text "\t"
    let error : ExpectError := .assertion ⟨.contain, "the\nlabel", some "the\nlabel",
      some "\"\\t\"", "\x7b\"\\u\x7b1b\x7d\": (Object \x7b\"\\r\": String(\"\\0\")\x7d, '\\n')\x7d",
      false, ⟨"tests/cart.rs", 12⟩⟩
    expectation.check ⟨⟨80, false⟩⟩ ⟨"tests/cart.rs", 12⟩ check = .error error ∧
      ∀ text ∈ error.chain, controlChars text = ['\n'] := by
  intro row value expectation check error
  have herror : expectation.check ⟨⟨80, false⟩⟩ ⟨"tests/cart.rs", 12⟩ check = .error error := by
    decide
  have hvalue : Kind.PlainlyNamed _ expectation.value :=
    List.forall_mem_singleton.mpr ⟨trivial, Fin.cases trivial fun _ => trivial⟩
  have hoperand : ∀ operand ∈ check.operand?, operand.1.PlainlyNamed operand.2 := by
    rintro operand ⟨⟩
    trivial
  refine ⟨herror, fun text htext => ?_⟩
  exact compact_messages_on_one_line hvalue hoperand herror (by simp [error]) text htext

end Attest
