import Attest.Proofs.DocumentContents
import Attest.Proofs.PointerStacks
import Mathlib.Data.List.Infix

/-!
# Contents of texts

A text contains another one that stands somewhere in it, between a text before and a text after. This is
so of characters and of bytes alike: only the first byte of a character can begin a text, so no occurrence
starts within a character. A document that is a text answers as the text, and pointers to either do too.
-/

namespace Attest

namespace Text

open String (utf8EncodeChar)

/-- The bytes of a character: one that begins it, and others that cannot begin any. -/
theorem utf8EncodeChar_eq_cons (c : Char) :
    ∃ first rest, utf8EncodeChar c = first :: rest ∧ first.IsUTF8FirstByte ∧
      ∀ b ∈ rest, ¬ b.IsUTF8FirstByte := by
  obtain ⟨first, rest, hc⟩ := List.exists_cons_of_ne_nil (String.utf8EncodeChar_ne_nil (c := c))
  have hbegins (i : Nat) (hi : i < (utf8EncodeChar c).length) :
      (utf8EncodeChar c)[i].IsUTF8FirstByte ↔ i = 0 := UInt8.isUTF8FirstByte_getElem_utf8EncodeChar
  simp only [hc] at hbegins
  refine ⟨first, rest, hc, (hbegins 0 (Nat.succ_pos _)).mpr rfl, ?_⟩
  intro b hb hfirst
  obtain ⟨i, hi, rfl⟩ := List.getElem_of_mem hb
  exact Nat.succ_ne_zero i ((hbegins (i + 1) (Nat.succ_lt_succ hi)).mp hfirst)

theorem utf8EncodeChar_append_inj {c d : Char} {x y : List UInt8}
    (h : utf8EncodeChar c ++ x = utf8EncodeChar d ++ y) : c = d ∧ x = y := by
  have hcd : c = d := by
    rcases Nat.lt_trichotomy c.toNat d.toNat with hlt | heq | hgt
    · exact absurd (h ▸ utf8EncodeChar_append_lt hlt x y) (List.lt_irrefl _)
    · exact Char.toNat_inj.mp heq
    · exact absurd (h ▸ utf8EncodeChar_append_lt hgt y x) (List.lt_irrefl _)
  subst hcd
  exact ⟨rfl, List.append_cancel_left h⟩

theorem prefix_of_bytes {s t : List Char}
    (h : t.flatMap utf8EncodeChar <+: s.flatMap utf8EncodeChar) : t <+: s := by
  induction t generalizing s with
  | nil => exact List.nil_prefix
  | cons d t ih =>
    obtain ⟨after, h⟩ := h
    cases s with
    | nil =>
      obtain ⟨first, rest, hd, -⟩ := utf8EncodeChar_eq_cons d
      simp [hd] at h
    | cons c s =>
      rw [List.flatMap_cons, List.flatMap_cons, List.append_assoc] at h
      obtain ⟨hdc, hrest⟩ := utf8EncodeChar_append_inj h
      exact List.cons_prefix_cons.mpr ⟨hdc, ih ⟨after, hrest⟩⟩

/-- What begins with the first byte of a character does not start among bytes that begin none. -/
theorem infix_of_infix_append {first : UInt8} {x front back : List UInt8}
    (hfirst : first.IsUTF8FirstByte) (hfront : ∀ b ∈ front, ¬ b.IsUTF8FirstByte)
    (h : first :: x <:+: front ++ back) : first :: x <:+: back := by
  induction front with
  | nil => exact h
  | cons b front ih =>
    rcases List.infix_cons_iff.mp h with hstarts | hoccurs
    · obtain ⟨rfl, -⟩ := List.cons_prefix_cons.mp hstarts
      exact absurd hfirst (hfront first List.mem_cons_self)
    · exact ih (fun b' hb' => hfront b' (List.mem_cons_of_mem b hb')) hoccurs

theorem infix_of_bytes {s t : List Char}
    (h : t.flatMap utf8EncodeChar <:+: s.flatMap utf8EncodeChar) : t <:+: s := by
  cases t with
  | nil => exact List.nil_infix
  | cons d t =>
    obtain ⟨first, rest, hd, hfirst, -⟩ := utf8EncodeChar_eq_cons d
    induction s with
    | nil => simp [hd] at h
    | cons c s ih =>
      obtain ⟨begins, others, hc, -, hothers⟩ := utf8EncodeChar_eq_cons c
      -- the bytes start with those of the first character, or else after all of them
      have hbytes : (c :: s).flatMap utf8EncodeChar =
          begins :: (others ++ s.flatMap utf8EncodeChar) := by
        rw [List.flatMap_cons, hc, List.cons_append]
      rcases List.infix_cons_iff.mp (hbytes ▸ h) with hstarts | hoccurs
      · rw [← hbytes] at hstarts
        exact (prefix_of_bytes hstarts).isInfix
      · rw [List.flatMap_cons, hd, List.cons_append] at hoccurs ih
        exact List.infix_cons (ih (infix_of_infix_append hfirst hothers hoccurs))

theorem infix_iff_bytes (s t : String) : t.toList <:+: s.toList ↔ bytes t <:+: bytes s := by
  rw [bytes_eq, bytes_eq]
  refine ⟨?_, infix_of_bytes⟩
  rintro ⟨before, after, h⟩
  rw [← h, List.flatMap_append, List.flatMap_append]
  exact ⟨_, _, rfl⟩

/-- A text occurs in another one when it stands between two texts. -/
theorem infix_iff_exists (s t : String) : t.toList <:+: s.toList ↔ ∃ p q, s = p ++ t ++ q := by
  constructor
  · rintro ⟨p, q, h⟩
    refine ⟨.ofList p, .ofList q, String.toList_inj.mp ?_⟩
    rw [String.toList_append, String.toList_append, String.toList_ofList, String.toList_ofList, h]
  · rintro ⟨p, q, rfl⟩
    rw [String.toList_append, String.toList_append]
    exact ⟨_, _, rfl⟩

theorem contains_singleton (s : String) (c : Char) :
    contains s (String.singleton c) = s.toList.contains c := by
  rw [Bool.eq_iff_iff, contains, occursIn_iff_isInfix, String.toList_singleton,
    List.singleton_infix_iff, List.contains_iff_mem]

end Text

namespace Kind

/-- A subject that is a text is asked for an item that stands for a text. Documents can be asked for
documents too, typed texts for texts alone. -/
inductive Searches (subject item : Any) (s t : String) : Prop where
  | text (hs : bare subject.1 subject.2 = ⟨.text, s⟩) (ht : bare item.1 item.2 = ⟨.text, t⟩) :
    Searches subject item s t
  | document (hs : bare subject.1 subject.2 = ⟨.json, .string s⟩) (ht : Asks item (.string t)) :
    Searches subject item s t

variable {subject item : Any} {s t : String}

theorem contains?_of_bare {core : Any} (h : bare subject.1 subject.2 = core) (item : Any) :
    subject.1.contains? subject.2 item.1 item.2 = core.1.contains? core.2 item.1 item.2 := by
  rw [← h]
  exact passedOn_bare (fun kind value => kind.contains? value item.1 item.2) (fun _ _ _ => rfl)
    subject.2

theorem length?_of_bare {core : Any} (h : bare subject.1 subject.2 = core) :
    subject.1.length? subject.2 = core.1.length? core.2 := by
  rw [← h]
  exact passedOn_bare length? (fun _ _ _ => rfl) subject.2

theorem Searches.contains?_eq (h : Searches subject item s t) :
    subject.1.contains? subject.2 item.1 item.2 = some (Text.contains s t) := by
  cases h with
  | text hs ht => rw [contains?_of_bare hs, contains?, ht]
  | document hs ht =>
    rw [contains?_of_bare hs, ht.contains?_eq]
    rfl

theorem Searches.length?_eq (h : Searches subject item s t) :
    subject.1.length? subject.2 = some s.toList.length ∧
      item.1.length? item.2 = some t.toList.length := by
  cases h with
  | text hs ht => exact ⟨length?_of_bare hs, length?_of_bare ht⟩
  | document hs ht =>
    refine ⟨length?_of_bare hs, ?_⟩
    cases ht with
    | document ht => exact length?_of_bare ht
    | text ht => exact length?_of_bare ht

/-- A character is looked for as the text of it alone. -/
theorem contains?_char {c : Char} (hs : bare subject.1 subject.2 = ⟨.text, s⟩)
    (hc : bare item.1 item.2 = ⟨.char, c⟩) :
    subject.1.contains? subject.2 item.1 item.2 =
      subject.1.contains? subject.2 .text (String.singleton c) := by
  have hsearch : Searches subject ⟨.text, String.singleton c⟩ s (String.singleton c) := .text hs rfl
  rw [hsearch.contains?_eq, contains?_of_bare hs, contains?, hc, Text.contains_singleton]

end Kind

namespace Expectation

variable {renderer : Renderer} {site : Site} {subject item : Kind.Any} {s t : String}

theorem passes_contain_iff (h : Kind.Searches subject item s t) (label : Option String) :
    (ofValue subject.2 label).Passes renderer site (.contain item.1 item.2) ↔
      t.toList <:+: s.toList := by
  rw [passes_ofValue_iff (outcome_contain h.contains?_eq), Text.contains,
    Text.occursIn_iff_isInfix]

theorem passes_not_contain_iff (h : Kind.Searches subject item s t) (label : Option String) :
    (ofValue subject.2 label).not.Passes renderer site (.contain item.1 item.2) ↔
      ¬ t.toList <:+: s.toList := by
  have houtcome : (Check.contain item.1 item.2).outcome (ofValue subject.2 label).not.value =
    .ok (Text.contains s t) := outcome_contain h.contains?_eq
  rw [passes_iff houtcome, ← Text.occursIn_iff_isInfix]
  exact Iff.rfl

theorem sameVerdict_contain_char {kind : Kind} {c : Char} (expectation : Expectation kind)
    (hs : Kind.bare kind expectation.value = ⟨.text, s⟩) (hc : Kind.bare item.1 item.2 = ⟨.char, c⟩) :
    expectation.SameVerdict renderer site site (.contain item.1 item.2) expectation
      (.contain .text (String.singleton c)) := by
  have hsearch : Kind.Searches ⟨kind, expectation.value⟩ ⟨.text, String.singleton c⟩ s
    (String.singleton c) := .text hs rfl
  have htext := hsearch.contains?_eq
  have hchar := (Kind.contains?_char hs hc).trans htext
  exact sameVerdict_of_outcome (outcome_contain hchar) (outcome_contain htext) Iff.rfl

end Expectation

/-- Whether a subject passes for containing an item. -/
def Kind.Any.PassesFor (renderer : Renderer) (site : Site) (label : Option String)
    (subject item : Kind.Any) : Prop :=
  (Expectation.ofValue subject.2 label).Passes renderer site (.contain item.1 item.2)

/-- What it is for texts to contain one another. -/
structure Text.ContainmentLaws (renderer : Renderer) (site : Site) (label : Option String) : Prop where
  occurs_iff : ∀ (subject item : Kind.Any) (s t : String), Kind.Searches subject item s t →
    (subject.PassesFor renderer site label item ↔ ∃ p q, s = p ++ t ++ q)
  bytes_iff : ∀ (subject item : Kind.Any) (s t : String), Kind.Searches subject item s t →
    (subject.PassesFor renderer site label item ↔ bytes t <:+: bytes s)
  not_occurs_iff : ∀ (subject item : Kind.Any) (s t : String), Kind.Searches subject item s t →
    ((Expectation.ofValue subject.2 label).not.Passes renderer site (.contain item.1 item.2) ↔
      ¬ ∃ p q, s = p ++ t ++ q)
  /-- A character counts as the text of it alone, under either polarity. -/
  character : ∀ (subject item : Kind.Any) (s : String) (c : Char),
    Kind.bare subject.1 subject.2 = ⟨.text, s⟩ → Kind.bare item.1 item.2 = ⟨.char, c⟩ →
    let expectation := Expectation.ofValue subject.2 label
    expectation.SameVerdict renderer site site (.contain item.1 item.2) expectation
        (.contain .text (String.singleton c)) ∧
      expectation.not.SameVerdict renderer site site (.contain item.1 item.2) expectation.not
        (.contain .text (String.singleton c))
  empty : ∀ (subject item : Kind.Any) (s : String), Kind.Searches subject item s "" →
    subject.PassesFor renderer site label item
  refl : ∀ (subject item : Kind.Any) (s : String), Kind.Searches subject item s s →
    subject.PassesFor renderer site label item
  trans : ∀ (a b i j k : Kind.Any) (r s t : String), Kind.Searches a i r s → Kind.Searches b j s t →
    Kind.Searches a k r t → a.PassesFor renderer site label i → b.PassesFor renderer site label j →
      a.PassesFor renderer site label k
  /-- Nothing is lost by text that is added around a text. -/
  around : ∀ (a b i j : Kind.Any) (s t p q : String), Kind.Searches a i s t →
    Kind.Searches b j (p ++ s ++ q) t → a.PassesFor renderer site label i →
      b.PassesFor renderer site label j
  length_le : ∀ (subject item : Kind.Any) (s t : String), Kind.Searches subject item s t →
    subject.PassesFor renderer site label item → ∃ m n, item.1.length? item.2 = some m ∧
      subject.1.length? subject.2 = some n ∧ m ≤ n ∧ (m = n → s = t)

/-- Containment of texts is occurrence. A text passes for containing another one exactly when that stands
between two texts, which is so of their bytes too, and under the other polarity exactly when it does not;
a character counts as the text of it alone. Hence every text contains the empty one and itself, what it
contains brings along what that contains, nothing is lost by text added around it, and it is longer than
what it contains unless the two are one text. -/
theorem text_containment (renderer : Renderer) (site : Site) (label : Option String) :
    Text.ContainmentLaws renderer site label := by
  have hpasses {subject item s t} (h : Kind.Searches subject item s t) :
      subject.PassesFor renderer site label item ↔ t.toList <:+: s.toList :=
    Expectation.passes_contain_iff h label
  constructor
  case occurs_iff =>
    intro subject item s t h
    exact (hpasses h).trans (Text.infix_iff_exists s t)
  case bytes_iff =>
    intro subject item s t h
    exact (hpasses h).trans (Text.infix_iff_bytes s t)
  case not_occurs_iff =>
    intro subject item s t h
    rw [Expectation.passes_not_contain_iff h label, Text.infix_iff_exists]
  case character =>
    intro subject item s c hs hc
    exact ⟨Expectation.sameVerdict_contain_char _ hs hc,
      Expectation.sameVerdict_contain_char _ hs hc⟩
  case empty =>
    intro subject item s h
    exact (hpasses h).mpr List.nil_infix
  case refl =>
    intro subject item s h
    exact (hpasses h).mpr List.infix_rfl
  case trans =>
    intro a b i j k r s t hi hj hk
    rw [hpasses hi, hpasses hj, hpasses hk]
    exact fun hrs hst => hst.trans hrs
  case around =>
    intro a b i j s t p q hi hj
    rw [hpasses hi, hpasses hj, String.toList_append, String.toList_append]
    exact fun hst => hst.trans (List.infix_append _ _ _)
  case length_le =>
    intro subject item s t h hpass
    obtain ⟨hn, hm⟩ := h.length?_eq
    have hoccurs := (hpasses h).mp hpass
    refine ⟨_, _, hm, hn, hoccurs.length_le, fun heq => ?_⟩
    exact (String.toList_inj.mp (hoccurs.eq_of_length heq)).symm

/-- A shared text of wide characters contains a borrowed one that does not start where its first character
first stands, and the document of it does too. -/
theorem text_containment_overlap :
    let subject : Kind.Any := ⟨.pointer .shared .text, ⟨.object 0, "ééèé"⟩⟩
    let document : Kind.Any := ⟨.json, .string "ééèé"⟩
    let item : Kind.Any := ⟨.pointer .borrowed .text, ⟨.object 1, "éèé"⟩⟩
    let site : Site := ⟨"tests/cart.rs", 3⟩
    Kind.Searches subject item "ééèé" "éèé" ∧ Kind.Searches document item "ééèé" "éèé" ∧
    (Expectation.ofValue subject.2 none).Passes .initial site (.contain item.1 item.2) ∧
    (Expectation.ofValue document.2 none).Passes .initial site (.contain item.1 item.2) := by
  intro subject document item site
  have hsubject : Kind.Searches subject item "ééèé" "éèé" := .text rfl rfl
  have hdocument : Kind.Searches document item "ééèé" "éèé" := .document rfl (.text rfl)
  have hparts : ∃ p q, "ééèé" = p ++ "éèé" ++ q := ⟨"é", "", by decide⟩
  have hlaws := text_containment .initial site none
  exact ⟨hsubject, hdocument, (hlaws.occurs_iff subject item _ _ hsubject).mpr hparts,
    (hlaws.occurs_iff document item _ _ hdocument).mpr hparts⟩

end Attest
