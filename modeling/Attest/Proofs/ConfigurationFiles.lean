import Attest.Config.Discovery
import Attest.Proofs.BlockMappings
import Attest.Proofs.Decimals
import Attest.Proofs.Locations
import Attest.Proofs.QuotedTexts

/-!
# Configuration files

A file that sets the width and the layout, each on a line of its own, is read back as what it sets.
Every number of 64 bits is a width; any other number is an error, and so is a file that sets none.
-/

namespace Attest

/-- A file that holds a text is read as that text. -/
theorem FileSystem.readText?_path {fs : FileSystem} {location : Location} {text : String}
    (h : fs.Holds location (.file text.toUTF8)) : fs.readText? location.path = some text := by
  rw [readText?, resolve?_path h]
  exact dif_pos text.isValidUTF8

/-- An error that names a path names no other one. -/
theorem ConfigError.unparsable_message_inj {path other : Path}
    (h : (unparsable other).message = (unparsable path).message) : other = path := by
  have hquoted : Text.quotedText other.text = Text.quotedText path.text :=
    String.ofList_injective (String.append_right_inj _ |>.mp h)
  have htexts := Text.quoted_append_inj (.inl rfl) (congrArg (· ++ []) hquoted)
  cases path
  cases other
  exact congrArg Path.mk (String.toList_inj.mp htexts.1)

namespace Config

/-- What a line of a file sets. -/
inductive Setting where
  | width (n : Int)
  | layout (isPretty : Bool)

theorem readWidth?_eq {text : List Char} (hsign : text.head? ≠ some '+')
    (hzero : ∀ c digits, text ≠ '0' :: c :: digits) : readWidth? text = readWord? 10 text := by
  have hpadded : isPadded text = false := by
    unfold isPadded
    split
    · exact absurd rfl (hzero _ _)
    · rfl
  rw [readWidth?, hpadded]
  · rfl
  · rintro rest rfl
    exact hsign rfl
  · exact fun digits => hzero 'x' digits
  · exact fun digits => hzero 'o' digits
  · exact fun digits => hzero 'b' digits

theorem readWord?_toDigits (n : Nat) :
    readWord? 10 (Nat.toDigits 10 n) = if n < 18446744073709551616 then some n else none := by
  have hlast : n ≤ greatestWidth ↔ n < 18446744073709551616 := by
    rw [greatestWidth]
    omega
  rw [readWord?, Number.readNatural?_toDigits]
  simp [Option.filter, hlast]

theorem readWidth?_integerChars (n : Int) :
    readWidth? (Number.integerChars n) =
      if 0 ≤ n ∧ n < 18446744073709551616 then some n.toNat else none := by
  by_cases hn : n < 0
  · have hchars : Number.integerChars n = '-' :: Nat.toDigits 10 n.natAbs := if_pos hn
    rw [readWidth?_eq (by simp [hchars]) (by simp [hchars]), hchars, if_neg (by omega)]
    rfl
  · have hchars : Number.integerChars n = Nat.toDigits 10 n.toNat := by
      rw [Number.integerChars, if_neg hn]
      congr 1
      omega
    have hsign : (Nat.toDigits 10 n.toNat).head? ≠ some '+' := by
      intro hhead
      have hmem : '+' ∈ Nat.toDigits 10 n.toNat := List.mem_of_mem_head? hhead
      exact absurd (Number.isDigit_of_mem_toDigits hmem) (by decide)
    have hrange : n.toNat < 18446744073709551616 ↔ 0 ≤ n ∧ n < 18446744073709551616 := by omega
    rw [hchars, readWidth?_eq hsign (Number.toDigits_ne_zero_cons _), readWord?_toDigits]
    simp only [hrange]

section Load

variable {fs : FileSystem} {path : Path} {text : String} (htext : fs.readText? path = some text)
include htext

theorem load_of_ofText? {config : Config} (h : ofText? text = some config) :
    load fs path = .ok ⟨config, path.parent⟩ := by
  simp only [load, read, htext, h]

theorem load_of_ofText?_eq_none (h : ofText? text = none) :
    load fs path = .error (.unparsable path) := by
  simp only [load, read, htext, h]

end Load

/-! ### Entries of settings -/

namespace Draft

open Yaml (Document Scalar)

variable (document : Document) (draft : Draft)

theorem addEntry?_scalars (key value : Scalar) :
    draft.addEntry? document (.scalar key, .scalar value) =
      if key.text = "truncate_at".toList then
        if draft.truncateAt.isSome then none
        else if isTyped integerTag value then
          (readWidth? value.text).map fun width => { draft with truncateAt := some width }
        else none
      else if key.text = "pretty".toList then
        if draft.pretty.isSome then none
        else if isTyped truthTag value then
          (readTruth? value.text).map fun pretty => { draft with pretty := some pretty }
        else none
      else some draft := by
  simp only [Option.map_eq_bind]
  rfl

theorem addEntry?_width (text : List Char) :
    draft.addEntry? document
        (.scalar ⟨.plain, none, "truncate_at".toList⟩, .scalar ⟨.plain, none, text⟩) =
      if draft.truncateAt.isSome then none
      else (readWidth? text).map fun width => { draft with truncateAt := some width } :=
  (addEntry?_scalars document draft _ _).trans (if_pos rfl)

theorem addEntry?_layout (text : List Char) :
    draft.addEntry? document
        (.scalar ⟨.plain, none, "pretty".toList⟩, .scalar ⟨.plain, none, text⟩) =
      if draft.pretty.isSome then none
      else (readTruth? text).map fun pretty => { draft with pretty := some pretty } := by
  have hne : "pretty".toList ≠ "truncate_at".toList := by decide
  exact (addEntry?_scalars document draft _ _).trans ((if_neg hne).trans (if_pos rfl))

end Draft

namespace Setting

theorem isNameChar_of_mem_integerChars {n : Int} {c : Char} (h : c ∈ Number.integerChars n) :
    Yaml.isNameChar c = true := by
  have hdigits {m : Nat} (h : c ∈ Nat.toDigits 10 m) : Yaml.isNameChar c = true := by
    have hdigit : c.isDigit = true := Nat.isDigit_of_mem_toDigits (by decide) (by decide) h
    simp [Yaml.isNameChar, Char.isAlphanum, hdigit]
  unfold Number.integerChars at h
  split at h
  · rcases List.mem_cons.mp h with rfl | h
    · rfl
    · exact hdigits h
  · exact hdigits h

/-- A number as a word: it has a digit at least. -/
def widthWord (n : Int) : Yaml.Word where
  chars := Number.integerChars n
  isNameChar_of_mem _ := isNameChar_of_mem_integerChars
  ne_nil := by
    unfold Number.integerChars
    split
    · exact List.cons_ne_nil _ _
    · exact Nat.toDigits_ne_nil
  ne_dash := by
    unfold Number.integerChars
    split
    · intro h
      exact Nat.toDigits_ne_nil (List.cons.inj h).2
    · intro h
      have hdash : '-' ∈ Nat.toDigits 10 n.natAbs := h ▸ List.mem_cons_self
      exact absurd (Number.isDigit_of_mem_toDigits hdash) (by decide)

def layoutWord (isPretty : Bool) : Yaml.Word where
  chars := Layout.truth isPretty
  isNameChar_of_mem := by cases isPretty <;> exact List.all_eq_true.mp rfl
  ne_nil := by cases isPretty <;> decide
  ne_dash := by cases isPretty <;> decide

/-- The entry of a setting. -/
def entry : Setting → Yaml.Entry
  | width n =>
    ⟨⟨"truncate_at".toList, List.all_eq_true.mp rfl, by decide, by decide⟩, widthWord n,
      by decide, by decide⟩
  | layout isPretty =>
    ⟨⟨"pretty".toList, List.all_eq_true.mp rfl, by decide, by decide⟩, layoutWord isPretty,
      by decide, by decide⟩

/-- Takes a setting into account. -/
def addTo? (draft : Draft) : Setting → Option Draft
  | width n =>
    if draft.truncateAt = none ∧ 0 ≤ n ∧ n < 18446744073709551616 then
      some { draft with truncateAt := some n.toNat }
    else none
  | layout isPretty =>
    if draft.pretty = none then some { draft with pretty := some isPretty } else none

theorem addEntry?_nodes (document : Yaml.Document) (draft : Draft) (setting : Setting) :
    draft.addEntry? document setting.entry.nodes = setting.addTo? draft := by
  cases setting with
  | width n =>
    refine (draft.addEntry?_width document (Number.integerChars n)).trans ?_
    rw [readWidth?_integerChars, addTo?]
    cases draft.truncateAt with
    | none => by_cases hrange : 0 ≤ n ∧ n < 18446744073709551616 <;> simp [hrange]
    | some width => simp
  | layout isPretty =>
    have hread : readTruth? (Layout.truth isPretty) = some isPretty := by
      cases isPretty <;> decide
    refine (draft.addEntry?_layout document (Layout.truth isPretty)).trans ?_
    rw [hread, addTo?]
    cases draft.pretty <;> rfl

end Setting

open Setting (addTo?)

/-- The text of a file with settings is a configuration if the settings give one. -/
theorem ofText?_settings {lines : List Yaml.Line} {settings : List Setting}
    (h : Yaml.entriesOf lines = settings.map Setting.entry) :
    ofText? (.ofList (Yaml.textOf lines)) = (settings.foldlM addTo? .empty).bind Draft.config? := by
  have hfold (document : Yaml.Document) :
      ((settings.map Setting.entry).map Yaml.Entry.nodes).foldlM (Draft.addEntry? document) .empty =
        settings.foldlM addTo? .empty := by
    simp only [List.foldlM_map, Setting.addEntry?_nodes]
  rw [ofText?, String.toList_ofList, Yaml.Document.ofStream?_textOf, h]
  cases settings with
  | nil => rfl
  | cons setting settings =>
    have hne : (setting :: settings).map Setting.entry ≠ [] := List.cons_ne_nil _ _
    rw [if_neg hne, ← hfold]
    rfl

theorem addTo?_width {draft : Draft} (h : draft.truncateAt = none) {n : Nat}
    (hn : n < 18446744073709551616) :
    addTo? draft (.width n) = some { draft with truncateAt := some n } := by
  have hrange : draft.truncateAt = none ∧ 0 ≤ (n : Int) ∧ (n : Int) < 18446744073709551616 :=
    ⟨h, by omega, by omega⟩
  rw [addTo?, if_pos hrange, Int.toNat_natCast]

/-- A setting gives a draft no width but its own, and that in range only. -/
theorem width_of_addTo? {setting : Setting} {draft next : Draft} {n : Nat}
    (h : addTo? draft setting = some next) (hn : next.truncateAt = some n) :
    draft.truncateAt = some n ∨ n < 18446744073709551616 ∧ setting = .width n := by
  cases setting with
  | width m =>
    rw [addTo?] at h
    split at h
    · rename_i hrange
      cases h
      cases hn
      obtain ⟨-, hnonneg, hlt⟩ := hrange
      exact Or.inr ⟨by omega, congrArg Setting.width (Int.toNat_of_nonneg hnonneg).symm⟩
    · cases h
  | layout isPretty =>
    rw [addTo?] at h
    split at h
    · cases h
      exact Or.inl hn
    · cases h

/-- The width that settings give is that of one of them. -/
theorem mem_of_foldlM_addTo? {settings : List Setting} {draft last : Draft} {n : Nat}
    (h : settings.foldlM addTo? draft = some last) (hn : last.truncateAt = some n) :
    draft.truncateAt = some n ∨ n < 18446744073709551616 ∧ .width n ∈ settings := by
  induction settings generalizing draft with
  | nil =>
    cases h
    exact Or.inl hn
  | cons setting settings ih =>
    rw [List.foldlM_cons, Option.bind_eq_bind, Option.bind_eq_some_iff] at h
    obtain ⟨next, hnext, hrest⟩ := h
    rcases ih hrest with hwidth | ⟨hrange, hmem⟩
    · rcases width_of_addTo? hnext hwidth with hdraft | ⟨hrange, rfl⟩
      · exact Or.inl hdraft
      · exact Or.inr ⟨hrange, List.mem_cons_self⟩
    · exact Or.inr ⟨hrange, List.mem_cons_of_mem _ hmem⟩

/-- Settings without a width in range give no configuration: there is no width by default. -/
theorem config?_eq_none {settings : List Setting}
    (hno : ∀ n : Nat, n < 18446744073709551616 → .width n ∉ settings) :
    (settings.foldlM addTo? .empty).bind Draft.config? = none := by
  cases hlast : settings.foldlM addTo? .empty with
  | none => rfl
  | some last =>
    cases hwidth : last.truncateAt with
    | none => simp [Draft.config?, hwidth]
    | some n =>
      rcases mem_of_foldlM_addTo? hlast hwidth with hempty | ⟨hrange, hmem⟩
      · cases hempty
      · exact absurd hmem (hno n hrange)

/-- Files of settings. Among its settings a file may have comments and empty lines. If it sets a width
of 64 bits, and the layout before or after that or not at all, then that is the configuration. A file
without a width of 64 bits is an error whose message names the path, and no other path: no number that is
too large or negative is taken for another one, and there is no width by default. -/
theorem load_settings {fs : FileSystem} {path : Path} {lines : List Yaml.Line}
    {settings : List Setting} (htext : fs.readText? path = some (.ofList (Yaml.textOf lines)))
    (hsettings : Yaml.entriesOf lines = settings.map Setting.entry) :
    (∀ (n : Nat) (isPretty : Bool), n < 18446744073709551616 →
      settings = [.width n, .layout isPretty] ∨ settings = [.layout isPretty, .width n] →
      load fs path = .ok ⟨⟨n, isPretty⟩, path.parent⟩) ∧
    (∀ n : Nat, n < 18446744073709551616 → settings = [.width n] →
      load fs path = .ok ⟨⟨n, false⟩, path.parent⟩) ∧
    ((∀ n : Nat, n < 18446744073709551616 → .width n ∉ settings) →
      load fs path = .error (.unparsable path) ∧
      (ConfigError.unparsable path).message =
        "Failed to parse config file: " ++ Text.quote path.text ∧
      ∀ other : Path, (ConfigError.unparsable other).message = (ConfigError.unparsable path).message →
        other = path) := by
  have hsome {config : Config} (h : (settings.foldlM addTo? .empty).bind Draft.config? = some config) :
      load fs path = .ok ⟨config, path.parent⟩ :=
    load_of_ofText? htext ((ofText?_settings hsettings).trans h)
  refine ⟨?_, ?_, ?_⟩
  · rintro n isPretty hn (rfl | rfl)
    · apply hsome
      rw [List.foldlM_cons, addTo?_width rfl hn]
      rfl
    · have hlayout : addTo? .empty (.layout isPretty) = some ⟨none, some isPretty⟩ := rfl
      apply hsome
      rw [List.foldlM_cons, hlayout, Option.bind_eq_bind, Option.bind_some, List.foldlM_cons,
        addTo?_width rfl hn]
      rfl
  · rintro n hn rfl
    apply hsome
    rw [List.foldlM_cons, addTo?_width rfl hn]
    rfl
  · intro hno
    have hnone := config?_eq_none hno
    exact ⟨load_of_ofText?_eq_none htext ((ofText?_settings hsettings).trans hnone), rfl,
      fun _ => ConfigError.unparsable_message_inj⟩

/-- The greatest width is read as it is, with comments around it, and the next number is an error. -/
theorem load_settings_greatest_width :
    let fs (text : String) : FileSystem :=
      (FileSystem.bare ["work"]).insert ["tryke.yaml", "work"] (.file text.toUTF8)
    let path : Path := FileSystem.Location.path ["tryke.yaml", "work"]
    load (fs "# wide\n\npretty: true\n  # at most\ntruncate_at: 18446744073709551615\n") path =
      .ok ⟨⟨18446744073709551615, true⟩, path.parent⟩ ∧
    load (fs "truncate_at: 18446744073709551616") path = .error (.unparsable path) := by
  intro fs path
  have hread (text : String) : (fs text).readText? path = some text :=
    FileSystem.readText?_path ⟨by decide, rfl, by decide, rfl, trivial⟩
  constructor
  · let lines : List Yaml.Line := [.comment 0 " wide".toList (List.all_eq_true.mp rfl), .blank 0,
      .entry (Setting.layout true).entry, .comment 2 " at most".toList (List.all_eq_true.mp rfl),
      .entry (Setting.width 18446744073709551615).entry, .blank 0]
    have htext : "# wide\n\npretty: true\n  # at most\ntruncate_at: 18446744073709551615\n" =
        String.ofList (Yaml.textOf lines) := by decide
    have hsettings : Yaml.entriesOf lines =
        [.layout true, .width 18446744073709551615].map Setting.entry := rfl
    rw [htext]
    exact (load_settings (hread _) hsettings).1 18446744073709551615 true (by decide) (Or.inr rfl)
  · let lines : List Yaml.Line := [.entry (Setting.width 18446744073709551616).entry]
    have htext : "truncate_at: 18446744073709551616" = String.ofList (Yaml.textOf lines) := by decide
    have hsettings : Yaml.entriesOf lines = [.width 18446744073709551616].map Setting.entry := rfl
    have hno (n : Nat) (hn : n < 18446744073709551616) :
        Setting.width n ∉ [Setting.width 18446744073709551616] := by
      intro hmem
      have hwidth : (n : Int) = 18446744073709551616 :=
        Setting.width.inj (List.mem_singleton.mp hmem)
      omega
    rw [htext]
    exact ((load_settings (hread _) hsettings).2.2 hno).1

end Config

end Attest
