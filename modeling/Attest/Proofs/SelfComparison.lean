import Attest.Proofs.ConsistentOrder

/-!
# Values compared with themselves

A value equals itself unless something in it is no number. Documents hold only finite numbers, so a
document always equals itself. Where values are ordered, the ordering checks of a value against
itself tell that nothing lies between, and they have no result for exactly the values that do not
equal themselves.
-/

namespace Attest

namespace Json

mutual

/-- Whether some number of a document is none. -/
def holdsNaN : Json → Bool
  | number (.real x _) => x.isNaN
  | array items => itemsHoldNaN items
  | object fields => fieldsHoldNaN fields
  | _ => false

def itemsHoldNaN : List Json → Bool
  | [] => false
  | item :: items => holdsNaN item || itemsHoldNaN items

def fieldsHoldNaN : List (String × Json) → Bool
  | [] => false
  | (_, value) :: fields => holdsNaN value || fieldsHoldNaN fields

end

end Json

namespace Structured

mutual

/-- Whether some part of a value of a declared type is a floating-point value that is no number. -/
def holdsNaN : Structured → Bool
  | real x => x.isNaN
  | present part => holdsNaN part
  | items parts | positional _ _ parts => partsHoldNaN parts
  | labelled _ _ parts => labelledHoldNaN parts
  | integer _ | text _ | absent => false

def partsHoldNaN : List Structured → Bool
  | [] => false
  | part :: parts => holdsNaN part || partsHoldNaN parts

def labelledHoldNaN : List (String × Structured) → Bool
  | [] => false
  | (_, part) :: parts => holdsNaN part || labelledHoldNaN parts

end

end Structured

/-- Whether a floating-point value that is no number occurs anywhere in a value. -/
def Kind.holdsNaN : (kind : Kind) → kind.Value → Bool
  | .float _, x => x.isNaN
  | .json, document => document.holdsNaN
  | .structured, v => v.holdsNaN
  | .option item, v => v.any (holdsNaN item)
  | .sequence _ item, xs | .set _ item, xs => xs.any (holdsNaN item)
  | .map _ key value, entries => entries.any fun entry =>
    holdsNaN key entry.1 || holdsNaN value entry.2
  | .tuple more part, v => (List.finRange (more + 1)).any fun i => holdsNaN (part i) (v i)
  | .pointer _ target, p => holdsNaN target p.target
  | .unit, _ | .bool, _ | .char, _ | .int, _ | .text, _ => false

/-- An equality relates the values that a test finds to nothing, and all others to themselves. -/
structure ReflexiveExcept {α : Type} (equal : α → α → Bool) (found : α → Bool) : Prop where
  of_equal : ∀ x y, equal x y = true → found x = false
  self : ∀ x, found x = false → equal x x = true

namespace ReflexiveExcept

variable {α β : Type} {equal : α → α → Bool} {found : α → Bool}

theorem self_iff (h : ReflexiveExcept equal found) (x : α) : equal x x = true ↔ found x = false :=
  ⟨h.of_equal x x, h.self x⟩

theorem of_lawful [BEq α] [LawfulBEq α] : ReflexiveExcept (fun x y : α => x == y) fun _ => false :=
  ⟨fun _ _ _ => rfl, fun _ _ => beq_self_eq_true _⟩

theorem comap (h : ReflexiveExcept equal found) (f : β → α) :
    ReflexiveExcept (fun x y => equal (f x) (f y)) (fun x => found (f x)) :=
  ⟨fun x y => h.of_equal (f x) (f y), fun x => h.self (f x)⟩

theorem each (h : ReflexiveExcept equal found) :
    ReflexiveExcept (equalEach equal) (fun xs => xs.any found) where
  of_equal xs ys hxy := by
    induction xs generalizing ys with
    | nil => rfl
    | cons x xs ih =>
      cases ys with
      | nil => cases hxy
      | cons y ys =>
        rw [equalEach, Bool.and_eq_true] at hxy
        rw [List.any_cons, h.of_equal x y hxy.1, ih ys hxy.2]
        rfl
  self xs hfound := by
    induction xs with
    | nil => rfl
    | cons x xs ih =>
      rw [List.any_cons, Bool.or_eq_false_iff] at hfound
      rw [equalEach, h.self x hfound.1, ih hfound.2]
      rfl

theorem unordered (h : ReflexiveExcept equal found) :
    ReflexiveExcept (equalUnordered equal) (fun xs => xs.any found) where
  of_equal xs ys hxy := by
    rw [equalUnordered, Bool.and_eq_true, List.all_eq_true] at hxy
    rw [List.any_eq_false]
    intro x hx
    obtain ⟨y, -, hequal⟩ := List.any_eq_true.mp (hxy.2 x hx)
    rw [h.of_equal x y hequal]
    exact Bool.false_ne_true
  self xs hfound := by
    rw [List.any_eq_false] at hfound
    rw [equalUnordered, Bool.and_eq_true, List.all_eq_true]
    refine ⟨beq_self_eq_true _, fun x hx => List.any_eq_true.mpr ⟨x, hx, h.self x ?_⟩⟩
    simpa using hfound x hx

theorem both {equal' : β → β → Bool} {found' : β → Bool} (h : ReflexiveExcept equal found)
    (h' : ReflexiveExcept equal' found') :
    ReflexiveExcept (fun v w : α × β => equal v.1 w.1 && equal' v.2 w.2)
      (fun v => found v.1 || found' v.2) where
  of_equal v w hvw := by
    rw [Bool.and_eq_true] at hvw
    rw [h.of_equal v.1 w.1 hvw.1, h'.of_equal v.2 w.2 hvw.2]
    rfl
  self v hfound := by
    rw [Bool.or_eq_false_iff] at hfound
    rw [h.self v.1 hfound.1, h'.self v.2 hfound.2]
    rfl

theorem row {n : Nat} {γ : Fin n → Type} {equal : (i : Fin n) → γ i → γ i → Bool}
    {found : (i : Fin n) → γ i → Bool} (h : ∀ i, ReflexiveExcept (equal i) (found i)) :
    ReflexiveExcept (equalRow equal) fun v => (List.finRange n).any fun i => found i (v i) := by
  induction n with
  | zero => exact ⟨fun _ _ _ => rfl, fun _ _ => rfl⟩
  | succ n ih =>
    have hparts := ((h 0).both (ih fun i => h i.succ)).comap
      fun v : (i : Fin (n + 1)) → γ i => (v 0, fun i => v i.succ)
    simp only [List.finRange_succ, List.any_cons, List.any_map]
    exact hparts

end ReflexiveExcept

theorem Number.Floating.reflexiveExcept (format : FloatFormat) :
    ReflexiveExcept (fun x y : Floating format => x.equal y) isNaN where
  of_equal x y hxy := by
    simp only [equal, Bool.and_eq_true, Bool.not_eq_true'] at hxy
    exact hxy.1.1
  self x hx := by simp [equal, hx]

namespace Json

mutual

theorem equal_self : ∀ document : Json, document.equal document = true
  | null => rfl
  | bool b => beq_self_eq_true b
  | number (.integer n) => beq_self_eq_true n
  | number (.real x finite) =>
    (Attest.Number.Floating.reflexiveExcept .double).self x (decide_eq_false (Nat.lt_asymm finite))
  | string s => beq_self_eq_true s
  | array items => equalItems_self items
  | object fields => equalFields_self fields

theorem equalItems_self : ∀ items : List Json, equalItems items items = true
  | [] => rfl
  | item :: items => by rw [equalItems, equal_self item, equalItems_self items, Bool.and_self]

theorem equalFields_self : ∀ fields : List (String × Json), equalFields fields fields = true
  | [] => rfl
  | (key, value) :: fields => by
    rw [equalFields, equal_self value, equalFields_self fields, beq_self_eq_true]
    rfl

end

mutual

/-- The numbers of a document are finite. -/
theorem holdsNaN_eq_false : ∀ document : Json, document.holdsNaN = false
  | null | bool _ | number (.integer _) | string _ => rfl
  | number (.real _ finite) => decide_eq_false (Nat.lt_asymm finite)
  | array items => itemsHoldNaN_eq_false items
  | object fields => fieldsHoldNaN_eq_false fields

theorem itemsHoldNaN_eq_false : ∀ items : List Json, itemsHoldNaN items = false
  | [] => rfl
  | item :: items => by
    rw [itemsHoldNaN, holdsNaN_eq_false item, itemsHoldNaN_eq_false items, Bool.or_self]

theorem fieldsHoldNaN_eq_false : ∀ fields : List (String × Json), fieldsHoldNaN fields = false
  | [] => rfl
  | (_, value) :: fields => by
    rw [fieldsHoldNaN, holdsNaN_eq_false value, fieldsHoldNaN_eq_false fields, Bool.or_self]

end

theorem reflexiveExcept : ReflexiveExcept equal holdsNaN :=
  ⟨fun document _ _ => holdsNaN_eq_false document, fun document _ => equal_self document⟩

end Json

namespace Structured

mutual

theorem equal_self : ∀ v : Structured, v.holdsNaN = false → v.equal v = true
  | integer n, _ => beq_self_eq_true n
  | real x, h => (Number.Floating.reflexiveExcept .double).self x h
  | text s, _ => beq_self_eq_true s
  | absent, _ => rfl
  | present part, h => equal_self part h
  | items parts, h => equalParts_self parts h
  | positional _ _ parts, h => by
    rw [equal, equalParts_self parts h, beq_self_eq_true]
    rfl
  | labelled _ _ parts, h => by
    rw [equal, equalLabelled_self parts h, beq_self_eq_true]
    rfl

theorem equalParts_self : ∀ parts : List Structured, partsHoldNaN parts = false →
    equalParts parts parts = true
  | [], _ => rfl
  | part :: parts, h => by
    rw [partsHoldNaN, Bool.or_eq_false_iff] at h
    rw [equalParts, equal_self part h.1, equalParts_self parts h.2]
    rfl

theorem equalLabelled_self : ∀ parts : List (String × Structured), labelledHoldNaN parts = false →
    equalLabelled parts parts = true
  | [], _ => rfl
  | (_, part) :: parts, h => by
    rw [labelledHoldNaN, Bool.or_eq_false_iff] at h
    rw [equalLabelled, equal_self part h.1, equalLabelled_self parts h.2]
    rfl

end

mutual

theorem holdsNaN_of_equal : ∀ v w : Structured, v.equal w = true → v.holdsNaN = false
  | real x, real y, h => (Number.Floating.reflexiveExcept .double).of_equal x y h
  | present part, present part', h => holdsNaN_of_equal part part' h
  | items parts, items parts', h => partsHoldNaN_of_equal parts parts' h
  | positional _ _ parts, positional _ _ parts', h =>
    partsHoldNaN_of_equal parts parts' (Bool.and_eq_true_iff.mp h).2
  | labelled _ _ parts, labelled _ _ parts', h =>
    labelledHoldNaN_of_equal parts parts' (Bool.and_eq_true_iff.mp h).2
  | integer _, _, _ | text _, _, _ | absent, _, _ => rfl

theorem partsHoldNaN_of_equal : ∀ parts parts' : List Structured,
    equalParts parts parts' = true → partsHoldNaN parts = false
  | [], _, _ => rfl
  | part :: parts, part' :: parts', h => by
    rw [equalParts, Bool.and_eq_true] at h
    rw [partsHoldNaN, holdsNaN_of_equal part part' h.1, partsHoldNaN_of_equal parts parts' h.2]
    rfl

theorem labelledHoldNaN_of_equal : ∀ parts parts' : List (String × Structured),
    equalLabelled parts parts' = true → labelledHoldNaN parts = false
  | [], _, _ => rfl
  | (_, part) :: parts, (_, part') :: parts', h => by
    rw [equalLabelled, Bool.and_eq_true] at h
    rw [labelledHoldNaN, holdsNaN_of_equal part part' h.1, labelledHoldNaN_of_equal parts parts' h.2]
    rfl

end

theorem reflexiveExcept : ReflexiveExcept equal holdsNaN :=
  ⟨holdsNaN_of_equal, equal_self⟩

end Structured

/-- Values in which something is no number equal nothing, and all others equal themselves. -/
theorem Kind.reflexiveExcept (kind : Kind) : ReflexiveExcept kind.equal kind.holdsNaN := by
  induction kind with
  | unit => exact ⟨fun _ _ _ => rfl, fun _ _ => rfl⟩
  | bool | char | int | text => exact .of_lawful
  | float format =>
    rw [equal_float]
    exact Number.Floating.reflexiveExcept format
  | json => exact Json.reflexiveExcept
  | structured => exact Structured.reflexiveExcept
  | option item ih =>
    rw [equal_option]
    have hany : holdsNaN (.option item) = fun v => v.toList.any item.holdsNaN := by
      funext v
      cases v with
      | none => rfl
      | some x => exact (Bool.or_false _).symm
    rw [hany]
    exact ih.each.comap Option.toList
  | sequence form item ih => exact ih.each
  | set arrangement item ih =>
    cases arrangement with
    | hashed => exact ih.unordered
    | sorted => exact ih.each
  | map arrangement key value ihKey ihValue =>
    cases arrangement with
    | hashed => exact (ihKey.both ihValue).unordered
    | sorted => exact (ihKey.both ihValue).each
  | tuple more part ih =>
    rw [equal_tuple]
    exact .row ih
  | pointer form target ih =>
    rw [equal_pointer]
    exact ih.comap Pointer.target

/-- An ordered value compares with itself exactly when it equals itself. -/
theorem Kind.compare?_self {kind : Kind} (orderable : kind.IsOrderable) (value : kind.Value) :
    kind.compare? value value = if kind.holdsNaN value then none else some .eq := by
  have hself := kind.reflexiveExcept.self_iff value
  rw [(lawfulComparison orderable).self value]
  cases h : kind.holdsNaN value with
  | false => exact if_pos (hself.mpr h)
  | true => exact if_neg fun hequal => Bool.false_ne_true ((hself.mp hequal).symm.trans h)

namespace Expectation

variable {kind : Kind} {renderer : Renderer} {site : Site} (value : kind.Value)
  (label : Option String)

theorem passes_equal_self_iff :
    (ofValue value label).Passes renderer site (.equal kind value) ↔ kind.holdsNaN value = false :=
  (passes_ofValue_iff rfl).trans (kind.reflexiveExcept.self_iff value)

theorem fails_equal_self_iff :
    (ofValue value label).Fails renderer site (.equal kind value) ↔ kind.holdsNaN value = true := by
  have hself := kind.reflexiveExcept.self_iff value
  rw [fails_ofValue_iff rfl, ← Bool.not_eq_false, ← hself, Bool.not_eq_true]
  rfl

theorem ordered_self (orderable : kind.IsOrderable) (hnumbers : kind.holdsNaN value = false) :
    (ofValue value label).Passes renderer site (.ordered .greaterOrEqual value) ∧
    (ofValue value label).Passes renderer site (.ordered .lessOrEqual value) ∧
    (ofValue value label).Fails renderer site (.ordered .greater value) ∧
    (ofValue value label).Fails renderer site (.ordered .less value) := by
  have hsame : kind.compare? value value = some .eq := by
    rw [Kind.compare?_self orderable, hnumbers]
    rfl
  have houtcome := outcome_ordered hsame
  simp only [passes_ofValue_iff (houtcome _), fails_ofValue_iff (houtcome _)]
  decide

theorem refuses_self (orderable : kind.IsOrderable) (hnan : kind.holdsNaN value = true)
    (relation : Relation) :
    (ofValue value label).Refuses renderer site relation value ∧
    (ofValue value label).not.Refuses renderer site relation value := by
  have hnone : kind.compare? (ofValue value label).value value = none := by
    rw [ofValue, Kind.compare?_self orderable, hnan]
    rfl
  have hnot : kind.compare? (ofValue value label).not.value value = none := hnone
  exact ⟨refuses_of_eq_none hnone relation, refuses_of_eq_none hnot relation⟩

end Expectation

/-- A value passes for equal to itself unless something in it is no number, so a document always
does. Where its kind is ordered, the checks that admit equality pass and the strict ones fail under
the same condition, and otherwise none of the four can be answered under either polarity. -/
theorem self_comparison {kind : Kind} (value : kind.Value) (renderer : Renderer) (site : Site)
    (label : Option String) :
    let expectation : Expectation kind := .ofValue value label
    (expectation.Passes renderer site (.equal kind value) ↔ kind.holdsNaN value = false) ∧
    (expectation.Fails renderer site (.equal kind value) ↔ kind.holdsNaN value = true) ∧
    (∀ document : Json, (Expectation.ofValue document label : Expectation .json).Passes renderer site
      (.equal .json document)) ∧
    (kind.IsOrderable →
      (kind.holdsNaN value = false →
        expectation.Passes renderer site (.ordered .greaterOrEqual value) ∧
        expectation.Passes renderer site (.ordered .lessOrEqual value) ∧
        expectation.Fails renderer site (.ordered .greater value) ∧
        expectation.Fails renderer site (.ordered .less value)) ∧
      (kind.holdsNaN value = true → ∀ relation,
        expectation.Refuses renderer site relation value ∧
        expectation.not.Refuses renderer site relation value)) := by
  intro expectation
  have hjson (document : Json) : (Expectation.ofValue document label : Expectation .json).Passes
      renderer site (.equal .json document) :=
    (@Expectation.passes_equal_self_iff .json renderer site document label).mpr
      document.holdsNaN_eq_false
  exact ⟨Expectation.passes_equal_self_iff value label, Expectation.fails_equal_self_iff value label,
    hjson, fun orderable => ⟨Expectation.ordered_self value label orderable,
      Expectation.refuses_self value label orderable⟩⟩

/-- One value of a map that is no number keeps the map from being equal to itself or comparable with
itself, even though its first entries decide nothing. -/
theorem self_comparison_in_map :
    let kind : Kind := .option (.map .sorted .text (.float .double))
    let value : kind.Value :=
      some [("height", ⟨false, 3⟩), ("width", ⟨true, Number.FloatFormat.double.quiet⟩)]
    let expectation : Expectation kind := .ofValue value none
    let site : Site := ⟨"tests/order.rs", 21⟩
    kind.IsOrderable ∧ kind.holdsNaN value = true ∧
    expectation.Fails .initial site (.equal kind value) ∧
    expectation.Refuses .initial site .lessOrEqual value := by
  intro kind value expectation site
  obtain ⟨-, hfails, -, hordered⟩ := self_comparison value .initial site none
  have orderable : kind.IsOrderable := ⟨trivial, trivial⟩
  have hnan : kind.holdsNaN value = true := by decide
  exact ⟨orderable, hnan, hfails.mpr hnan, ((hordered orderable).2 hnan .lessOrEqual).1⟩

end Attest
