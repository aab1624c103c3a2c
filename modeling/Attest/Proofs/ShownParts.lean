import Attest.Proofs.Messages

/-!
# Parts of shown values

Behind each part of a value there is a mark that no part goes on with, and no part starts like the end
of a list. Where the parts are told apart by their texts, lists, options and rows of them are told
apart too, in either layout and whatever follows.
-/

namespace Attest

/-- What can follow a part of a value: nothing, a comma or a closing bracket. -/
def EndsPart (rest : List Char) : Prop :=
  ∀ c ∈ rest.head?, c = ',' ∨ c = ')' ∨ c = ']'

theorem endsPart_cons {c : Char} (h : c = ',' ∨ c = ')' ∨ c = ']') (rest : List Char) :
    EndsPart (c :: rest) := by
  intro d hd
  obtain rfl : c = d := Option.some.inj hd
  exact h

/-- A text that is not taken for the end of a list. -/
def StartsPart (text : List Char) : Prop :=
  ∀ rest rest', text ++ rest ≠ ']' :: rest'

theorem startsPart_cons {c : Char} (h : c ≠ ']') (text : List Char) : StartsPart (c :: text) := by
  intro rest rest' heq
  rw [List.cons_append, List.cons.injEq] at heq
  exact h heq.1

/-- Texts on two sides that are the same for equal values and otherwise differ, whatever follows. -/
structure Legible {α β : Type} (left : α → List Char) (right : β → List Char)
    (equal : α → β → Bool) : Prop where
  same : ∀ x y, equal x y = true → left x = right y
  apart : ∀ x y rest rest', EndsPart rest → EndsPart rest' → left x ++ rest = right y ++ rest' →
    equal x y = true ∧ rest = rest'
  starts : (∀ x, StartsPart (left x)) ∧ ∀ y, StartsPart (right y)

namespace Layout

/-- What stands before the first part. -/
def leading : Layout → List Char
  | compact => []
  | spread depth => newLine (depth + 1)

/-- What stands between two parts. -/
def between : Layout → List Char
  | compact => [',', ' ']
  | spread depth => ',' :: newLine (depth + 1)

/-- What stands behind the last part. -/
def trailing : Layout → List Char
  | compact => []
  | spread depth => ',' :: newLine depth

/-- What follows the first part, up to the bracket. -/
def following (layout : Layout) (items : List (List Char)) : List Char :=
  items.flatMap (layout.between ++ ·) ++ layout.trailing

theorem joined_cons (item : List Char) (items : List (List Char)) :
    joined (item :: items) = item ++ compact.following items := by
  induction items generalizing item with
  | nil => simp [joined, following, trailing]
  | cons second items ih =>
    rw [joined, ih]
    · simp [following, between]
    · simp

theorem stacked_cons (depth : Nat) (item : List Char) (items : List (List Char)) :
    stacked (depth + 1) (item :: items) ++ newLine depth =
      (spread depth).leading ++ item ++ (spread depth).following items := by
  induction items generalizing item with
  | nil => simp [stacked, following, leading, trailing]
  | cons second items ih =>
    rw [stacked, List.append_assoc, List.cons_append, ih]
    simp [following, between, leading]

/-- In both layouts the parts stand behind each other with the same marks around them. -/
theorem enclose_append (layout : Layout) (opening : List Char) (closing : Char) (item : List Char)
    (items : List (List Char)) (rest : List Char) :
    layout.enclose opening [closing] (item :: items) ++ rest =
      opening ++ (layout.leading ++ (item ++ (layout.following items ++ closing :: rest))) := by
  cases layout with
  | compact => simp [enclose, joined_cons, leading]
  | spread depth =>
    have hparts := stacked_cons depth item items
    simp only [enclose, List.append_assoc] at hparts ⊢
    rw [← List.append_assoc (stacked _ _), hparts]
    simp

theorem following_cons_append (layout : Layout) (item : List Char) (items : List (List Char))
    (rest : List Char) :
    layout.following (item :: items) ++ rest =
      layout.between ++ (item ++ (layout.following items ++ rest)) := by
  simp [following]

theorem startsPart_enclose (layout : Layout) {c : Char} (h : c ≠ ']')
    (opening closing : List Char) (items : List (List Char)) :
    StartsPart (layout.enclose (c :: opening) closing items) := by
  obtain ⟨rest, hrest⟩ := layout.exists_enclose_eq_cons c opening closing items
  rw [hrest]
  exact startsPart_cons h rest

theorem startsPart_option (layout : Layout) (item : Option (List Char)) :
    StartsPart (layout.option item) := by
  cases item with
  | none => exact startsPart_cons (by decide) _
  | some item => exact layout.startsPart_enclose (by decide) _ _ _

theorem endsPart_following (layout : Layout) (items : List (List Char)) {c : Char}
    (h : c = ')' ∨ c = ']') (rest : List Char) :
    EndsPart (layout.following items ++ c :: rest) := by
  have hcomma (rest : List Char) : EndsPart (',' :: rest) := endsPart_cons (Or.inl rfl) rest
  cases items with
  | nil =>
    cases layout with
    | compact => exact endsPart_cons (Or.inr h) rest
    | spread depth => exact hcomma _
  | cons item items => cases layout <;> exact hcomma _

/-- What follows the first part of a row, up to the bracket. -/
def behindFirst : Layout → List (List Char) → List Char
  | compact, [] => [',']
  | layout, items => layout.following items

theorem behindFirst_ofFn (layout : Layout) {n : Nat} (item : Fin (n + 1) → List Char) :
    layout.behindFirst (.ofFn item) = layout.following (.ofFn item) := by
  rw [List.ofFn_succ]
  cases layout <;> rfl

theorem row_append (layout : Layout) (item : List Char) (items : List (List Char))
    (rest : List Char) :
    layout.row (item :: items) ++ rest =
      ['('] ++ (layout.leading ++ (item ++ (layout.behindFirst items ++ ')' :: rest))) := by
  have hparts := layout.enclose_append ['('] ')' item items rest
  cases layout with
  | compact =>
    cases items with
    | nil => simp [row, leading, behindFirst]
    | cons second items => exact hparts
  | spread depth => exact hparts

theorem endsPart_behindFirst (layout : Layout) (items : List (List Char)) (rest : List Char) :
    EndsPart (layout.behindFirst items ++ ')' :: rest) := by
  unfold behindFirst
  split
  · exact endsPart_cons (Or.inl rfl) _
  · exact endsPart_following _ _ (Or.inl rfl) rest

theorem startsPart_row (layout : Layout) (items : List (List Char)) :
    StartsPart (layout.row items) := by
  unfold row
  split
  · exact startsPart_cons (by decide) _
  · exact startsPart_enclose _ (by decide) _ _ _

theorem between_append_ne (layout : Layout) (rest rest' : List Char) :
    layout.between ++ rest ≠ layout.trailing ++ ']' :: rest' := by
  cases layout with
  | compact => simp [between, trailing]
  | spread depth =>
    -- after the common blanks, the next part has one more where the end has its bracket
    have hdeeper : List.replicate (4 * (depth + 1)) ' ' =
        List.replicate (4 * depth) ' ' ++ List.replicate 4 ' ' := by
      rw [List.replicate_append_replicate, Nat.mul_add]
    simp [between, trailing, newLine, hdeeper, List.replicate]

theorem leading_append_ne (layout : Layout) {item : List Char} (h : StartsPart item)
    (rest rest' : List Char) : layout.leading ++ (item ++ rest) ≠ ']' :: rest' := by
  cases layout with
  | compact => exact h rest rest'
  | spread depth => simp [leading, newLine]

end Layout

namespace Legible

variable {α β γ δ : Type} {left : α → List Char} {right : β → List Char} {equal : α → β → Bool}

theorem of_inj [BEq α] [LawfulBEq α] {shown : α → List Char}
    (hstarts : ∀ x, StartsPart (shown x))
    (hinj : ∀ x y rest rest', EndsPart rest → EndsPart rest' →
      shown x ++ rest = shown y ++ rest' → x = y ∧ rest = rest') :
    Legible shown shown fun x y => x == y where
  same x y h := by rw [eq_of_beq h]
  apart x y rest rest' hrest hrest' h := by
    obtain ⟨rfl, hends⟩ := hinj x y rest rest' hrest hrest' h
    exact ⟨beq_self_eq_true x, hends⟩
  starts := ⟨hstarts, hstarts⟩

theorem comap (h : Legible left right equal) (f : γ → α) (g : δ → β) :
    Legible (fun x => left (f x)) (fun y => right (g y)) fun x y => equal (f x) (g y) where
  same x y := h.same (f x) (g y)
  apart x y := h.apart (f x) (g y)
  starts := ⟨fun x => h.starts.1 (f x), fun y => h.starts.2 (g y)⟩

/-- A part and what follows it are told apart by themselves. -/
theorem part (h : Legible left right equal) (layout : Layout) {x : α} {y : β} {c : Char}
    (hc : c = ')' ∨ c = ']') {items items' : List (List Char)} {rest rest' : List Char}
    (heq : left x ++ (layout.following items ++ c :: rest) =
      right y ++ (layout.following items' ++ c :: rest')) :
    equal x y = true ∧
      layout.following items ++ c :: rest = layout.following items' ++ c :: rest' :=
  h.apart x y _ _ (layout.endsPart_following items hc rest) (layout.endsPart_following items' hc rest')
    heq

theorem following (h : Legible left right equal) (layout : Layout) (xs : List α) (ys : List β)
    {rest rest' : List Char}
    (heq : layout.following (xs.map left) ++ ']' :: rest =
      layout.following (ys.map right) ++ ']' :: rest') :
    equalEach equal xs ys = true ∧ rest = rest' := by
  induction xs generalizing ys with
  | nil =>
    cases ys with
    | nil => simpa [Layout.following, equalEach] using heq
    | cons y ys =>
      rw [List.map_cons, Layout.following_cons_append] at heq
      exact absurd heq.symm (layout.between_append_ne _ _)
  | cons x xs ih =>
    rw [List.map_cons, Layout.following_cons_append] at heq
    cases ys with
    | nil => exact absurd heq (layout.between_append_ne _ _)
    | cons y ys =>
      rw [List.map_cons, Layout.following_cons_append] at heq
      obtain ⟨hpart, hmore⟩ := h.part layout (Or.inr rfl) (List.append_cancel_left heq)
      obtain ⟨hparts, hends⟩ := ih ys hmore
      exact ⟨by rw [equalEach, hpart, hparts, Bool.and_self], hends⟩

theorem map_eq (h : Legible left right equal) {xs : List α} {ys : List β}
    (heq : equalEach equal xs ys = true) : xs.map left = ys.map right := by
  induction xs generalizing ys with
  | nil =>
    cases ys with
    | nil => rfl
    | cons y ys => cases heq
  | cons x xs ih =>
    cases ys with
    | nil => cases heq
    | cons y ys =>
      rw [equalEach, Bool.and_eq_true] at heq
      rw [List.map_cons, List.map_cons, h.same x y heq.1, ih heq.2]

theorem list (h : Legible left right equal) (layout : Layout) :
    Legible (fun xs => layout.list (xs.map left)) (fun ys => layout.list (ys.map right))
      (equalEach equal) where
  same xs ys heq := by rw [h.map_eq heq]
  apart xs ys rest rest' _ _ heq := by
    have hempty (rest : List Char) : layout.list [] ++ rest = ['['] ++ ']' :: rest := by
      cases layout <;> rfl
    have hcons (item : List Char) (items : List (List Char)) (rest : List Char) :
        layout.list (item :: items) ++ rest =
          ['['] ++ (layout.leading ++ (item ++ (layout.following items ++ ']' :: rest))) :=
      layout.enclose_append _ _ item items rest
    cases xs with
    | nil =>
      cases ys with
      | nil =>
        simp only [List.map_nil, hempty] at heq
        exact ⟨rfl, by simpa using heq⟩
      | cons y ys =>
        simp only [List.map_nil, List.map_cons, hempty, hcons] at heq
        exact absurd (List.append_cancel_left heq).symm
          (layout.leading_append_ne (h.starts.2 y) _ _)
    | cons x xs =>
      cases ys with
      | nil =>
        simp only [List.map_nil, List.map_cons, hempty, hcons] at heq
        exact absurd (List.append_cancel_left heq) (layout.leading_append_ne (h.starts.1 x) _ _)
      | cons y ys =>
        simp only [List.map_cons, hcons] at heq
        obtain ⟨hpart, hmore⟩ := h.part layout (Or.inr rfl)
          (List.append_cancel_left (List.append_cancel_left heq))
        obtain ⟨hparts, hends⟩ := h.following layout xs ys hmore
        exact ⟨by rw [equalEach, hpart, hparts, Bool.and_self], hends⟩
  starts := ⟨fun _ => layout.startsPart_enclose (by decide) _ _ _,
    fun _ => layout.startsPart_enclose (by decide) _ _ _⟩

theorem option (h : Legible left right equal) (layout : Layout) :
    Legible (fun v : Option α => layout.option (v.map left))
      (fun w : Option β => layout.option (w.map right))
      fun v w => equalEach equal v.toList w.toList where
  same v w heq := by
    cases v with
    | none =>
      cases w with
      | none => rfl
      | some y => cases heq
    | some x =>
      cases w with
      | none => cases heq
      | some y =>
        have hpart : equal x y = true := (Bool.and_true _).symm.trans heq
        rw [Option.map_some, Option.map_some, h.same x y hpart]
  apart v w rest rest' _ _ heq := by
    have hpresent (item rest : List Char) : layout.option (some item) ++ rest =
        "Some(".toList ++ (layout.leading ++ (item ++ (layout.following [] ++ ')' :: rest))) :=
      layout.enclose_append _ _ item [] rest
    have habsent (rest : List Char) : layout.option none ++ rest = "None".toList ++ rest := rfl
    cases v with
    | none =>
      cases w with
      | none => exact ⟨rfl, List.append_cancel_left heq⟩
      | some y =>
        simp only [Option.map_none, Option.map_some, hpresent, habsent] at heq
        cases heq
    | some x =>
      cases w with
      | none =>
        simp only [Option.map_none, Option.map_some, hpresent, habsent] at heq
        cases heq
      | some y =>
        simp only [Option.map_some, hpresent] at heq
        obtain ⟨hpart, hmore⟩ := h.part layout (Or.inl rfl)
          (List.append_cancel_left (List.append_cancel_left heq))
        have hends : ')' :: rest = ')' :: rest' := List.append_cancel_left hmore
        exact ⟨(Bool.and_true _).trans hpart, List.tail_eq_of_cons_eq hends⟩
  starts := ⟨fun _ => layout.startsPart_option _, fun _ => layout.startsPart_option _⟩

section Row

variable {n : Nat} {row row' : Fin n → Type} {left : (i : Fin n) → row i → List Char}
  {right : (i : Fin n) → row' i → List Char} {equal : (i : Fin n) → row i → row' i → Bool}

theorem followingRow (h : ∀ i, Legible (left i) (right i) (equal i)) (layout : Layout)
    (v : (i : Fin n) → row i) (w : (i : Fin n) → row' i) {rest rest' : List Char}
    (heq : layout.following (.ofFn fun i => left i (v i)) ++ ')' :: rest =
      layout.following (.ofFn fun i => right i (w i)) ++ ')' :: rest') :
    equalRow equal v w = true ∧ rest = rest' := by
  induction n with
  | zero => exact ⟨rfl, List.tail_eq_of_cons_eq (List.append_cancel_left heq)⟩
  | succ n ih =>
    rw [List.ofFn_succ, List.ofFn_succ, Layout.following_cons_append,
      Layout.following_cons_append] at heq
    obtain ⟨hpart, hmore⟩ := (h 0).part layout (Or.inl rfl) (List.append_cancel_left heq)
    obtain ⟨hparts, hends⟩ := ih (fun i => h i.succ) _ _ hmore
    exact ⟨by rw [equalRow, hpart, hparts, Bool.and_self], hends⟩

theorem ofFn_eq (h : ∀ i, Legible (left i) (right i) (equal i)) {v : (i : Fin n) → row i}
    {w : (i : Fin n) → row' i} (heq : equalRow equal v w = true) :
    (List.ofFn fun i => left i (v i)) = .ofFn fun i => right i (w i) := by
  induction n with
  | zero => rfl
  | succ n ih =>
    rw [equalRow, Bool.and_eq_true] at heq
    rw [List.ofFn_succ, List.ofFn_succ, (h 0).same _ _ heq.1, ih (fun i => h i.succ) heq.2]

end Row

theorem row {n : Nat} {row row' : Fin (n + 1) → Type}
    {left : (i : Fin (n + 1)) → row i → List Char}
    {right : (i : Fin (n + 1)) → row' i → List Char}
    {equal : (i : Fin (n + 1)) → row i → row' i → Bool}
    (h : ∀ i, Legible (left i) (right i) (equal i)) (layout : Layout) :
    Legible (fun v : (i : Fin (n + 1)) → row i => layout.row (.ofFn fun i => left i (v i)))
      (fun w : (i : Fin (n + 1)) → row' i => layout.row (.ofFn fun i => right i (w i)))
      (equalRow equal) where
  same v w heq := by rw [ofFn_eq h heq]
  apart v w rest rest' _ _ heq := by
    rw [List.ofFn_succ, List.ofFn_succ, Layout.row_append, Layout.row_append] at heq
    have hfirst := List.append_cancel_left (List.append_cancel_left heq)
    cases n with
    | zero =>
      have hmark := layout.endsPart_behindFirst []
      obtain ⟨hpart, hends⟩ := (h 0).apart _ _ _ _ (hmark rest) (hmark rest') hfirst
      have hends : ')' :: rest = ')' :: rest' := List.append_cancel_left hends
      exact ⟨by rw [equalRow, hpart]; rfl, List.tail_eq_of_cons_eq hends⟩
    | succ n =>
      rw [Layout.behindFirst_ofFn, Layout.behindFirst_ofFn] at hfirst
      obtain ⟨hpart, hmore⟩ := (h 0).part layout (Or.inl rfl) hfirst
      obtain ⟨hparts, hends⟩ := followingRow (fun i => h i.succ) layout _ _ hmore
      exact ⟨by rw [equalRow, hpart, hparts, Bool.and_self], hends⟩
  starts := ⟨fun _ => layout.startsPart_row _, fun _ => layout.startsPart_row _⟩

end Legible

end Attest
