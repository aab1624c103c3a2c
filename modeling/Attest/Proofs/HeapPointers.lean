import Attest.Value.Heap

/-!
# Pointers into heaps

A store keeps the objects of every kind in a heap. A pointer leads to a spot in it: to a whole object, or to
a range of the parts of one. Objects have places of their own, and so have the parts of one, so a location
decides what lies there. Pointers at one location lead to one spot, unless to objects without parts, and
these are all alike.
-/

namespace Attest

namespace Heap

variable {α : Type} {place start stop : Nat}

theorem object?_eq_some {heap : Heap α} {p : Pointer α} (h : heap.object? place = some p) :
    p.location = .object place ∧ heap.objects[place]? = some p.target := by
  obtain ⟨object, hobject, rfl⟩ := Option.map_eq_some_iff.mp h
  exact ⟨rfl, hobject⟩

/-- A pointer to items of a list is at their range, and an empty list has none. -/
theorem items?_eq_some {heap : Heap (List α)} {p : Pointer (List α)}
    (h : heap.items? place start stop = some p) :
    ∃ items, heap.objects[place]? = some items ∧ start ≤ stop ∧ stop ≤ items.length ∧
      p.location = rangeLocation place items.length start stop ∧
      p.target = (items.take stop).drop start := by
  obtain ⟨items, hitems, h⟩ := Option.bind_eq_some_iff.mp h
  split at h
  · rename_i hrange
    cases h
    exact ⟨items, hitems, hrange.1, hrange.2, rfl, rfl⟩
  · cases h

theorem splitAtByte?_append {n : Nat} {s front back : List Char}
    (h : splitAtByte? n s = some (front, back)) : front ++ back = s := by
  fun_induction splitAtByte? n s generalizing front with
  | case1 s => cases h; rfl
  | case2 => cases h
  | case3 n c s hfits ih =>
    obtain ⟨⟨front', back'⟩, hsplit, heq⟩ := Option.map_eq_some_iff.mp h
    cases heq
    exact congrArg (c :: ·) (ih hsplit)
  | case4 => cases h

theorem eq_zero_of_splitAtByte?_nil {n : Nat} {parts : List Char × List Char}
    (h : splitAtByte? n [] = some parts) : n = 0 := by
  cases n with
  | zero => rfl
  | succ n => cases h

/-- A pointer to a part of a text is at its range, and the empty text has none but itself. -/
theorem text?_eq_some {heap : Heap String} {p : Pointer String}
    (h : heap.text? place start stop = some p) :
    ∃ text, heap.objects[place]? = some text ∧ start ≤ stop ∧
      p.location = rangeLocation place text.utf8ByteSize start stop ∧
      (text = "" → stop = 0 ∧ p.target = "") := by
  obtain ⟨text, htext, h⟩ := Option.bind_eq_some_iff.mp h
  obtain ⟨⟨front, back⟩, hstop, h⟩ := Option.bind_eq_some_iff.mp h
  dsimp only at h
  split at h
  · rename_i hrange
    obtain ⟨⟨before, part⟩, hstart, h⟩ := Option.bind_eq_some_iff.mp h
    cases h
    refine ⟨text, htext, hrange, rfl, ?_⟩
    rintro rfl
    -- the empty text is split into empty parts alone
    have hparts := splitAtByte?_append hstop
    rw [String.toList_empty, List.append_eq_nil_iff] at hparts
    rw [hparts.1] at hstart
    have hpart := splitAtByte?_append hstart
    rw [List.append_eq_nil_iff] at hpart
    exact ⟨eq_zero_of_splitAtByte?_nil hstop, by rw [hpart.2, String.ofList_nil]⟩
  · cases h

theorem rangeLocation_inj {place' size size' start' stop' : Nat} (hle : start ≤ stop)
    (hle' : start' ≤ stop')
    (h : rangeLocation place size start stop = rangeLocation place' size' start' stop') :
    (size = 0 ∧ size' = 0) ∨ (place = place' ∧ start = start' ∧ stop = stop') := by
  unfold rangeLocation at h
  split at h <;> split at h
  · exact Or.inl ⟨‹_›, ‹_›⟩
  · cases h
  · cases h
  · injection h with hplace hstart hlength
    exact Or.inr ⟨hplace, hstart, by omega⟩

theorem rangeLocation_ne_object (place size start stop place' : Nat) :
    rangeLocation place size start stop ≠ .object place' := by
  unfold rangeLocation
  split <;> simp

end Heap

/-- A heap for the objects of each kind. -/
def Store : Type := (kind : Kind) → Heap kind.Value

/-- The kinds whose values take room in memory. What takes none has no place that is its own for certain. -/
def Kind.TakesRoom : Kind → Prop
  | .unit => False
  | .tuple _ part => ∃ i, (part i).TakesRoom
  | .sequence .slice item => item.TakesRoom
  | .sequence (.array size) item => size ≠ 0 ∧ item.TakesRoom
  | _ => True

/-- Where a pointer leads: to a whole object, or to the parts of one from a start up to a stop. -/
inductive Spot where
  | whole (place : Nat)
  | parts (place start stop : Nat)
deriving DecidableEq, Repr

/-- Whether there is nothing at a spot but a place between parts. -/
def Spot.IsEmpty : Spot → Prop
  | whole _ => False
  | parts _ start stop => start = stop

/-- Whether a pointer has an identity and leads to a whole object. What holds its target alone has none,
and a borrowed slice leads to a range of an object, if to all of it. -/
def PointerForm.leadsToWhole : PointerForm → Kind → Bool
  | .owned, _ | .borrowed, .sequence .slice _ => false
  | _, _ => true

theorem PointerForm.ne_owned_of_leadsToWhole {form : PointerForm} {target : Kind}
    (h : form.leadsToWhole target = true) : form ≠ .owned := by
  rintro rfl
  exact Bool.false_ne_true h

namespace Store

/-- The pointer to parts of an object; texts and lists have parts that can be pointed to. -/
def parts? (store : Store) : (target : Kind) → Nat → Nat → Nat → Option (Pointer target.Value)
  | .text, place, start, stop => (store .text).text? place start stop
  | .sequence .slice item, place, start, stop =>
    (store (.sequence .slice item)).items? place start stop
  | _, _, _, _ => none

/-- The pointer to a spot. Only parts that are borrowed can be pointed to. -/
def pointer? (store : Store) (form : PointerForm) (target : Kind) :
    Spot → Option (Pointer target.Value)
  | .whole place => if form.leadsToWhole target then (store target).object? place else none
  | .parts place start stop =>
    if form = .borrowed then store.parts? target place start stop else none

/-- The number of parts of an object, bytes of a text or items of a list. -/
def size (store : Store) : Kind → Nat → Nat
  | .text, place => ((store .text).objects[place]?.map String.utf8ByteSize).getD 0
  | .sequence form item, place =>
    ((store (.sequence form item)).objects[place]?.map List.length).getD 0
  | _, _ => 0

/-- Whether the object of a spot takes room, which one that is pointed to by parts does where it has
some. -/
def Occupied (store : Store) (target : Kind) : Spot → Prop
  | .whole _ => target.TakesRoom
  | .parts place _ _ => target.TakesRoom ∧ store.size target place ≠ 0

variable {store : Store} {form : PointerForm} {target : Kind} {place start stop : Nat}
  {spot spot' : Spot} {p q : Pointer target.Value}

theorem size_text {text : String} (h : (store .text).objects[place]? = some text) :
    store.size .text place = text.utf8ByteSize := by
  rw [size, h]
  rfl

theorem size_sequence {item : Kind} {items : List item.Value} {held : SequenceForm}
    (h : (store (.sequence held item)).objects[place]? = some items) :
    store.size (.sequence held item) place = items.length := by
  rw [size, h]
  rfl

theorem parts?_eq_some (h : store.parts? target place start stop = some p) :
    start ≤ stop ∧ p.location = Heap.rangeLocation place (store.size target place) start stop ∧
      (store.size target place = 0 → start = stop) := by
  cases target with
  | text =>
    obtain ⟨text, htext, hle, hlocation, hempty⟩ := Heap.text?_eq_some h
    rw [size_text htext]
    refine ⟨hle, hlocation, fun hsize => ?_⟩
    have hstop := (hempty (String.utf8ByteSize_eq_zero_iff.mp hsize)).1
    omega
  | sequence held item =>
    cases held with
    | slice =>
      obtain ⟨items, hitems, hle, hstop, hlocation, -⟩ := Heap.items?_eq_some h
      rw [size_sequence hitems]
      exact ⟨hle, hlocation, by omega⟩
    | _ => cases h
  | _ => cases h

/-- What has no parts is all alike. -/
theorem target_eq_of_size_eq_zero {place' start' stop' : Nat}
    (hp : store.parts? target place start stop = some p)
    (hq : store.parts? target place' start' stop' = some q)
    (h : store.size target place = 0) (h' : store.size target place' = 0) : p.target = q.target := by
  cases target with
  | text =>
    obtain ⟨text, htext, -, -, hempty⟩ := Heap.text?_eq_some hp
    obtain ⟨text', htext', -, -, hempty'⟩ := Heap.text?_eq_some hq
    rw [size_text htext, String.utf8ByteSize_eq_zero_iff] at h
    rw [size_text htext', String.utf8ByteSize_eq_zero_iff] at h'
    rw [(hempty h).2, (hempty' h').2]
  | sequence held item =>
    cases held with
    | slice =>
      obtain ⟨items, hitems, -, -, -, htarget⟩ := Heap.items?_eq_some hp
      obtain ⟨items', hitems', -, -, -, htarget'⟩ := Heap.items?_eq_some hq
      rw [size_sequence hitems, List.length_eq_zero_iff] at h
      rw [size_sequence hitems', List.length_eq_zero_iff] at h'
      rw [htarget, htarget', h, h']
      simp
    | _ => cases hp
  | _ => cases hp

theorem pointer?_whole (h : store.pointer? form target (.whole place) = some p) :
    form ≠ .owned ∧ (store target).object? place = some p := by
  rw [pointer?] at h
  split at h
  · rename_i hwhole
    exact ⟨PointerForm.ne_owned_of_leadsToWhole hwhole, h⟩
  · cases h

theorem pointer?_parts (h : store.pointer? form target (.parts place start stop) = some p) :
    form = .borrowed ∧ store.parts? target place start stop = some p := by
  rw [pointer?] at h
  split at h
  · exact ⟨‹_›, h⟩
  · cases h

theorem form_ne_owned (h : store.pointer? form target spot = some p) : form ≠ .owned := by
  cases spot with
  | whole place => exact (pointer?_whole h).1
  | parts place start stop =>
    rw [(pointer?_parts h).1]
    decide

theorem occupied_of_not_isEmpty (h : store.pointer? form target spot = some p)
    (hroom : target.TakesRoom) (hne : ¬ spot.IsEmpty) : store.Occupied target spot := by
  cases spot with
  | whole place => exact hroom
  | parts place start stop =>
    obtain ⟨-, -, hempty⟩ := parts?_eq_some (pointer?_parts h).2
    exact ⟨hroom, fun hsize => hne (hempty hsize)⟩

/-- Pointers at one location lead to one spot, or else to objects that take no room. -/
theorem spot_eq_of_location_eq (hp : store.pointer? form target spot = some p)
    (hq : store.pointer? form target spot' = some q) (h : p.location = q.location) :
    spot = spot' ∨ (¬ store.Occupied target spot ∧ p.target = q.target) := by
  cases spot with
  | whole place =>
    obtain ⟨hlocation, -⟩ := Heap.object?_eq_some (pointer?_whole hp).2
    cases spot' with
    | whole place' =>
      obtain ⟨hlocation', -⟩ := Heap.object?_eq_some (pointer?_whole hq).2
      rw [hlocation, hlocation'] at h
      injection h with hplace
      exact Or.inl (congrArg _ hplace)
    | parts place' start' stop' =>
      -- a range is never where a whole object is
      obtain ⟨-, hlocation', -⟩ := parts?_eq_some (pointer?_parts hq).2
      rw [hlocation, hlocation'] at h
      exact absurd h.symm (Heap.rangeLocation_ne_object _ _ _ _ _)
  | parts place start stop =>
    obtain ⟨hle, hlocation, -⟩ := parts?_eq_some (pointer?_parts hp).2
    cases spot' with
    | whole place' =>
      obtain ⟨hlocation', -⟩ := Heap.object?_eq_some (pointer?_whole hq).2
      rw [hlocation, hlocation'] at h
      exact absurd h (Heap.rangeLocation_ne_object _ _ _ _ _)
    | parts place' start' stop' =>
      obtain ⟨hle', hlocation', -⟩ := parts?_eq_some (pointer?_parts hq).2
      rw [hlocation, hlocation'] at h
      rcases Heap.rangeLocation_inj hle hle' h with ⟨hsize, hsize'⟩ | ⟨rfl, rfl, rfl⟩
      · exact Or.inr ⟨fun hoccupied => hoccupied.2 hsize, target_eq_of_size_eq_zero (pointer?_parts hp).2
          (pointer?_parts hq).2 hsize hsize'⟩
      · exact Or.inl rfl

theorem eq_of_location_eq (hp : store.pointer? form target spot = some p)
    (hq : store.pointer? form target spot' = some q) (h : p.location = q.location) : p = q := by
  rcases spot_eq_of_location_eq hp hq h with rfl | ⟨-, htarget⟩
  · exact Option.some.inj (hp.symm.trans hq)
  · cases p
    cases q
    cases h
    cases htarget
    rfl

end Store

end Attest
