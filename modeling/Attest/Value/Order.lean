import Attest.Value.Kind

/-!
# Order of values

Absence comes before presence, false before true, a proper beginning before the whole; sequences,
tuples, sorted sets and sorted maps are compared part by part up to the first difference. There is no
result when that difference is at a floating-point value that is no number, and none for documents
and for sets and maps without order.
-/

namespace Attest

/-- The order of two lists by their first difference. -/
def compareEach? {α : Type} (compare? : α → α → Option Ordering) :
    List α → List α → Option Ordering
  | [], [] => some .eq
  | [], _ :: _ => some .lt
  | _ :: _, [] => some .gt
  | x :: xs, y :: ys =>
    match compare? x y with
    | some .eq => compareEach? compare? xs ys
    | order => order

/-- The order of two pairs by their first difference. -/
def compareBoth? {α β : Type} (first? : α → α → Option Ordering) (second? : β → β → Option Ordering)
    (x y : α × β) : Option Ordering :=
  match first? x.1 y.1 with
  | some .eq => second? x.2 y.2
  | order => order

/-- The order of two rows of parts by their first difference. -/
def compareRow? : {n : Nat} → {α : Fin n → Type} →
    ((i : Fin n) → α i → α i → Option Ordering) →
    ((i : Fin n) → α i) → ((i : Fin n) → α i) → Option Ordering
  | 0, _, _, _, _ => some .eq
  | _ + 1, _, compare?, v, w =>
    match compare? 0 (v 0) (w 0) with
    | some .eq => compareRow? (fun i => compare? i.succ) (fun i => v i.succ) (fun i => w i.succ)
    | order => order

namespace Kind

/-- The order of two values of one kind. -/
def compare? : (kind : Kind) → kind.Value → kind.Value → Option Ordering
  | .unit, _, _ => some .eq
  | .bool, a, b => some (compare a.toNat b.toNat)
  | .char, c, d => some (compare c.toNat d.toNat)
  | .int, m, n => some (compare m n)
  | .float _, x, y => x.compare? y
  | .text, s, t => some (Text.compare s t)
  | .json, _, _ => none
  | .structured, v, w => v.compare? w
  | .option item, v, w => match v, w with
    | none, none => some .eq
    | none, some _ => some .lt
    | some _, none => some .gt
    | some a, some b => compare? item a b
  | .sequence _ item, xs, ys => compareEach? (compare? item) xs ys
  | .set .hashed _, _, _ => none
  | .set .sorted item, xs, ys => compareEach? (compare? item) xs ys
  | .map .hashed _ _, _, _ => none
  | .map .sorted key value, xs, ys =>
    compareEach? (compareBoth? (compare? key) (compare? value)) xs ys
  | .tuple _ part, v, w => compareRow? (fun i => compare? (part i)) v w
  | .pointer _ target, p, q => compare? target p.target q.target

end Kind

end Attest
