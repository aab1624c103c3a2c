import Attest.Value.Kind

/-!
# Equality of values

Values are equal when their parts are, whatever pointers lead to them. Besides values of one kind, a
document can be compared with a text, a number or a truth value, on either side, and two sequences
whose elements can be compared can be compared themselves, however they are held.
-/

namespace Attest

open Number (FloatFormat Floating)

namespace Json

/-- Whether a document is the given integer. -/
def isInteger (n : Int) : Json → Bool
  | number (.integer m) => m == n
  | _ => false

/-- Whether a document is a number that, as a floating-point number, equals the given one. -/
def isReal {format : FloatFormat} (x : Floating format) : Json → Bool
  | number n => (n.nearest format).equal x
  | _ => false

def isBool (b : Bool) : Json → Bool
  | bool a => a == b
  | _ => false

end Json

/-- Equality of two lists element by element. -/
def equalEach {α β : Type} (equal : α → β → Bool) : List α → List β → Bool
  | [], [] => true
  | x :: xs, y :: ys => equal x y && equalEach equal xs ys
  | _, _ => false

/-- Equality of two rows of parts, each part being of a type of its own. -/
def equalRow : {n : Nat} → {α β : Fin n → Type} → ((i : Fin n) → α i → β i → Bool) →
    ((i : Fin n) → α i) → ((i : Fin n) → β i) → Bool
  | 0, _, _, _, _, _ => true
  | _ + 1, _, _, equal, v, w =>
    equal 0 (v 0) (w 0) &&
      equalRow (fun i => equal i.succ) (fun i => v i.succ) (fun i => w i.succ)

theorem equalRow_iff {n : Nat} {α β : Fin n → Type} {equal : (i : Fin n) → α i → β i → Bool}
    {v : (i : Fin n) → α i} {w : (i : Fin n) → β i} :
    equalRow equal v w = true ↔ ∀ i, equal i (v i) (w i) = true := by
  induction n with
  | zero => exact iff_of_true rfl fun i => i.elim0
  | succ n ih =>
    rw [equalRow, Bool.and_eq_true, ih]
    exact ⟨fun h => Fin.cases h.1 h.2, fun h => ⟨h 0, fun i => h i.succ⟩⟩

/-- Equality of two lists that hold each element once, regardless of order. -/
def equalUnordered {α β : Type} (equal : α → β → Bool) (xs : List α) (ys : List β) : Bool :=
  xs.length == ys.length && xs.all fun x => ys.any fun y => equal x y

namespace Kind

/-- Equality of two values, of one kind or of kinds that can be compared. -/
def agrees : (kind : Kind) → kind.Value → (other : Kind) → other.Value → Bool
  | .pointer _ target, p, other, y => agrees target p.target other y
  | .unit, _, other, y => match bare other y with
    | ⟨.unit, _⟩ => true
    | _ => false
  | .bool, a, other, y => match bare other y with
    | ⟨.bool, b⟩ => a == b
    | ⟨.json, document⟩ => document.isBool a
    | _ => false
  | .char, c, other, y => match bare other y with
    | ⟨.char, d⟩ => c == d
    | _ => false
  | .int, m, other, y => match bare other y with
    | ⟨.int, n⟩ => m == n
    | ⟨.json, document⟩ => document.isInteger m
    | _ => false
  | .float format, x, other, y => match bare other y with
    | ⟨.float format', x'⟩ => if h : format' = format then x.equal (h ▸ x') else false
    | ⟨.json, document⟩ => document.isReal x
    | _ => false
  | .text, s, other, y => match bare other y with
    | ⟨.text, t⟩ => s == t
    | ⟨.json, document⟩ => document.text? == some s
    | _ => false
  | .json, document, other, y => match bare other y with
    | ⟨.json, document'⟩ => document.equal document'
    | ⟨.text, t⟩ => document.text? == some t
    | ⟨.int, n⟩ => document.isInteger n
    | ⟨.float _, x⟩ => document.isReal x
    | ⟨.bool, b⟩ => document.isBool b
    | _ => false
  | .structured, v, other, y => match bare other y with
    | ⟨.structured, w⟩ => v.equal w
    | _ => false
  | .option item, v, other, y => match bare other y with
    | ⟨.option item', w⟩ => match v, w with
      | none, none => true
      | some a, some b => agrees item a item' b
      | _, _ => false
    | _ => false
  | .sequence _ item, xs, other, y => match bare other y with
    | ⟨.sequence _ item', ys⟩ => equalEach (fun a b => agrees item a item' b) xs ys
    | _ => false
  | .set .hashed item, xs, other, y => match bare other y with
    | ⟨.set .hashed item', ys⟩ => equalUnordered (fun a b => agrees item a item' b) xs ys
    | _ => false
  | .set .sorted item, xs, other, y => match bare other y with
    | ⟨.set .sorted item', ys⟩ => equalEach (fun a b => agrees item a item' b) xs ys
    | _ => false
  | .map .hashed key value, xs, other, y => match bare other y with
    | ⟨.map .hashed key' value', ys⟩ =>
      equalUnordered (fun a b => agrees key a.1 key' b.1 && agrees value a.2 value' b.2) xs ys
    | _ => false
  | .map .sorted key value, xs, other, y => match bare other y with
    | ⟨.map .sorted key' value', ys⟩ =>
      equalEach (fun a b => agrees key a.1 key' b.1 && agrees value a.2 value' b.2) xs ys
    | _ => false
  | .tuple more part, v, other, y => match bare other y with
    | ⟨.tuple more' part', w⟩ =>
      if h : more + 1 = more' + 1 then
        equalRow (fun i a b => agrees (part i) a (part' (i.cast h)) b) v fun i => w (i.cast h)
      else false
    | _ => false

/-- Equality of two values of one kind. -/
def equal (kind : Kind) (x y : kind.Value) : Bool :=
  agrees kind x kind y

end Kind

end Attest
