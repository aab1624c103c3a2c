import Attest.Number.Floating
import Attest.Text.Order

/-!
# Values of declared types

Records, and variants with positional or labelled parts, as a program declares them. A part is a
number, a text, an optional part, a list of parts, or again such a value. Two values compare by the
position of their variant in its declaration and then part by part; the comparison ends at the first
difference, and has no result when that lies at a floating-point value that is no number.
-/

namespace Attest

/-- A value of a declared type, or a part of one. -/
inductive Structured where
  | integer (n : Int)
  | real (x : Number.Floating .double)
  | text (s : String)
  | absent
  | present (part : Structured)
  | items (parts : List Structured)
  | positional (position : Nat) (name : String) (parts : List Structured)
  | labelled (position : Nat) (name : String) (parts : List (String × Structured))

namespace Structured

mutual

def equal : Structured → Structured → Bool
  | integer m, integer n => m == n
  | real x, real y => x.equal y
  | text s, text t => s == t
  | absent, absent => true
  | present x, present y => equal x y
  | items xs, items ys => equalParts xs ys
  | positional i _ xs, positional j _ ys => i == j && equalParts xs ys
  | labelled i _ xs, labelled j _ ys => i == j && equalLabelled xs ys
  | _, _ => false

def equalParts : List Structured → List Structured → Bool
  | [], [] => true
  | x :: xs, y :: ys => equal x y && equalParts xs ys
  | _, _ => false

def equalLabelled : List (String × Structured) → List (String × Structured) → Bool
  | [], [] => true
  | (_, x) :: xs, (_, y) :: ys => equal x y && equalLabelled xs ys
  | _, _ => false

end

mutual

/-- The order of two values of one type. -/
def compare? : Structured → Structured → Option Ordering
  | integer m, integer n => some (compare m n)
  | real x, real y => x.compare? y
  | text s, text t => some (Text.compare s t)
  | absent, absent => some .eq
  | absent, present _ => some .lt
  | present _, absent => some .gt
  | present x, present y => compare? x y
  | items xs, items ys => compareParts? xs ys
  | positional i _ xs, positional j _ ys =>
    match compare i j with
    | .eq => compareParts? xs ys
    | order => some order
  | labelled i _ xs, labelled j _ ys =>
    match compare i j with
    | .eq => compareLabelled? xs ys
    | order => some order
  | positional i _ _, labelled j _ _ | labelled i _ _, positional j _ _ =>
    match compare i j with
    | .eq => none
    | order => some order
  | _, _ => none

def compareParts? : List Structured → List Structured → Option Ordering
  | [], [] => some .eq
  | [], _ :: _ => some .lt
  | _ :: _, [] => some .gt
  | x :: xs, y :: ys =>
    match compare? x y with
    | some .eq => compareParts? xs ys
    | order => order

def compareLabelled? :
    List (String × Structured) → List (String × Structured) → Option Ordering
  | [], [] => some .eq
  | [], _ :: _ => some .lt
  | _ :: _, [] => some .gt
  | (_, x) :: xs, (_, y) :: ys =>
    match compare? x y with
    | some .eq => compareLabelled? xs ys
    | order => order

end

end Structured

end Attest
