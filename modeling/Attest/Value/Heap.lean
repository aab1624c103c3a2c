import Attest.Value.Kind

/-!
# Heaps

A heap holds objects, each at a place of its own even where two of them are equal. A pointer leads
to a whole object or to a range of the parts of one, and carries what lies there. Ranges of a text
are measured in bytes. How objects lie to one another is left open: an empty range at the end of one is
kept apart from an empty range at the start of another, though the two may lie at one address.
-/

namespace Attest

/-- Objects at places of their own. -/
structure Heap (α : Type) where
  objects : List α
deriving DecidableEq, Repr

namespace Heap

variable {α : Type}

/-- The pointer to a whole object. -/
def object? (heap : Heap α) (place : Nat) : Option (Pointer α) :=
  heap.objects[place]?.map fun object => ⟨.object place, object⟩

/-- The location of a range in an object with a number of parts. -/
def rangeLocation (place size start stop : Nat) : Location :=
  if size = 0 then .nowhere else .range place start (stop - start)

/-- The pointer to the items of an object from a start up to a stop. -/
def items? (heap : Heap (List α)) (place start stop : Nat) : Option (Pointer (List α)) := do
  let items ← heap.objects[place]?
  if start ≤ stop ∧ stop ≤ items.length then
    some ⟨rangeLocation place items.length start stop, (items.take stop).drop start⟩
  else none

/-- Splits a text after a number of bytes, if a character ends there. -/
def splitAtByte? : Nat → List Char → Option (List Char × List Char)
  | 0, s => some ([], s)
  | _ + 1, [] => none
  | n + 1, c :: s =>
    if c.utf8Size ≤ n + 1 then
      (splitAtByte? (n + 1 - c.utf8Size) s).map fun (front, back) => (c :: front, back)
    else none

/-- The pointer to the part of a text from a start up to a stop. -/
def text? (heap : Heap String) (place start stop : Nat) : Option (Pointer String) := do
  let text ← heap.objects[place]?
  let (front, _) ← splitAtByte? stop text.toList
  let (_, part) ← if start ≤ stop then splitAtByte? start front else none
  return ⟨rangeLocation place text.utf8ByteSize start stop, .ofList part⟩

end Heap

end Attest
