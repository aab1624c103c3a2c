import Attest.Value.Equality
import Attest.Value.Order

/-!
# Building and searching sets and maps

Sets and maps are built from lists: an element or key that is already there is not added again, and
a later value for a key replaces the earlier one. A sorted collection keeps its order while it is
built, and a search in it ends where the item would have been.
-/

namespace Attest

variable {α β : Type}

/-- Adds an element to a collection without order. -/
def insertHashed (equal : α → α → Bool) (x : α) : List α → List α
  | [] => [x]
  | y :: ys => if equal x y then y :: ys else y :: insertHashed equal x ys

/-- Adds an element to a sorted collection. -/
def insertSorted (compare? : α → α → Option Ordering) (x : α) : List α → List α
  | [] => [x]
  | y :: ys =>
    match compare? x y with
    | some .lt => x :: y :: ys
    | some .eq => y :: ys
    | _ => y :: insertSorted compare? x ys

/-- Puts a value under a key of a map without order. -/
def putHashed (equal : α → α → Bool) (key : α) (value : β) : List (α × β) → List (α × β)
  | [] => [(key, value)]
  | (k, v) :: entries =>
    if equal key k then (k, value) :: entries else (k, v) :: putHashed equal key value entries

/-- Puts a value under a key of a sorted map. -/
def putSorted (compare? : α → α → Option Ordering) (key : α) (value : β) :
    List (α × β) → List (α × β)
  | [] => [(key, value)]
  | (k, v) :: entries =>
    match compare? key k with
    | some .lt => (key, value) :: (k, v) :: entries
    | some .eq => (k, value) :: entries
    | _ => (k, v) :: putSorted compare? key value entries

/-- Whether a sorted collection has an element; the search ends at the first larger one. -/
def hasSorted (compare? : α → α → Option Ordering) (x : α) : List α → Bool
  | [] => false
  | y :: ys =>
    match compare? x y with
    | some .lt => false
    | some .eq => true
    | _ => hasSorted compare? x ys

namespace Kind

/-- The set of the elements of a list. -/
def setOf (arrangement : Arrangement) (item : Kind) (xs : List item.Value) :
    (Kind.set arrangement item).Value :=
  match arrangement with
  | .hashed => xs.foldl (fun done x => insertHashed item.equal x done) []
  | .sorted => xs.foldl (fun done x => insertSorted item.compare? x done) []

/-- The map of a list of entries. -/
def mapOf (arrangement : Arrangement) (key value : Kind)
    (entries : List (key.Value × value.Value)) :
    (Kind.map arrangement key value).Value :=
  match arrangement with
  | .hashed => entries.foldl (fun done (k, v) => putHashed key.equal k v done) []
  | .sorted => entries.foldl (fun done (k, v) => putSorted key.compare? k v done) []

/-- Whether an element is one of a set's, or a key one of a map's. -/
def hasElement (arrangement : Arrangement) (item : Kind) (x : item.Value) (xs : List item.Value) :
    Bool :=
  match arrangement with
  | .hashed => xs.any fun y => item.equal y x
  | .sorted => hasSorted item.compare? x xs

end Kind

end Attest
