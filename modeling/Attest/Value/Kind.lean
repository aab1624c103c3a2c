import Attest.Json.Document
import Attest.Value.Structured

/-!
# Kinds of values

A kind describes the values of one type, and `Value` gives them. Text has one kind: owned, borrowed
and shared text differ only in the pointers around it. Integers of all widths have one kind too, for
nothing asked of them here depends on the width.
-/

namespace Attest

open Number (FloatFormat Floating)

/-- How a sequence is held. -/
inductive SequenceForm where
  | slice
  | vector
  | deque
  | array (size : Nat)
deriving DecidableEq, Repr

/-- How the elements of a set or the keys of a map are held: without order, or sorted. -/
inductive Arrangement where
  | hashed
  | sorted
deriving DecidableEq, Repr

/-- How a pointer holds its target: alone, in common with others, or borrowed. -/
inductive PointerForm where
  | owned
  | shared
  | sharedAcross
  | borrowed
deriving DecidableEq, Repr

/-- A kind of values. A tuple has a first part and may have more, each of a kind of its own. -/
inductive Kind where
  | unit
  | bool
  | char
  | int
  | float (format : FloatFormat)
  | text
  | json
  | structured
  | option (item : Kind)
  | sequence (form : SequenceForm) (item : Kind)
  | set (arrangement : Arrangement) (item : Kind)
  | map (arrangement : Arrangement) (key value : Kind)
  | tuple (more : Nat) (part : Fin (more + 1) → Kind)
  | pointer (form : PointerForm) (target : Kind)

namespace Kind

/-- Whether two kinds are one. -/
def isKind : Kind → Kind → Bool
  | .unit, .unit | .bool, .bool | .char, .char | .int, .int | .text, .text | .json, .json
  | .structured, .structured => true
  | .float format, .float format' => format == format'
  | .option item, .option item' => isKind item item'
  | .sequence form item, .sequence form' item' => form == form' && isKind item item'
  | .set arrangement item, .set arrangement' item' =>
    arrangement == arrangement' && isKind item item'
  | .map arrangement key value, .map arrangement' key' value' =>
    arrangement == arrangement' && isKind key key' && isKind value value'
  | .tuple more part, .tuple more' part' =>
    if h : more + 1 = more' + 1 then
      (List.finRange (more + 1)).all fun i => isKind (part i) (part' (i.cast h))
    else false
  | .pointer form target, .pointer form' target' => form == form' && isKind target target'
  | _, _ => false

theorem isKind_iff (kind other : Kind) : isKind kind other = true ↔ kind = other := by
  induction kind generalizing other with
  | tuple more part ih =>
    cases other with
    | tuple more' part' =>
      rw [isKind]
      split
      · rename_i h
        obtain rfl := Nat.succ.inj h
        simp [ih, funext_iff]
      · rename_i h
        refine iff_of_false Bool.false_ne_true fun heq => h ?_
        rw [(Kind.tuple.inj heq).1]
    | _ => simp [isKind]
  | _ => cases other <;> simp [isKind, *, and_assoc]

instance : DecidableEq Kind := fun kind other => decidable_of_iff _ (isKind_iff kind other)

end Kind

/-- Where a value lies. A range of parts is measured from the first part of its object. The range of
an object without parts lies nowhere, for there is nothing to store. -/
inductive Location where
  | object (place : Nat)
  | range (place start length : Nat)
  | nowhere
deriving DecidableEq, Repr

/-- A pointer to a value at a location. -/
structure Pointer (α : Type) where
  location : Location
  target : α

/-- The values of a kind. Sets hold each element once and maps each key once. -/
@[reducible] def Kind.Value : Kind → Type
  | .unit => Unit
  | .bool => Bool
  | .char => Char
  | .int => Int
  | .float format => Floating format
  | .text => String
  | .json => Json
  | .structured => Structured
  | .option item => Option item.Value
  | .sequence _ item => List item.Value
  | .set _ item => List item.Value
  | .map _ key value => List (key.Value × value.Value)
  | .tuple more part => (i : Fin (more + 1)) → (part i).Value
  | .pointer _ target => Pointer target.Value

namespace Kind

/-- A value of some kind. -/
abbrev Any : Type := (kind : Kind) × kind.Value

/-- What a value is behind the pointers around it. -/
def bare : (kind : Kind) → kind.Value → Any
  | .pointer _ target, p => bare target p.target
  | .unit, v => ⟨.unit, v⟩
  | .bool, v => ⟨.bool, v⟩
  | .char, v => ⟨.char, v⟩
  | .int, v => ⟨.int, v⟩
  | .float format, v => ⟨.float format, v⟩
  | .text, v => ⟨.text, v⟩
  | .json, v => ⟨.json, v⟩
  | .structured, v => ⟨.structured, v⟩
  | .option item, v => ⟨.option item, v⟩
  | .sequence form item, v => ⟨.sequence form item, v⟩
  | .set arrangement item, v => ⟨.set arrangement item, v⟩
  | .map arrangement key value, v => ⟨.map arrangement key value, v⟩
  | .tuple more part, v => ⟨.tuple more part, v⟩

end Kind

end Attest
