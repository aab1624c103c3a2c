import Attest.Registry.Basic
import Mathlib.Data.List.Infix
import Mathlib.Data.List.TakeWhile

/-!
# Declared names of callables

The type of a callable goes by the path of a function, by the path of a closure or by the signature
of a function pointer. The parts of a path may carry arguments in angle brackets, and a part without
a name stands for a qualified type. The identifier is read off what stands before the first angle
bracket of all. So it is the declared name where no part before the last one carries arguments, but
a method of a generic type goes by the name of the type, and one of a qualified type by the empty
name. Closures are always recognised, function pointers only where nothing precedes the signature.
-/

namespace Attest.Registry

/-- None of the characters ends a name or opens the parameters of a signature. -/
def IsPlain (s : List Char) : Prop :=
  ∀ c ∈ s, c ∉ [':', '<', '(']

instance (s : List Char) : Decidable (IsPlain s) :=
  List.decidableBAll (fun c => c ∉ [':', '<', '(']) s

/-- A name, and what stands between angle brackets behind it. -/
structure PathPart where
  name : List Char
  arguments : Option (List Char)
  plain : IsPlain name

namespace PathPart

def text (part : PathPart) : List Char :=
  part.name ++ match part.arguments with
    | none => []
    | some arguments => '<' :: arguments ++ ['>']

/-- The part that stands for a closure. -/
def closure : PathPart := ⟨closureMark.toList, none, by decide⟩

variable (part : PathPart)

theorem notMem_name {c : Char} (hc : c ∈ [':', '<', '(']) : c ∉ part.name :=
  fun h => part.plain c h hc

theorem takeWhile_name (rest : List Char) :
    (part.name ++ rest).takeWhile (· != '<') = part.name ++ rest.takeWhile (· != '<') := by
  refine List.takeWhile_append_of_pos fun c hc => ?_
  have hne : c ≠ '<' := fun h => part.notMem_name (c := '<') (by decide) (h ▸ hc)
  simpa using hne

end PathPart

/-- The parts of a path with double colons between them. -/
def pathText : List PathPart → PathPart → List Char
  | [], last => last.text
  | part :: parts, last => part.text ++ ':' :: ':' :: pathText parts last

/-- The part in which the first angle bracket of a path opens, or else the last one. -/
def firstGeneric (qualifiers : List PathPart) (last : PathPart) : PathPart :=
  (qualifiers.find? fun part => part.arguments.isSome).getD last

/-- The name of a callable's type. -/
inductive TypeName where
  | function (qualifiers : List PathPart) (last : PathPart)
  | closure (references : Nat) (qualifiers : List PathPart)
  | pointer (references : Nat) (convention : Option (List Char)) (signature : List Char)

namespace TypeName

def text : TypeName → List Char
  | function qualifiers last => pathText qualifiers last
  | closure references qualifiers =>
    List.replicate references '&' ++ pathText qualifiers PathPart.closure
  | pointer references convention signature =>
    List.replicate references '&' ++ (match convention with
      | none => []
      | some convention => "extern ".toList ++ '"' :: convention ++ ['"', ' ']) ++
      "fn(".toList ++ signature

/-- The name under which a callable was declared. -/
def declared : TypeName → String
  | function _ last => .ofList last.name
  | closure _ _ | pointer _ _ _ => anonymous

/-- The declared name is what stands before the first angle bracket. -/
def IsReadable : TypeName → Prop
  | function qualifiers last =>
    ¬ closureMark.toList <:+: pathText qualifiers last ∧
      (firstGeneric qualifiers last).name = last.name
  | closure _ _ => True
  | pointer references convention signature =>
    (references = 0 ∧ convention = none) ∨
      closureMark.toList <:+: (pointer references convention signature).text

end TypeName

/-! ## Segments -/

theorem lastSegment_of_notMem {name : List Char} (h : ':' ∉ name) : lastSegment name = name := by
  cases name with
  | nil => rfl
  | cons c rest =>
    have hrest : Text.occursIn [':', ':'] rest = false := by
      rw [← Bool.not_eq_true, Text.occursIn_iff_isInfix]
      exact fun hin => h (List.mem_cons_of_mem c (hin.subset List.mem_cons_self))
    have hc : c ≠ ':' := fun hc => h (hc ▸ List.mem_cons_self)
    unfold lastSegment
    simp [hrest, hc]

theorem lastSegment_append {name : List Char} (h : ':' ∉ name) (front : List Char) :
    lastSegment (front ++ ':' :: ':' :: name) = name := by
  induction front with
  | nil =>
    have hrest : Text.occursIn [':', ':'] (':' :: name) = false := by
      rw [← Bool.not_eq_true, Text.occursIn_iff_isInfix, List.infix_cons_iff]
      rintro (hfirst | hlater)
      · have htail := (List.cons_prefix_cons.mp hfirst).2
        exact h (htail.subset List.mem_cons_self)
      · exact h (hlater.subset List.mem_cons_self)
    simp [lastSegment, hrest]
  | cons c front ih =>
    have hrest : Text.occursIn [':', ':'] (front ++ ':' :: ':' :: name) = true :=
      (Text.occursIn_iff_isInfix _ _).mpr ⟨front, name, by simp⟩
    unfold lastSegment
    rw [List.cons_append]
    simp [hrest, ih]

theorem lastSegment_isSuffix (s : List Char) : lastSegment s <:+ s := by
  fun_induction lastSegment s with
  | case1 => exact List.suffix_refl _
  | case2 c rest hrest ih => exact ih.trans (List.suffix_cons c rest)
  | case3 segment hrest => exact (List.suffix_cons _ _).trans (List.suffix_cons _ _)
  | case4 c rest hrest hcolons => exact List.suffix_refl _

/-- Up to the first angle bracket a path ends in the name of the part in which it opens. -/
theorem takeWhile_pathText (qualifiers : List PathPart) (last : PathPart) :
    ∃ front, (pathText qualifiers last).takeWhile (· != '<') =
        front ++ (firstGeneric qualifiers last).name ∧
      (front = [] ∨ ∃ before, front = before ++ [':', ':']) := by
  induction qualifiers with
  | nil =>
    refine ⟨[], ?_, Or.inl rfl⟩
    rw [pathText, PathPart.text, PathPart.takeWhile_name]
    cases h : last.arguments <;> simp [firstGeneric]
  | cons part parts ih =>
    rw [pathText, PathPart.text]
    cases h : part.arguments with
    | some arguments =>
      refine ⟨[], ?_, Or.inl rfl⟩
      rw [List.append_assoc, PathPart.takeWhile_name]
      simp [firstGeneric, h]
    | none =>
      obtain ⟨front, hfront, hend⟩ := ih
      have hgeneric : firstGeneric (part :: parts) last = firstGeneric parts last := by
        simp [firstGeneric, h]
      refine ⟨part.name ++ ':' :: ':' :: front, ?_, Or.inr ?_⟩
      · rw [List.append_nil, PathPart.takeWhile_name, hgeneric]
        simp [hfront]
      · rcases hend with rfl | ⟨before, rfl⟩
        · exact ⟨part.name, rfl⟩
        · exact ⟨part.name ++ ':' :: ':' :: before, by simp⟩

theorem lastSegment_pathText (qualifiers : List PathPart) (last : PathPart) :
    lastSegment ((pathText qualifiers last).takeWhile (· != '<')) =
      (firstGeneric qualifiers last).name := by
  obtain ⟨front, hfront, hend⟩ := takeWhile_pathText qualifiers last
  have hname := (firstGeneric qualifiers last).notMem_name (c := ':') (by decide)
  rw [hfront]
  rcases hend with rfl | ⟨before, rfl⟩
  · exact lastSegment_of_notMem hname
  · rw [List.append_assoc]
    exact lastSegment_append hname before

/-! ## Marks of callables without a name -/

theorem isAnonymous_iff (s : List Char) :
    isAnonymous (.ofList s) = true ↔ closureMark.toList <:+: s ∨ "fn(".toList <+: s := by
  rw [isAnonymous, Bool.or_eq_true, Text.contains, Text.occursIn_iff_isInfix,
    List.isPrefixOf_iff_prefix, String.toList_ofList]

/-- Whether a character ends a name or opens the parameters of a signature. -/
def isMark (c : Char) : Bool :=
  [':', '<', '('].contains c

theorem PathPart.find?_isMark (part : PathPart) : part.name.find? isMark = none := by
  rw [List.find?_eq_none]
  intro c hc hmark
  exact part.plain c hc (List.contains_iff_mem.mp hmark)

/-- The first colon or bracket of a path is no round one, so no path begins like a signature. -/
theorem not_prefix_pathText (qualifiers : List PathPart) (last : PathPart) :
    ¬ "fn(".toList <+: pathText qualifiers last := by
  rintro ⟨signature, hsignature⟩
  have hround : (pathText qualifiers last).find? isMark = some '(' := by
    rw [← hsignature]
    rfl
  cases qualifiers with
  | nil =>
    rw [pathText, PathPart.text, List.find?_append, PathPart.find?_isMark] at hround
    cases h : last.arguments <;> simp [h, isMark] at hround
  | cons part parts =>
    rw [pathText, PathPart.text, List.append_assoc, List.find?_append, PathPart.find?_isMark] at hround
    cases h : part.arguments <;> simp [h, isMark] at hround

theorem closureMark_isSuffix (qualifiers : List PathPart) :
    closureMark.toList <:+ pathText qualifiers PathPart.closure := by
  induction qualifiers with
  | nil => exact ⟨[], by simp [pathText, PathPart.text, PathPart.closure]⟩
  | cons part parts ih =>
    refine ih.trans ⟨part.text ++ [':', ':'], ?_⟩
    simp [pathText]

/-- An identifier that is read off has no angle bracket, so it is not the one of callables without a
name. -/
theorem identifier_eq_anonymous_iff (s : List Char) :
    identifier (.ofList s) = anonymous ↔ isAnonymous (.ofList s) = true := by
  rw [identifier]
  split
  · simp [*]
  · refine ⟨fun h => ?_, fun h => absurd h ‹_›⟩
    have hsegment := congrArg String.toList h
    rw [String.toList_ofList, String.toList_ofList] at hsegment
    have hbracket : '<' ∈ lastSegment (s.takeWhile (· != '<')) := by
      rw [hsegment]
      decide
    have hkept := List.mem_takeWhile_imp ((lastSegment_isSuffix _).subset hbracket)
    cases hkept

/-- The identifier of a path is the name of the part in which the first angle bracket opens. -/
theorem identifier_pathText {qualifiers : List PathPart} {last : PathPart}
    (h : ¬ closureMark.toList <:+: pathText qualifiers last) :
    identifier (.ofList (pathText qualifiers last)) =
      .ofList (firstGeneric qualifiers last).name := by
  have hnamed : ¬ isAnonymous (.ofList (pathText qualifiers last)) = true := by
    rw [isAnonymous_iff]
    exact fun hmark => hmark.elim h (not_prefix_pathText qualifiers last)
  rw [identifier, if_neg hnamed, String.toList_ofList, lastSegment_pathText]

/-! ## Recorded identifiers -/

theorem identifier_function_iff (qualifiers : List PathPart) (last : PathPart) :
    identifier (.ofList (pathText qualifiers last)) = .ofList last.name ↔
      (TypeName.function qualifiers last).IsReadable := by
  by_cases h : closureMark.toList <:+: pathText qualifiers last
  · have hanonymous := (identifier_eq_anonymous_iff _).mpr
      ((isAnonymous_iff (pathText qualifiers last)).mpr (Or.inl h))
    refine ⟨fun hname => ?_, fun hreadable => absurd h hreadable.1⟩
    have hlast : '<' ∈ last.name := by
      rw [← String.toList_ofList (l := last.name), ← hname, hanonymous]
      decide
    exact absurd hlast (last.notMem_name (by decide))
  · rw [identifier_pathText h, String.ofList_inj]
    exact ⟨fun hname => ⟨h, hname⟩, And.right⟩

theorem identifier_closure (references : Nat) (qualifiers : List PathPart) :
    identifier (.ofList (TypeName.closure references qualifiers).text) = anonymous := by
  rw [identifier_eq_anonymous_iff, isAnonymous_iff]
  exact Or.inl ((closureMark_isSuffix qualifiers).isInfix.trans (List.suffix_append _ _).isInfix)

theorem identifier_pointer_iff (references : Nat) (convention : Option (List Char))
    (signature : List Char) :
    identifier (.ofList (TypeName.pointer references convention signature).text) = anonymous ↔
      (TypeName.pointer references convention signature).IsReadable := by
  rw [identifier_eq_anonymous_iff, isAnonymous_iff, TypeName.IsReadable, or_comm]
  refine or_congr ⟨fun h => ?_, ?_⟩ Iff.rfl
  · -- a reference or a calling convention would be the first character
    cases references with
    | zero =>
      cases convention with
      | none => exact ⟨rfl, rfl⟩
      | some convention => simp [TypeName.text] at h
    | succ references => simp [TypeName.text, List.replicate_succ] at h
  · rintro ⟨rfl, rfl⟩
    exact ⟨signature, rfl⟩

/-- A callable is recorded under its declared name, or as one that has none, exactly when that is
what stands before the first angle bracket of its type's name. This is so of every function on whose
path no part but the last one carries arguments, if no closure is named in it, of every closure, and
of every function pointer without a reference or a calling convention in front. -/
theorem records_declared_iff (typeName : TypeName) (registry : Registry) (body : TestBody) :
    let callable : Callable := ⟨.ofList typeName.text, body⟩
    let recorded : RegisteredTest := .ofBody typeName.declared typeName.declared body
    (identifier callable.typeName = typeName.declared ↔ typeName.IsReadable) ∧
    ((registry.test callable).tests = registry.tests ++ [recorded] ↔ typeName.IsReadable) ∧
    ((registry.apply (.ofOptions ⟨none⟩) callable).tests = registry.tests ++ [recorded] ↔
      typeName.IsReadable) := by
  intro callable recorded
  have hidentifier : identifier callable.typeName = typeName.declared ↔ typeName.IsReadable := by
    cases typeName with
    | function qualifiers last => exact identifier_function_iff qualifiers last
    | closure references qualifiers =>
      exact iff_of_true (identifier_closure references qualifiers) trivial
    | pointer references convention signature =>
      exact identifier_pointer_iff references convention signature
  have hrecorded : (registry.test callable).tests = registry.tests ++ [recorded] ↔
      typeName.IsReadable := by
    rw [← hidentifier, Registry.test, tests_register, List.append_cancel_left_eq]
    simp [RegisteredTest.ofBody, recorded, callable]
  -- without a name of its own a decorator registers as `test` does
  exact ⟨hidentifier, hrecorded, hrecorded⟩

/-- A method of a generic type goes by the name of the type, a method of a trait by no name, and a
pointer behind a reference by the name of what the function returns. -/
theorem method_goes_by_type :
    let method : TypeName := .function [⟨"m".toList, none, by decide⟩,
      ⟨"S".toList, some "a::B".toList, by decide⟩] ⟨"check".toList, none, by decide⟩
    let traitMethod : TypeName := .function [⟨[], some "m::S as m::T".toList, by decide⟩]
      ⟨"check".toList, none, by decide⟩
    let reference : TypeName :=
      .pointer 1 none ") -> core::result::Result<(), anyhow::Error>".toList
    (method.text = "m::S<a::B>::check".toList ∧ method.declared = "check" ∧
      identifier (.ofList method.text) = "S") ∧
    (traitMethod.text = "<m::S as m::T>::check".toList ∧ traitMethod.declared = "check" ∧
      identifier (.ofList traitMethod.text) = "") ∧
    (reference.text = "&fn() -> core::result::Result<(), anyhow::Error>".toList ∧
      reference.declared = anonymous ∧ identifier (.ofList reference.text) = "Result") := by
  decide

end Attest.Registry
