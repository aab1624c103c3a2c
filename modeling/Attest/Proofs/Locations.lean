import Attest.Files.FileSystem

/-!
# Locations and their paths

What a path leads to has a path of its own, on which no link stands, and that path leads there
again. All that lies above it are directories. A name in one of them leads on from there alone, and
the parent of its path is the path of the directory.
-/

namespace Attest

open Attest.Path (Step)

namespace Path

/-- Whether a text may name an entry of a directory. -/
def IsName (name : String) : Prop :=
  name.toList ≠ [] ∧ name.toList ≠ ['.'] ∧ name.toList ≠ ['.', '.'] ∧ '/' ∉ name.toList

instance (name : String) : Decidable (IsName name) :=
  inferInstanceAs (Decidable (_ ∧ _ ∧ _ ∧ _))

theorem notMem_of_mem_splitOn {text piece : List Char} (h : piece ∈ text.splitOn '/') :
    '/' ∉ piece := by
  induction text generalizing piece with
  | nil =>
    rw [List.splitOn_nil, List.mem_singleton] at h
    exact h ▸ List.not_mem_nil
  | cons c text ih =>
    rw [List.splitOn_cons_eq_if_modifyHead] at h
    split at h
    · rcases List.mem_cons.mp h with rfl | hp
      · exact List.not_mem_nil
      · exact ih hp
    · rename_i hc
      obtain ⟨first, others, hp⟩ := List.exists_cons_of_ne_nil (List.splitOn_ne_nil '/' text)
      have hfirst := ih (hp ▸ List.mem_cons_self)
      have hslash : '/' ≠ c := fun heq => hc (beq_iff_eq.mpr heq.symm)
      rw [hp, List.modifyHead_cons] at h
      rcases List.mem_cons.mp h with rfl | ho
      · exact mt List.mem_cons.mp (not_or.mpr ⟨hslash, hfirst⟩)
      · exact ih (hp ▸ List.mem_cons_of_mem _ ho)

theorem ofPiece_of_isName {name : String} (h : IsName name) :
    Step.ofPiece name.toList = .down name := by
  obtain ⟨hempty, hdot, hdots, -⟩ := h
  simp [Step.ofPiece, hempty, hdot, hdots]

/-- The steps of a path lead down to names only. -/
theorem isName_of_mem_steps {path : Path} {name : String} (h : .down name ∈ path.steps) :
    IsName name := by
  obtain ⟨piece, hp, hs⟩ := List.mem_map.mp h
  rw [Step.ofPiece] at hs
  split at hs
  · cases hs
  · rename_i hstay
    split at hs
    · cases hs
    · rename_i hup
      cases hs
      obtain ⟨hempty, hdot⟩ := not_or.mp hstay
      simpa [IsName, hempty, hdot, hup] using notMem_of_mem_splitOn hp

/-- A name keeps a path from being trimmed any further. -/
theorem trimReversed_name {name : String} (h : IsName name) (isAbsolute : Bool)
    (before : List Char) :
    trimReversed isAbsolute (name.toList.reverse ++ '/' :: before) =
      name.toList.reverse ++ '/' :: before := by
  obtain ⟨hempty, hdot, -, hslash⟩ := h
  have hslash' : '/' ∉ name.toList.reverse := mt List.mem_reverse.mp hslash
  have hdot' : name.toList.reverse ≠ ['.'] := mt (List.reverse_eq_iff.mp ·) hdot
  cases hr : name.toList.reverse with
  | nil => exact absurd (List.reverse_eq_nil_iff.mp hr) hempty
  | cons c others =>
    rw [hr] at hslash' hdot'
    obtain ⟨hc, hothers⟩ := not_or.mp (mt List.mem_cons.mpr hslash')
    apply trimReversed.eq_4
    · intro heq
      exact hc (List.cons.inj heq).1.symm
    · intro rest heq
      exact hc (List.cons.inj heq).1.symm
    · intro rest heq
      cases others with
      | nil => exact hdot' (congrArg (· :: []) (List.cons.inj heq).1)
      | cons d others =>
        have hd := (List.cons.inj (List.cons.inj heq).2).1
        exact hothers (hd ▸ List.mem_cons_self)

end Path

namespace FileSystem

open Attest.Path (IsName)

namespace Location

/-- The characters of the path of a location below the root. -/
def spelled : Location → List Char
  | [] => []
  | name :: outer => spelled outer ++ '/' :: name.toList

theorem spelled_eq (location : Location) :
    spelled location = (location.reverse.map ("/" ++ ·)).flatMap String.toList := by
  induction location with
  | nil => rfl
  | cons name outer ih =>
    simp [spelled, ih, List.flatMap_append]

theorem toList_path_cons (name : String) (outer : Location) :
    (path (name :: outer)).text.toList = spelled outer ++ '/' :: name.toList := by
  rw [← spelled, spelled_eq, path, String.toList_join]
  simp

theorem head?_spelled_append (location : Location) (rest : List Char) :
    (spelled location ++ '/' :: rest).head? = some '/' := by
  induction location generalizing rest with
  | nil => rfl
  | cons name outer ih =>
    rw [spelled, List.append_assoc]
    exact ih (name.toList ++ '/' :: rest)

theorem isAbsolute_path (location : Location) : location.path.isAbsolute = true := by
  cases location with
  | nil => rfl
  | cons name outer =>
    rw [Path.isAbsolute, toList_path_cons, head?_spelled_append]
    rfl

theorem isEmpty_path (location : Location) : location.path.isEmpty = false := by
  cases location with
  | nil => rfl
  | cons name outer => simp [Path.isEmpty, toList_path_cons]

theorem splitOn_spelled {location : Location} (h : ∀ name ∈ location, IsName name) :
    (spelled location).splitOn '/' = [] :: location.reverse.map String.toList := by
  induction location with
  | nil => rfl
  | cons name outer ih =>
    obtain ⟨hname, houter⟩ := List.forall_mem_cons.mp h
    rw [spelled, List.splitOn_append_cons_self, ih houter, List.splitOn_eq_singleton hname.2.2.2]
    simp

/-- The path of a location leads down to it by its names. -/
theorem steps_path_cons {name : String} {outer : Location}
    (h : ∀ inner ∈ name :: outer, IsName inner) :
    (path (name :: outer)).steps = .stay :: (name :: outer).reverse.map .down := by
  have hpiece : ∀ inner ∈ (name :: outer).reverse,
      (Step.ofPiece ∘ String.toList) inner = .down inner :=
    fun inner hinner => Path.ofPiece_of_isName (h inner (List.mem_reverse.mp hinner))
  rw [Path.steps, toList_path_cons, ← spelled, splitOn_spelled h, List.map_cons, List.map_map,
    List.map_congr_left hpiece]
  rfl

/-- What the path of a name in a directory spells as its parent is the path of the directory. -/
theorem parent_path_cons {name : String} {outer : Location}
    (h : ∀ inner ∈ name :: outer, IsName inner) : (path (name :: outer)).parent = outer.path := by
  have hname : ∀ c ∈ name.toList.reverse, (c != '/') = true := by
    intro c hc
    have hmem := List.mem_reverse.mp hc
    rw [bne_iff_ne]
    rintro rfl
    exact (h name List.mem_cons_self).2.2.2 hmem
  have hbefore : (path (name :: outer)).text.toList.reverse.dropWhile (· != '/') =
      '/' :: (spelled outer).reverse := by
    rw [toList_path_cons, List.reverse_append, List.reverse_cons, List.append_assoc,
      List.dropWhile_append_of_pos hname]
    rfl
  rw [Path.parent, hbefore, isAbsolute_path]
  cases outer with
  | nil =>
    rw [spelled, List.reverse_nil, Path.trimReversed.eq_1]
    rfl
  | cons inner outer =>
    have hinner : IsName inner := h inner (List.mem_cons_of_mem _ List.mem_cons_self)
    have hspelled : (spelled (inner :: outer)).reverse =
        inner.toList.reverse ++ '/' :: (spelled outer).reverse := by
      simp [spelled]
    rw [Path.trimReversed.eq_2 _ _ (by simp [hspelled]), hspelled, Path.trimReversed_name hinner,
      ← hspelled, List.reverse_reverse, spelled, ← toList_path_cons, String.ofList_toList]

end Location

/-- A location that is reached by directories alone, and is one. -/
def IsDirectory (fs : FileSystem) : Location → Prop
  | [] => True
  | name :: outer =>
    IsName name ∧ fs.entry? (name :: outer) = some .directory ∧ fs.IsDirectory outer

/-- The entry of what is no link. -/
def Target.entry : Target → Entry
  | .directory => .directory
  | .file content => .file content
  | .sealedFile => .sealedFile

/-- Whether something that is no link lies at a location that is reached by directories alone. -/
def Holds (fs : FileSystem) : Location → Target → Prop
  | [], target => target = .directory
  | name :: outer, target =>
    IsName name ∧ fs.entry? (name :: outer) = some target.entry ∧ fs.IsDirectory outer

variable {fs : FileSystem}

theorem holds_directory {location : Location} :
    fs.Holds location .directory ↔ fs.IsDirectory location := by
  cases location with
  | nil => exact iff_of_true rfl trivial
  | cons name outer => rfl

theorem IsDirectory.tail {location : Location} (h : fs.IsDirectory location) :
    fs.IsDirectory location.tail := by
  cases location with
  | nil => exact h
  | cons name outer => exact h.2.2

theorem IsDirectory.of_suffix {inner outer : Location} (h : fs.IsDirectory inner)
    (hs : outer <:+ inner) : fs.IsDirectory outer := by
  induction inner with
  | nil => rwa [List.suffix_nil.mp hs]
  | cons name middle ih =>
    rcases List.suffix_cons_iff.mp hs with rfl | hs
    · exact h
    · exact ih h.2.2 hs

theorem IsDirectory.isName {location : Location} (h : fs.IsDirectory location) :
    ∀ name ∈ location, IsName name := by
  induction location with
  | nil => exact List.forall_mem_nil _
  | cons name outer ih => exact List.forall_mem_cons.mpr ⟨h.1, ih h.2.2⟩

/-- Nothing but one thing lies at a location. -/
theorem Holds.unique {location : Location} {first second : Target}
    (hfirst : fs.Holds location first) (hsecond : fs.Holds location second) : first = second := by
  cases location with
  | nil => exact hfirst.trans hsecond.symm
  | cons name outer =>
    have heq := Option.some.inj (hfirst.2.1.symm.trans hsecond.2.1)
    cases first <;> cases second <;> cases heq <;> rfl

/-- The names of a directory lead from the root to it, whatever follows. -/
theorem follow?_names {location : Location} (h : fs.IsDirectory location) (links : Nat)
    (steps : List Step) :
    fs.follow? links [] (location.reverse.map .down ++ steps) =
      fs.follow? links location steps := by
  induction location generalizing steps with
  | nil => rfl
  | cons name outer ih =>
    rw [List.reverse_cons, List.map_append, List.append_assoc, ih h.2.2, List.map_singleton,
      List.singleton_append, follow?, h.2.1]

/-- The path of a location leads to where its names lead from the root. -/
theorem resolve?_path_eq {location : Location} (h : ∀ name ∈ location, IsName name) :
    fs.resolve? location.path = fs.follow? maximalLinks [] (location.reverse.map .down) := by
  rw [resolve?, Location.isEmpty_path, origin, Location.isAbsolute_path]
  cases location with
  | nil =>
    have hpieces : ['/'].splitOn '/' = [[], []] := rfl
    simp [Location.path, Path.steps, hpieces, Step.ofPiece, follow?]
  | cons name outer =>
    simp only [Bool.false_eq_true, if_false, if_true]
    rw [Location.steps_path_cons h, follow?]

/-- A name leads from a directory to where the path of both leads. -/
theorem resolve?_path_cons {name : String} {outer : Location} (hname : IsName name)
    (h : fs.IsDirectory outer) :
    fs.resolve? (Location.path (name :: outer)) =
      fs.follow? maximalLinks outer [.down name] := by
  rw [resolve?_path_eq (List.forall_mem_cons.mpr ⟨hname, h.isName⟩), List.reverse_cons,
    List.map_append, follow?_names h, List.map_singleton]

/-- No path leads through what is no directory. -/
theorem resolve?_path_cons_eq_none {name : String} {outer : Location} {target : Target}
    (hname : IsName name) (h : fs.Holds outer target) (hne : target ≠ .directory) :
    fs.resolve? (Location.path (name :: outer)) = none := by
  cases outer with
  | nil => exact absurd h hne
  | cons inner outer =>
    have hnames := List.forall_mem_cons.mpr
      ⟨hname, List.forall_mem_cons.mpr ⟨h.1, h.2.2.isName⟩⟩
    rw [resolve?_path_eq hnames, List.reverse_cons, List.reverse_cons, List.append_assoc,
      List.map_append, follow?_names h.2.2]
    simp only [List.singleton_append, List.map_cons, List.map_nil]
    rw [follow?, h.2.1]
    cases target with
    | directory => exact absurd rfl hne
    | file content => rfl
    | sealedFile => rfl

/-- The path of what lies somewhere leads there. -/
theorem resolve?_path {location : Location} {target : Target} (h : fs.Holds location target) :
    fs.resolve? location.path = some (location, target) := by
  cases location with
  | nil =>
    cases h
    rw [resolve?_path_eq (List.forall_mem_nil _), List.reverse_nil, List.map_nil, follow?]
  | cons name outer =>
    rw [resolve?_path_cons h.1 h.2.2, follow?, h.2.1]
    cases target with
    | directory => simp only [Target.entry, follow?]
    | file content => rfl
    | sealedFile => rfl

theorem isDirectory_origin {here : Location} (h : fs.IsDirectory here) (path : Path) :
    fs.IsDirectory (origin path here) := by
  rw [origin]
  split
  · trivial
  · exact h

/-- Steps from a directory lead to a location without links, if they lead anywhere: all that they
come through on the way are directories, and those that a link adds start from one again. -/
theorem holds_of_follow? {links : Nat} {here : Location} {steps : List Step}
    (h : fs.IsDirectory here) (hsteps : ∀ name, .down name ∈ steps → IsName name)
    {location : Location} {target : Target}
    (hf : fs.follow? links here steps = some (location, target)) : fs.Holds location target := by
  fun_induction follow? fs links here steps with
  | case1 links here =>
    cases hf
    exact holds_directory.mpr h
  | case2 links here steps ih =>
    exact ih h (fun name hn => hsteps name (List.mem_cons_of_mem _ hn)) hf
  | case3 links here steps ih =>
    exact ih h.tail (fun name hn => hsteps name (List.mem_cons_of_mem _ hn)) hf
  | case5 links here name steps hentry ih =>
    have hname : IsName name := hsteps name List.mem_cons_self
    exact ih ⟨hname, hentry, h⟩ (fun name hn => hsteps name (List.mem_cons_of_mem _ hn)) hf
  | case6 links here name steps content hentry =>
    cases hf
    exact ⟨hsteps name List.mem_cons_self, hentry, h⟩
  | case8 links here name steps hentry =>
    cases hf
    exact ⟨hsteps name List.mem_cons_self, hentry, h⟩
  | case12 here name steps target hentry links hempty ih =>
    refine ih (isDirectory_origin h target) ?_ hf
    intro name hn
    rcases List.mem_append.mp hn with ht | hs
    · exact Path.isName_of_mem_steps ht
    · exact hsteps name (List.mem_cons_of_mem _ hs)
  | _ => cases hf

/-- What a path leads to lies where it leads. -/
theorem holds_of_resolve? (hwd : fs.IsDirectory fs.workingDirectory) {path : Path}
    {location : Location} {target : Target} (h : fs.resolve? path = some (location, target)) :
    fs.Holds location target := by
  rw [resolve?] at h
  split at h
  · cases h
  · refine holds_of_follow? (isDirectory_origin hwd path) ?_ h
    intro name hn
    exact Path.isName_of_mem_steps hn

end FileSystem

end Attest
