import Attest.Files.Path

/-!
# File systems

Directories, files and symbolic links at locations under one root. A path is followed step by step;
links are followed wherever they are met, up to forty of them, and a step up leads out of the
directory that has been reached, not out of the link that led there.
-/

namespace Attest

/-- The names on the way from the root to an entry, the last one first. -/
abbrev FileSystem.Location : Type := List String

/-- The absolute path of a location. -/
def FileSystem.Location.path : FileSystem.Location → Path
  | [] => ⟨"/"⟩
  | location => ⟨String.join (location.reverse.map ("/" ++ ·))⟩

/-- What may lie at a location. The content of a sealed file may not be read. -/
inductive FileSystem.Entry where
  | directory
  | file (content : ByteArray)
  | sealedFile
  | link (target : Path)

/-- What a path leads to. -/
inductive FileSystem.Target where
  | directory
  | file (content : ByteArray)
  | sealedFile

/-- Entries under a root, and the directory from which relative paths lead. -/
structure FileSystem where
  entry? : FileSystem.Location → Option FileSystem.Entry
  workingDirectory : FileSystem.Location

namespace FileSystem

/-- The number of links that are followed on the way of one path. -/
def maximalLinks : Nat := 40

/-- Where the steps of a path start. -/
def origin (path : Path) (here : Location) : Location :=
  if path.isAbsolute then [] else here

/-- Follows steps from a directory, with some links at most. -/
def follow? (fs : FileSystem) (links : Nat) (here : Location) (steps : List Path.Step) :
    Option (Location × Target) :=
  match steps with
  | [] => some (here, .directory)
  | .stay :: steps => fs.follow? links here steps
  | .up :: steps => fs.follow? links here.tail steps
  | .down name :: steps =>
    match fs.entry? (name :: here) with
    | none => none
    | some .directory => fs.follow? links (name :: here) steps
    | some (.file content) =>
      if steps.isEmpty then some (name :: here, .file content) else none
    | some .sealedFile => if steps.isEmpty then some (name :: here, .sealedFile) else none
    | some (.link target) =>
      match links with
      | 0 => none
      | links + 1 =>
        if target.isEmpty then none
        else fs.follow? links (origin target here) (target.steps ++ steps)
termination_by (links, steps.length)

/-- The location that a path leads to, free of links, and what lies there. -/
def resolve? (fs : FileSystem) (path : Path) : Option (Location × Target) :=
  if path.isEmpty then none
  else fs.follow? maximalLinks (origin path fs.workingDirectory) path.steps

/-- Whether a path leads to anything. -/
def leadsSomewhere (fs : FileSystem) (path : Path) : Bool :=
  (fs.resolve? path).isSome

/-- The text of the file that a path leads to, if it may be read and is UTF-8. -/
def readText? (fs : FileSystem) (path : Path) : Option String :=
  match fs.resolve? path with
  | some (_, .file content) => String.fromUTF8? content
  | _ => none

/-- The file system with an entry at a location. -/
def insert (fs : FileSystem) (location : Location) (entry : Entry) : FileSystem :=
  { fs with
    entry? := fun other => if other = location then some entry else fs.entry? other }

/-- The file system with directories at a location and on the way to it, where there is nothing. -/
def insertDirectories (fs : FileSystem) : Location → FileSystem
  | [] => fs
  | name :: outer =>
    let fs := fs.insertDirectories outer
    match fs.entry? (name :: outer) with
    | some _ => fs
    | none => fs.insert (name :: outer) .directory

/-- The file system with a file or link at a location, and directories on the way to it. -/
def insertDeep (fs : FileSystem) (location : Location) (entry : Entry) : FileSystem :=
  (fs.insertDirectories location.tail).insert location entry

/-- The file system that holds nothing but its working directory. -/
def bare (workingDirectory : Location) : FileSystem :=
  FileSystem.insertDirectories ⟨fun _ => none, workingDirectory⟩ workingDirectory

end FileSystem

end Attest
