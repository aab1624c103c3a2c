/-!
# Paths

A path is a text of steps with slashes between them. It leads from the root if it starts with a
slash, and from the working directory if not. An empty path leads nowhere.
-/

namespace Attest

/-- A step of a path. -/
inductive Path.Step where
  | stay
  | up
  | down (name : String)
deriving DecidableEq, Repr

/-- A path as it is given. -/
structure Path where
  text : String
deriving DecidableEq, Repr

namespace Path

/-- The step that a piece between slashes spells. Between two slashes, and behind a slash at the end, there is
nothing to do but to be in a directory. -/
def Step.ofPiece (piece : List Char) : Step :=
  if piece = [] ∨ piece = ['.'] then .stay
  else if piece = ['.', '.'] then .up
  else .down (.ofList piece)

def isEmpty (path : Path) : Bool :=
  path.text.toList.isEmpty

/-- Whether a path leads from the root. -/
def isAbsolute (path : Path) : Bool :=
  path.text.toList.head? == some '/'

def steps (path : Path) : List Step :=
  (path.text.toList.splitOn '/').map Step.ofPiece

/-- A path with slashes and single dots at its end taken off, given the last character first. What
the path starts with stays. -/
def trimReversed (isAbsolute : Bool) : List Char → List Char
  | ['/'] => if isAbsolute then ['/'] else []
  | '/' :: rest => trimReversed isAbsolute rest
  | '.' :: '/' :: rest =>
    if rest.isEmpty && isAbsolute then ['/'] else trimReversed isAbsolute ('/' :: rest)
  | path => path
termination_by path => path.length

/-- The path to the directory of what a path leads to, as far as it is spelled. -/
def parent (path : Path) : Path :=
  let before := (path.text.toList.reverse.dropWhile (· != '/'))
  ⟨.ofList (trimReversed path.isAbsolute before).reverse⟩

end Path

end Attest
