import Attest.Text.Search

/-!
# Identifiers of callables

A callable is known by the name of its type, a path with double colons between its parts. Its
identifier is what follows the last of them before the first angle bracket. A callable that was not
declared by name has no identifier of its own.
-/

namespace Attest.Registry

/-- The identifier of callables that have none. -/
def anonymous : String := "<anonymous>"

/-- The mark of a callable written in place. -/
def closureMark : String := "\x7b\x7bclosure\x7d\x7d"

/-- Whether a type name belongs to a callable without a declared identifier. -/
def isAnonymous (typeName : String) : Bool :=
  Text.contains typeName closureMark || "fn(".toList.isPrefixOf typeName.toList

/-- What follows the last double colon of a path, or the whole path. -/
def lastSegment : List Char → List Char
  | [] => []
  | c :: rest =>
    if Text.occursIn [':', ':'] rest then lastSegment rest
    else match c, rest with
      | ':', ':' :: segment => segment
      | c, rest => c :: rest

/-- The identifier that a type name declares. -/
def identifier (typeName : String) : String :=
  if isAnonymous typeName then anonymous
  else .ofList (lastSegment (typeName.toList.takeWhile (· != '<')))

end Attest.Registry
