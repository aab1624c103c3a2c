import Attest.Yaml.Token

/-!
# Nodes

A node is a scalar, a sequence, a mapping, or an alias of a node with an anchor. Anchors are
numbered by the distinct names before them, and an alias refers to the number that its name has at
that point. A part that is left out is an empty scalar. A stream is read only if it holds one
document at most.
-/

namespace Attest.Yaml

/-- A scalar with its style and its tag, if it has one. -/
structure Scalar where
  style : ScalarStyle
  tag : Option (List Char)
  text : List Char
deriving DecidableEq, Repr

/-- The scalar of a part that is left out. -/
def Scalar.empty : Scalar := ⟨.plain, none, []⟩

/-- A part of a document. -/
inductive Node where
  | alias (number : Nat)
  | scalar (scalar : Scalar)
  | sequence (items : List Node)
  | mapping (entries : List (Node × Node))
deriving Repr

/-- The anchors of a document. Of their nodes only scalars are kept. -/
structure Anchors where
  names : List (List Char × Nat)
  scalars : List (Nat × Option Scalar)
deriving DecidableEq, Repr

namespace Anchors

def empty : Anchors := ⟨[], []⟩

/-- Gives a name to a node, which is a scalar or not. -/
def define (anchors : Anchors) (name : List Char) (scalar : Option Scalar) : Anchors :=
  let number := anchors.names.length
  ⟨(name, number) :: anchors.names.filter (·.1 != name), (number, scalar) :: anchors.scalars⟩

/-- Gives a name to a node that may have one. -/
def defineOptional (anchors : Anchors) (name : Option (List Char)) (scalar : Option Scalar) :
    Anchors :=
  match name with
  | some name => anchors.define name scalar
  | none => anchors

end Anchors

/-- What is left of a document, with the handles that it may use and its anchors so far. -/
structure Reader where
  tokens : List Token
  handles : List (List Char × List Char)
  anchors : Anchors
deriving Repr

/-- The handles that every document has. -/
def standardHandles : List (List Char × List Char) :=
  [(['!'], ['!']), (['!', '!'], "tag:yaml.org,2002:".toList)]

namespace Reader

/-- The reader before other tokens. -/
def before (reader : Reader) (tokens : List Token) : Reader :=
  { reader with tokens }

/-- The reader with an anchor, if there is one. -/
def named (reader : Reader) (anchor : Option (List Char)) (scalar : Option Scalar) : Reader :=
  { reader with anchors := reader.anchors.defineOptional anchor scalar }

/-- The address that a tag stands for. -/
def address? (reader : Reader) (tag : WrittenTag) : Option (List Char) :=
  if tag.handle.isEmpty then some tag.suffix
  else (reader.handles.lookup tag.handle).map (· ++ tag.suffix)

/-- Whether the next token is among some. -/
def isAt (reader : Reader) (tokens : List Token) : Bool :=
  reader.tokens.head?.any tokens.contains

end Reader

/-- The properties of a node. -/
structure Properties where
  anchor : Option (List Char)
  tag : Option WrittenTag
deriving DecidableEq, Repr

namespace Properties

/-- Reads an anchor and a tag in either order. -/
def read : List Token → Properties × List Token
  | .anchor name :: .tag tag :: rest => (⟨some name, some tag⟩, rest)
  | .tag tag :: .anchor name :: rest => (⟨some name, some tag⟩, rest)
  | .anchor name :: rest => (⟨some name, none⟩, rest)
  | .tag tag :: rest => (⟨none, some tag⟩, rest)
  | rest => (⟨none, none⟩, rest)

def isEmpty (properties : Properties) : Bool :=
  properties.anchor.isNone && properties.tag.isNone

end Properties

/-- The tokens before which a key or value of a block mapping is left out. -/
def blockStops : List Token := [.key, .value, .blockEnd]

mutual

/-- Reads a node. Blocks are allowed or not, and so is a sequence without indentation of its own. -/
def node? (inBlock indentless : Bool) : Nat → Reader → Option (Node × Reader)
  | 0, _ => none
  | fuel + 1, reader =>
    match reader.tokens with
    | .alias name :: rest => do
      let number ← reader.anchors.names.lookup name
      return (.alias number, reader.before rest)
    | tokens => do
      let (properties, tokens) := Properties.read tokens
      let address ← match properties.tag with
        | none => some none
        | some tag => (reader.address? tag).map some
      let anchor := properties.anchor
      let collection := reader.named anchor none
      match tokens with
      | .scalar style text :: rest =>
        let scalar : Scalar := ⟨style, address.filter (· != ['!']), text⟩
        return (.scalar scalar, (reader.named anchor (some scalar)).before rest)
      | .flowSequenceStart :: rest =>
        let (items, next) ← flowItems? true fuel (collection.before rest)
        return (.sequence items, next)
      | .flowMappingStart :: rest =>
        let (entries, next) ← flowEntries? true fuel (collection.before rest)
        return (.mapping entries, next)
      | token :: rest =>
        if indentless && token == .blockEntry then
          let (items, next) ← indentlessItems? fuel (collection.before tokens)
          return (.sequence items, next)
        else if inBlock && token == .blockSequenceStart then
          let (items, next) ← blockItems? fuel (collection.before rest)
          return (.sequence items, next)
        else if inBlock && token == .blockMappingStart then
          let (entries, next) ← blockEntries? fuel (collection.before rest)
          return (.mapping entries, next)
        else if properties.isEmpty then none
        else
          let scalar : Scalar := { Scalar.empty with tag := address }
          return (.scalar scalar, (reader.named anchor (some scalar)).before tokens)
      | [] => none

/-- Reads a node, or an empty scalar before one of some tokens. -/
def part? (stops : List Token) (inBlock indentless : Bool) :
    Nat → Reader → Option (Node × Reader)
  | 0, _ => none
  | fuel + 1, reader =>
    if reader.isAt stops then some (.scalar .empty, reader)
    else node? inBlock indentless fuel reader

/-- Reads a value, or an empty scalar where there is none. -/
def value? (stops : List Token) (inBlock : Bool) : Nat → Reader → Option (Node × Reader)
  | 0, _ => none
  | fuel + 1, reader =>
    match reader.tokens with
    | .value :: rest => part? stops inBlock inBlock fuel (reader.before rest)
    | _ => some (.scalar .empty, reader)

/-- Reads the items of a block sequence. -/
def blockItems? : Nat → Reader → Option (List Node × Reader)
  | 0, _ => none
  | fuel + 1, reader =>
    match reader.tokens with
    | .blockEntry :: rest => do
      let (item, next) ← part? [.blockEntry, .blockEnd] true false fuel (reader.before rest)
      let (items, last) ← blockItems? fuel next
      return (item :: items, last)
    | .blockEnd :: rest => some ([], reader.before rest)
    | _ => none

/-- Reads the items of a sequence without indentation of its own. -/
def indentlessItems? : Nat → Reader → Option (List Node × Reader)
  | 0, _ => none
  | fuel + 1, reader =>
    match reader.tokens with
    | .blockEntry :: rest => do
      let (item, next) ← part? (.blockEntry :: blockStops) true false fuel (reader.before rest)
      let (items, last) ← indentlessItems? fuel next
      return (item :: items, last)
    | _ => some ([], reader)

/-- Reads the entries of a block mapping. -/
def blockEntries? : Nat → Reader → Option (List (Node × Node) × Reader)
  | 0, _ => none
  | fuel + 1, reader =>
    match reader.tokens with
    | .key :: rest => do
      let (key, afterKey) ← part? blockStops true true fuel (reader.before rest)
      let (value, next) ← value? blockStops true fuel afterKey
      let (entries, last) ← blockEntries? fuel next
      return ((key, value) :: entries, last)
    | .blockEnd :: rest => some ([], reader.before rest)
    | _ => none

/-- Reads the items of a flow sequence. An item may be a mapping with one entry; where the key of
the entry is left out, the token in its place is lost. -/
def flowItems? (isFirst : Bool) : Nat → Reader → Option (List Node × Reader)
  | 0, _ => none
  | fuel + 1, reader =>
    match reader.tokens with
    | .flowSequenceEnd :: rest => some ([], reader.before rest)
    | tokens => do
      let tokens ←
        if isFirst then some tokens
        else if tokens.head? = some .flowEntry then some tokens.tail
        else none
      match tokens with
      | .flowSequenceEnd :: rest => some ([], reader.before rest)
      | .key :: rest =>
        let (key, afterKey) ←
          if (reader.before rest).isAt [.value, .flowEntry, .flowSequenceEnd] then
            some (.scalar .empty, reader.before rest.tail)
          else node? false false fuel (reader.before rest)
        let (value, next) ← value? [.flowEntry, .flowSequenceEnd] false fuel afterKey
        let (items, last) ← flowItems? false fuel next
        return (.mapping [(key, value)] :: items, last)
      | tokens =>
        let (item, next) ← node? false false fuel (reader.before tokens)
        let (items, last) ← flowItems? false fuel next
        return (item :: items, last)

/-- Reads the entries of a flow mapping. An entry may be a key alone. -/
def flowEntries? (isFirst : Bool) : Nat → Reader → Option (List (Node × Node) × Reader)
  | 0, _ => none
  | fuel + 1, reader =>
    match reader.tokens with
    | .flowMappingEnd :: rest => some ([], reader.before rest)
    | tokens => do
      let tokens ←
        if isFirst then some tokens
        else if tokens.head? = some .flowEntry then some tokens.tail
        else none
      match tokens with
      | .flowMappingEnd :: rest => some ([], reader.before rest)
      | .key :: rest =>
        let (key, afterKey) ←
          part? [.value, .flowEntry, .flowMappingEnd] false false fuel (reader.before rest)
        let (value, next) ← value? [.flowEntry, .flowMappingEnd] false fuel afterKey
        let (entries, last) ← flowEntries? false fuel next
        return ((key, value) :: entries, last)
      | tokens =>
        let (key, next) ← node? false false fuel (reader.before tokens)
        let (entries, last) ← flowEntries? false fuel next
        return ((key, .scalar .empty) :: entries, last)

end

/-! ### Documents -/

/-- A document. -/
structure Document where
  root : Node
  anchors : Anchors
deriving Repr

namespace Document

/-- The directives at the start of a document. -/
def splitDirectives : List Token → List Directive × List Token
  | .directive directive :: rest =>
    let (directives, rest) := splitDirectives rest
    (directive :: directives, rest)
  | rest => ([], rest)

/-- The versions that directives give. -/
def versions (directives : List Directive) : List (Nat × Nat) :=
  directives.filterMap fun
    | .version major minor => some (major, minor)
    | .handle _ _ => none

/-- The handles that directives define, with their addresses. -/
def handles (directives : List Directive) : List (List Char × List Char) :=
  directives.filterMap fun
    | .version _ _ => none
    | .handle handle address => some (handle, address)

/-- Whether directives give one version at most, which has to be 1.1 or 1.2, and no handle twice. -/
def areAcceptable (directives : List Directive) : Bool :=
  (versions directives).length ≤ 1 &&
    (versions directives).all (fun version => version == (1, 1) || version == (1, 2)) &&
    ((handles directives).map (·.1)).eraseDups.length == (handles directives).length

/-- Reads the root of a document. Only a document with a mark at its start may be empty. -/
def root? (isMarked : Bool) (reader : Reader) : Option (Node × Reader) :=
  if isMarked && reader.isAt [.documentStart, .documentEnd, .streamEnd] then
    some (.scalar .empty, reader)
  else node? true false (4 * reader.tokens.length + 4) reader

/-- The only document of a stream, given its tokens. -/
def ofTokens? (tokens : List Token) : Option Document := do
  let (directives, body) := splitDirectives tokens
  if areAcceptable directives then
    let handles := handles directives ++ standardHandles
    let (root, last) ← match body with
      | .documentStart :: rest => root? true ⟨rest, handles, .empty⟩
      | body =>
        if directives.isEmpty then root? false ⟨body, handles, .empty⟩ else none
    if last.tokens.dropWhile (· == .documentEnd) = [.streamEnd] then
      return ⟨root, last.anchors⟩
    else none
  else none

/-- The only document of a stream. -/
def ofStream? (stream : List Char) : Option Document := do
  ofTokens? (← Token.ofStream? stream)

/-- The scalar that a node is or stands for. -/
def scalar? (document : Document) : Node → Option Scalar
  | .scalar scalar => some scalar
  | .alias number => (document.anchors.scalars.lookup number).join
  | _ => none

end Document

end Attest.Yaml
