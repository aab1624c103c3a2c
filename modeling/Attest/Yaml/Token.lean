import Attest.Yaml.Scalar
import Attest.Yaml.Tag

/-!
# Tokens

The words of YAML: indicators, scalars with their texts, properties of nodes, and the starts and
ends of blocks, which indentation alone makes known. A key need not be marked as one. Where a node
may turn out to be a key its place is kept, and when a colon follows on the same line and not too
far off, the mark of the key is put in front of what was read since, with the start of a block if
the key opens one.
-/

namespace Attest.Yaml

/-- A word of YAML. -/
inductive Token where
  | streamEnd
  | directive (directive : Directive)
  | documentStart
  | documentEnd
  | blockSequenceStart
  | blockMappingStart
  | blockEnd
  | flowSequenceStart
  | flowSequenceEnd
  | flowMappingStart
  | flowMappingEnd
  | blockEntry
  | flowEntry
  | key
  | value
  | alias (name : List Char)
  | anchor (name : List Char)
  | tag (tag : WrittenTag)
  | scalar (style : ScalarStyle) (text : List Char)
deriving DecidableEq, Repr

/-- A place at which a key may have started. -/
structure SimpleKey where
  /-- Whether a node here can be nothing but a key. -/
  isRequired : Bool
  /-- The number of tokens before the place. -/
  count : Nat
  position : Position
deriving DecidableEq, Repr

namespace SimpleKey

/-- Whether a position is still near enough for the colon of a key: on its line and within 1024
characters. -/
def reaches (key : SimpleKey) (position : Position) : Bool :=
  position.line ≤ key.position.line && position.index ≤ key.position.index + 1024

end SimpleKey

/-- What is known when part of a stream has been read. -/
structure Scanner where
  cursor : Cursor
  /-- The tokens so far, the last one first. -/
  tokens : List Token
  /-- The first column behind that of the innermost open block, or zero outside all blocks. -/
  margin : Nat
  /-- The margins of the blocks around it. -/
  outerMargins : List Nat
  keyAllowed : Bool
  /-- The possible key of the innermost collection. -/
  key : Option SimpleKey
  /-- The possible keys around each open flow collection. -/
  outerKeys : List (Option SimpleKey)
deriving Repr

namespace Scanner

/-- The state before anything has been read. -/
def ofStream (stream : List Char) : Scanner where
  cursor := .ofStream stream
  tokens := []
  margin := 0
  outerMargins := []
  keyAllowed := true
  key := none
  outerKeys := []

def inFlow (scanner : Scanner) : Bool :=
  !scanner.outerKeys.isEmpty

def column (scanner : Scanner) : Nat :=
  scanner.cursor.position.column

/-- Adds a token. -/
def push (scanner : Scanner) (token : Token) : Scanner :=
  { scanner with tokens := token :: scanner.tokens }

/-- Adds a token and passes over its characters. -/
def pushOver (scanner : Scanner) (token : Token) (length : Nat) : Scanner :=
  { scanner with tokens := token :: scanner.tokens, cursor := scanner.cursor.skip length }

/-- Puts tokens in front of those that came after a number of tokens. All are given with the last
one first. -/
def insertAfter (count : Nat) (new tokens : List Token) : List Token :=
  let later := tokens.length - count
  tokens.take later ++ new ++ tokens.drop later

/-! ### Possible keys -/

/-- Gives up a possible key, unless it has to be one. -/
def forgetKey? (scanner : Scanner) : Option Scanner :=
  if scanner.key.any (·.isRequired) then none else some { scanner with key := none }

/-- Keeps the present place as that of a possible key, where one is allowed. -/
def saveKey? (scanner : Scanner) : Option Scanner :=
  if scanner.keyAllowed then
    scanner.forgetKey?.map fun scanner =>
      let isRequired := !scanner.inFlow && scanner.margin == scanner.column + 1
      { scanner with
        key := some ⟨isRequired, scanner.tokens.length, scanner.cursor.position⟩ }
  else some scanner

/-- Gives up a possible key that is out of reach, unless it has to be one. -/
def dropStale? (position : Position) : Option SimpleKey → Option (Option SimpleKey)
  | none => some none
  | some key =>
    if key.reaches position then some (some key)
    else if key.isRequired then none
    else some none

/-- Gives up all possible keys that are out of reach. -/
def dropStaleKeys? (scanner : Scanner) : Option Scanner := do
  let position := scanner.cursor.position
  let key ← dropStale? position scanner.key
  let outerKeys ← scanner.outerKeys.mapM (dropStale? position)
  return { scanner with key, outerKeys }

/-! ### Blocks -/

/-- Ends blocks until the margin is within a limit. -/
def endBlocks (limit : Nat) : Nat → List Nat → List Token → Nat × List Nat × List Token
  | margin, [], tokens => (min margin limit, [], tokens)
  | margin, outer :: margins, tokens =>
    if margin ≤ limit then (margin, outer :: margins, tokens)
    else endBlocks limit outer margins (.blockEnd :: tokens)

/-- Ends the blocks that start further in than a limit. Flow collections know no indentation. -/
def unindent (scanner : Scanner) (limit : Nat) : Scanner :=
  if scanner.inFlow then scanner
  else
    let (margin, outerMargins, tokens) :=
      endBlocks limit scanner.margin scanner.outerMargins scanner.tokens
    { scanner with margin, outerMargins, tokens }

/-- Whether a column is further in than the innermost block, so that a block starts there. -/
def opensBlock (scanner : Scanner) (column : Nat) : Bool :=
  !scanner.inFlow && scanner.margin ≤ column

/-- Opens a block at a column. -/
def indent (scanner : Scanner) (column : Nat) : Scanner :=
  { scanner with
    margin := column + 1
    outerMargins := scanner.margin :: scanner.outerMargins }

/-- Opens a block at the present column, if that is further in. -/
def startBlock (scanner : Scanner) (token : Token) : Scanner :=
  if scanner.opensBlock scanner.column then (scanner.indent scanner.column).push token
  else scanner

/-! ### Single tokens -/

/-- Ends the stream, with a line break if there is none, and all that is open in it. -/
def endStream? (scanner : Scanner) : Option Scanner := do
  let closed ← (scanner.unindent 0).forgetKey?
  return { closed with keyAllowed := false }.push .streamEnd

/-- Reads a directive. -/
def pushDirective? (scanner : Scanner) : Option Scanner := do
  let closed ← (scanner.unindent 0).forgetKey?
  let (directive, next) ← directive? (closed.cursor.skip 1)
  return { closed with keyAllowed := false, cursor := next }.push (.directive directive)

/-- Reads the start or the end of a document. -/
def pushBoundary? (scanner : Scanner) (token : Token) : Option Scanner := do
  let closed ← (scanner.unindent 0).forgetKey?
  return { closed with keyAllowed := false }.pushOver token 3

/-- Opens a flow collection, which may be a key as a whole. -/
def openFlow? (scanner : Scanner) (token : Token) : Option Scanner := do
  let saved ← scanner.saveKey?
  return { saved with
    key := none
    outerKeys := saved.key :: saved.outerKeys
    keyAllowed := true }.pushOver token 1

/-- Closes a flow collection. -/
def closeFlow? (scanner : Scanner) (token : Token) : Option Scanner := do
  let cleared ← scanner.forgetKey?
  let (key, outerKeys) := match cleared.outerKeys with
    | [] => (cleared.key, [])
    | key :: outerKeys => (key, outerKeys)
  return { cleared with key, outerKeys, keyAllowed := false }.pushOver token 1

/-- Reads the comma between entries of a flow collection. -/
def pushFlowEntry? (scanner : Scanner) : Option Scanner := do
  let cleared ← scanner.forgetKey?
  return { cleared with keyAllowed := true }.pushOver .flowEntry 1

/-- Reads the indicator of an entry of a block sequence. -/
def pushBlockEntry? (scanner : Scanner) : Option Scanner :=
  if !scanner.inFlow && !scanner.keyAllowed then none
  else do
    let cleared ← (scanner.startBlock .blockSequenceStart).forgetKey?
    return { cleared with keyAllowed := true }.pushOver .blockEntry 1

/-- Reads the indicator of a key. -/
def pushKey? (scanner : Scanner) : Option Scanner :=
  if !scanner.inFlow && !scanner.keyAllowed then none
  else do
    let cleared ← (scanner.startBlock .blockMappingStart).forgetKey?
    return { cleared with keyAllowed := !cleared.inFlow }.pushOver .key 1

/-- Marks a possible key as a key, and opens a block at its column if that is further in. -/
def confirmKey (scanner : Scanner) (key : SimpleKey) : Scanner :=
  let column := key.position.column
  if scanner.opensBlock column then
    { scanner.indent column with
      tokens := insertAfter key.count [.key, .blockMappingStart] scanner.tokens }
  else { scanner with tokens := insertAfter key.count [.key] scanner.tokens }

/-- Reads the colon of a value. -/
def pushValue? (scanner : Scanner) : Option Scanner :=
  match scanner.key with
  | some key =>
    some ({ scanner.confirmKey key with key := none, keyAllowed := false }.pushOver .value 1)
  | none =>
    if !scanner.inFlow && !scanner.keyAllowed then none
    else
      let opened := scanner.startBlock .blockMappingStart
      some ({ opened with keyAllowed := !opened.inFlow }.pushOver .value 1)

/-- Reads the name of an anchor or alias. -/
def pushName? (scanner : Scanner) (token : List Char → Token) : Option Scanner := do
  let saved ← scanner.saveKey?
  let (name, next) ← anchorName? (saved.cursor.skip 1)
  return { saved with keyAllowed := false, cursor := next }.push (token name)

/-- Reads a tag. -/
def pushTag? (scanner : Scanner) : Option Scanner := do
  let saved ← scanner.saveKey?
  let (written, next) ← tag? saved.inFlow saved.cursor
  return { saved with keyAllowed := false, cursor := next }.push (.tag written)

/-- Reads a block scalar. -/
def pushBlock? (scanner : Scanner) (style : ScalarStyle) : Option Scanner := do
  let cleared ← scanner.forgetKey?
  let (text, next) ← blockScalar? (style == .folded) cleared.margin (cleared.cursor.skip 1)
  return { cleared with keyAllowed := true, cursor := next }.push (.scalar style text)

/-- Reads a quoted scalar. -/
def pushQuoted? (scanner : Scanner) (style : ScalarStyle) : Option Scanner := do
  let saved ← scanner.saveKey?
  let (text, next) ← quotedScalar? (style == .singleQuoted) (saved.cursor.skip 1)
  return { saved with keyAllowed := false, cursor := next }.push (.scalar style text)

/-- Reads a plain scalar. A key may start behind it if it ends with a line. -/
def pushPlain? (scanner : Scanner) : Option Scanner := do
  let saved ← scanner.saveKey?
  let scalar ← plainScalar? saved.inFlow saved.margin saved.cursor
  return { saved with keyAllowed := scalar.endsInBreak, cursor := scalar.cursor }.push
    (.scalar .plain scalar.text)

/-! ### The next token -/

/-- Goes to the next token, gives up keys out of reach and ends blocks. -/
def settle? (scanner : Scanner) : Option Scanner := do
  let (cursor, keyAllowed) :=
    skipSpace scanner.inFlow scanner.keyAllowed false scanner.cursor.position scanner.cursor.rest
  let fresh ← { scanner with cursor, keyAllowed }.dropStaleKeys?
  return fresh.unindent (fresh.column + 1)

/-- Reads the token that starts with a character. -/
def pushAt? (scanner : Scanner) (c : Char) (rest : List Char) : Option Scanner :=
  match c with
  | '[' => scanner.openFlow? .flowSequenceStart
  | '{' => scanner.openFlow? .flowMappingStart
  | ']' => scanner.closeFlow? .flowSequenceEnd
  | '}' => scanner.closeFlow? .flowMappingEnd
  | ',' => scanner.pushFlowEntry?
  | '-' => if endsWord rest then scanner.pushBlockEntry? else scanner.pushPlain?
  | '?' => if scanner.inFlow || endsWord rest then scanner.pushKey? else scanner.pushPlain?
  | ':' => if scanner.inFlow || endsWord rest then scanner.pushValue? else scanner.pushPlain?
  | '*' => scanner.pushName? .alias
  | '&' => scanner.pushName? .anchor
  | '!' => scanner.pushTag?
  | '|' => if scanner.inFlow then none else scanner.pushBlock? .literal
  | '>' => if scanner.inFlow then none else scanner.pushBlock? .folded
  | '\'' => scanner.pushQuoted? .singleQuoted
  | '"' => scanner.pushQuoted? .doubleQuoted
  | c =>
    if isBlank c || isBreak c || ['#', '%', '@', '`'].contains c then none
    else scanner.pushPlain?

/-- Reads the next token. -/
def next? (scanner : Scanner) : Option Scanner := do
  let settled ← scanner.settle?
  match settled.cursor.rest with
  | [] => settled.endStream?
  | c :: rest =>
    if settled.column = 0 ∧ c = '%' then settled.pushDirective?
    else if settled.cursor.isAtMark '-' then settled.pushBoundary? .documentStart
    else if settled.cursor.isAtMark '.' then settled.pushBoundary? .documentEnd
    else settled.pushAt? c rest

/-- Reads all tokens. The fuel bounds their number. -/
def run? : Nat → Scanner → Option (List Token)
  | 0, _ => none
  | fuel + 1, scanner => do
    let next ← scanner.next?
    if next.tokens.head? = some .streamEnd then some next.tokens.reverse
    else run? fuel next

end Scanner

/-- The tokens of a stream, if all of it can be read. -/
def Token.ofStream? (stream : List Char) : Option (List Token) :=
  if stream.all isAllowed then Scanner.run? (stream.length + 1) (.ofStream stream) else none

end Attest.Yaml
