/-!
# Places in a stream

A stream of YAML is a text without control characters. A cursor is a place in it together with what
is left from there on. Columns count characters from the last line break, and a carriage return
followed by a line feed is one break.
-/

namespace Attest.Yaml

/-- Whether a character may stand in a stream. -/
def isAllowed (c : Char) : Bool :=
  c == '\t' || c == '\n' || c == '\r' || (' ' ≤ c && c ≤ '~') || c == '\x85' ||
    ('\xa0' ≤ c && c ≤ '\ufffd') || '\uffff' < c

def isBlank (c : Char) : Bool :=
  c == ' ' || c == '\t'

def isBreak (c : Char) : Bool :=
  c == '\n' || c == '\r' || c == '\x85' || c == '\u2028' || c == '\u2029'

/-- Whether no word goes on here. -/
def endsWord : List Char → Bool
  | [] => true
  | c :: _ => isBlank c || isBreak c

/-- What a line break stands for: itself if it separates lines or paragraphs of a text, else a line
feed. -/
def normalBreak (c : Char) : Char :=
  if c = '\u2028' ∨ c = '\u2029' then c else '\n'

/-- How much of a stream lies behind a place: characters, lines, and characters of the last line. -/
structure Position where
  index : Nat
  line : Nat
  column : Nat
deriving DecidableEq, Repr

namespace Position

def start : Position := ⟨0, 0, 0⟩

/-- The position some characters further on in the line. -/
def advance (position : Position) (n : Nat) : Position :=
  ⟨position.index + n, position.line, position.column + n⟩

/-- The position behind a line break of some characters. -/
def nextLine (position : Position) (n : Nat) : Position :=
  ⟨position.index + n, position.line + 1, 0⟩

end Position

/-- A place in a stream. -/
structure Cursor where
  rest : List Char
  position : Position
deriving DecidableEq, Repr

namespace Cursor

/-- The start of a stream, behind the byte order mark if there is one. -/
def ofStream : List Char → Cursor
  | '\ufeff' :: rest => ⟨rest, Position.start.advance 1⟩
  | rest => ⟨rest, .start⟩

/-- The place some characters further on in the line. -/
def skip (cursor : Cursor) (n : Nat) : Cursor :=
  ⟨cursor.rest.drop n, cursor.position.advance n⟩

/-- The place behind the characters that satisfy a condition. -/
def skipWhile (cursor : Cursor) (p : Char → Bool) : Cursor :=
  cursor.skip (cursor.rest.takeWhile p).length

/-- The line break at a place and the place behind it; at the end of the stream, nothing. -/
def takeBreak (cursor : Cursor) : List Char × Cursor :=
  match cursor.rest with
  | '\r' :: '\n' :: rest => (['\n'], ⟨rest, cursor.position.nextLine 2⟩)
  | c :: rest =>
    if isBreak c then ([normalBreak c], ⟨rest, cursor.position.nextLine 1⟩) else ([], cursor)
  | [] => ([], cursor)

/-- The start of the next line, if only blanks and a comment are left of this one. -/
def endLine? (cursor : Cursor) : Option Cursor :=
  let cursor := cursor.skipWhile isBlank
  let cursor :=
    if cursor.rest.head? = some '#' then cursor.skipWhile fun c => !isBreak c else cursor
  if cursor.rest.isEmpty then some cursor
  else match cursor.takeBreak with
    | ([], _) => none
    | (_, next) => some next

/-- Whether a document starts or ends here: three times the character, alone at the start of a
line. -/
def isAtMark (mark : Char) (cursor : Cursor) : Bool :=
  cursor.position.column == 0 && cursor.rest.take 3 == [mark, mark, mark] &&
    endsWord (cursor.rest.drop 3)

/-- Whether a document starts or ends here. -/
def isAtBoundary (cursor : Cursor) : Bool :=
  cursor.isAtMark '-' || cursor.isAtMark '.'

end Cursor

/-- Passes over blanks, comments and line breaks, and says whether a key may start at the place that
comes then. A tab is passed over only where no key may start; behind a line break one may, except in
a flow collection. -/
def skipSpace (inFlow keyAllowed inComment : Bool) (position : Position) :
    List Char → Cursor × Bool
  | [] => (⟨[], position⟩, keyAllowed)
  | '\r' :: '\n' :: rest =>
    skipSpace inFlow (keyAllowed || !inFlow) false (position.nextLine 2) rest
  | c :: rest =>
    if isBreak c then skipSpace inFlow (keyAllowed || !inFlow) false (position.nextLine 1) rest
    else if inComment || c == '#' then skipSpace inFlow keyAllowed true (position.advance 1) rest
    else if c == ' ' || (c == '\t' && (inFlow || !keyAllowed)) then
      skipSpace inFlow keyAllowed false (position.advance 1) rest
    else (⟨c :: rest, position⟩, keyAllowed)

end Attest.Yaml
