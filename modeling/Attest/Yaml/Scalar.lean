import Attest.Unicode.RangeTable
import Attest.Yaml.Cursor

/-!
# Scalars

The text of a scalar as it is written: plain, quoted or as a block. In plain and quoted scalars a
line break between two words counts as a blank, and each further one as itself. Quoted scalars with
double quotes have escapes. Block scalars keep their lines, or fold them if asked to, and what
becomes of the breaks at their end is said in their header.
-/

namespace Attest.Yaml

/-- How a scalar is written. -/
inductive ScalarStyle where
  | plain
  | singleQuoted
  | doubleQuoted
  | literal
  | folded
deriving DecidableEq, Repr

/-! ### Gaps between words -/

/-- What lies between two words: blanks, or line breaks, the first apart from the others. -/
structure Gap where
  isBroken : Bool
  blanks : List Char
  first : List Char
  more : List Char
deriving DecidableEq, Repr

namespace Gap

def empty : Gap := ⟨false, [], [], []⟩

/-- The gap behind an escaped line break, which itself counts for nothing. -/
def joined : Gap := ⟨true, [], [], []⟩

/-- The gap with a further blank. Blanks around line breaks are dropped. -/
def addBlank (gap : Gap) (c : Char) : Gap :=
  if gap.isBroken then gap else { gap with blanks := gap.blanks ++ [c] }

/-- The gap with a further line break. -/
def addBreak (gap : Gap) (c : Char) : Gap :=
  if gap.isBroken then { gap with more := gap.more ++ [c] } else ⟨true, [], [c], []⟩

/-- What a gap contributes to the text. -/
def text (gap : Gap) : List Char :=
  if !gap.isBroken then gap.blanks
  else if gap.first = ['\n'] then
    if gap.more.isEmpty then [' '] else gap.more
  else gap.first ++ gap.more

end Gap

/-- Reads a gap. A tab before the given column of a new line is refused. -/
def readGap? (indent : Nat) (gap : Gap) (position : Position) : List Char → Option (Gap × Cursor)
  | [] => some (gap, ⟨[], position⟩)
  | '\r' :: '\n' :: rest => readGap? indent (gap.addBreak '\n') (position.nextLine 2) rest
  | c :: rest =>
    if isBreak c then
      readGap? indent (gap.addBreak (normalBreak c)) (position.nextLine 1) rest
    else if isBlank c then
      if gap.isBroken && c == '\t' && position.column < indent then none
      else readGap? indent (gap.addBlank c) (position.advance 1) rest
    else some (gap, ⟨c :: rest, position⟩)

/-! ### Plain scalars -/

/-- Whether a character ends a plain word in a flow collection. -/
def isFlowIndicator (c : Char) : Bool :=
  [',', '[', ']', '{', '}'].contains c

/-- A word of a plain scalar: it ends before a blank, before a colon with nothing behind it, and in
a flow collection before an indicator, which a colon must not precede. -/
def plainWord? (inFlow : Bool) : List Char → Option (List Char)
  | [] => some []
  | c :: rest =>
    if isBlank c || isBreak c then some []
    else if c == ':' && endsWord rest then some []
    else if inFlow && c == ':' && rest.head?.any (fun d => isFlowIndicator d || d == '?') then none
    else if inFlow && isFlowIndicator c then some []
    else (plainWord? inFlow rest).map (c :: ·)

/-- A plain scalar, and whether a line break was passed at its end. -/
structure PlainScalar where
  text : List Char
  endsInBreak : Bool
  cursor : Cursor
deriving DecidableEq, Repr

/-- Reads words and the gaps between them, as long as the lines are indented enough. The fuel bounds
the number of words. -/
def plainWords? (inFlow : Bool) (margin : Nat) : Nat → Gap → Cursor → Option PlainScalar
  | 0, _, _ => none
  | fuel + 1, gap, cursor =>
    if cursor.isAtBoundary || cursor.rest.head? == some '#' then some ⟨[], gap.isBroken, cursor⟩
    else do
      let word ← plainWord? inFlow cursor.rest
      if word.isEmpty then some ⟨[], gap.isBroken, cursor⟩
      else
        let wordEnd := cursor.skip word.length
        let (next, after) ← readGap? margin .empty wordEnd.position wordEnd.rest
        if !inFlow && after.position.column < margin then
          some ⟨gap.text ++ word, next.isBroken, after⟩
        else
          let tail ← plainWords? inFlow margin fuel next after
          some { tail with text := gap.text ++ word ++ tail.text }

/-- Reads a plain scalar. -/
def plainScalar? (inFlow : Bool) (margin : Nat) (cursor : Cursor) : Option PlainScalar :=
  plainWords? inFlow margin (cursor.rest.length + 1) .empty cursor

/-! ### Quoted scalars -/

/-- A run of quoted characters without blanks. -/
structure QuotedRun where
  text : List Char
  endsInJoin : Bool
  cursor : Cursor
deriving DecidableEq, Repr

namespace QuotedRun

/-- The run with a character in front. -/
def cons (c : Char) (run : QuotedRun) : QuotedRun :=
  { run with text := c :: run.text }

end QuotedRun

/-- Reads a run in single quotes. A quote written twice stands for one. -/
def singleRun (position : Position) : List Char → QuotedRun
  | [] => ⟨[], false, ⟨[], position⟩⟩
  | '\'' :: '\'' :: rest => (singleRun (position.advance 2) rest).cons '\''
  | c :: rest =>
    if isBlank c || isBreak c || c == '\'' then ⟨[], false, ⟨c :: rest, position⟩⟩
    else (singleRun (position.advance 1) rest).cons c

/-- The character that an escape with one letter stands for. -/
def letterEscape? : Char → Option Char
  | '0' => some '\x00'
  | 'a' => some '\x07'
  | 'b' => some '\x08'
  | 't' => some '\t'
  | '\t' => some '\t'
  | 'n' => some '\n'
  | 'v' => some '\x0b'
  | 'f' => some '\x0c'
  | 'r' => some '\r'
  | 'e' => some '\x1b'
  | ' ' => some ' '
  | '"' => some '"'
  | '/' => some '/'
  | '\\' => some '\\'
  | 'N' => some '\x85'
  | '_' => some '\xa0'
  | 'L' => some '\u2028'
  | 'P' => some '\u2029'
  | _ => none

/-- The character with a number in hexadecimal digits, if there is one. -/
def numberedChar? (digits : List Char) : Option Char :=
  if digits.all fun digit => (Unicode.hexDigitValue? digit).isSome then
    let n := Unicode.hexValue digits
    if n.isValidChar then some (.ofNat n) else none
  else none

/-- Reads a run in double quotes. It also ends behind an escaped line break. -/
def doubleRun? (position : Position) : List Char → Option QuotedRun
  | [] => some ⟨[], false, ⟨[], position⟩⟩
  | '\\' :: '\r' :: '\n' :: rest => some ⟨[], true, ⟨rest, (position.advance 1).nextLine 2⟩⟩
  | '\\' :: 'x' :: a :: b :: rest => do
    let c ← numberedChar? [a, b]
    (doubleRun? (position.advance 4) rest).map (QuotedRun.cons c)
  | '\\' :: 'u' :: a :: b :: c :: d :: rest => do
    let c ← numberedChar? [a, b, c, d]
    (doubleRun? (position.advance 6) rest).map (QuotedRun.cons c)
  | '\\' :: 'U' :: a :: b :: c :: d :: e :: f :: g :: h :: rest => do
    let c ← numberedChar? [a, b, c, d, e, f, g, h]
    (doubleRun? (position.advance 10) rest).map (QuotedRun.cons c)
  | '\\' :: c :: rest =>
    if isBreak c then some ⟨[], true, ⟨rest, (position.advance 1).nextLine 1⟩⟩
    else do
      let d ← letterEscape? c
      (doubleRun? (position.advance 2) rest).map (QuotedRun.cons d)
  | '\\' :: [] => none
  | c :: rest =>
    if isBlank c || isBreak c || c == '"' then some ⟨[], false, ⟨c :: rest, position⟩⟩
    else (doubleRun? (position.advance 1) rest).map (QuotedRun.cons c)

/-- Reads runs and the gaps between them up to the closing quote. No document may start or end in
between. The fuel bounds the number of runs. -/
def quotedRuns? (isSingle : Bool) : Nat → Cursor → Option (List Char × Cursor)
  | 0, _ => none
  | fuel + 1, cursor =>
    if cursor.isAtBoundary || cursor.rest.isEmpty then none
    else do
      let run ←
        if isSingle then some (singleRun cursor.position cursor.rest)
        else doubleRun? cursor.position cursor.rest
      if run.cursor.rest.head? = some (if isSingle then '\'' else '"') then
        some (run.text, run.cursor.skip 1)
      else
        let start := if run.endsInJoin then Gap.joined else Gap.empty
        let (gap, after) ← readGap? 0 start run.cursor.position run.cursor.rest
        let (text, last) ← quotedRuns? isSingle fuel after
        some (run.text ++ gap.text ++ text, last)

/-- Reads a quoted scalar from behind its opening quote. -/
def quotedScalar? (isSingle : Bool) (cursor : Cursor) : Option (List Char × Cursor) :=
  quotedRuns? isSingle (cursor.rest.length + 1) cursor

/-! ### Block scalars -/

/-- What becomes of the line breaks at the end of a block: dropped, reduced to one, or kept. -/
inductive Chomping where
  | strip
  | clip
  | keep
deriving DecidableEq, Repr

/-- What the header of a block says. -/
structure BlockHeader where
  chomping : Chomping
  /-- How much further in the lines are than what encloses them, if it is said. -/
  increment : Option Nat
deriving DecidableEq, Repr

/-- The chomping that a character asks for. -/
def chomping? : Char → Option Chomping
  | '+' => some .keep
  | '-' => some .strip
  | _ => none

/-- Reads the header of a block and gives the number of its characters. -/
def blockHeader? : List Char → Option (BlockHeader × Nat)
  | c :: rest =>
    match chomping? c, rest with
    | some chomping, d :: _ =>
      if d.isDigit then
        if d = '0' then none else some (⟨chomping, some (d.toNat - '0'.toNat)⟩, 2)
      else some (⟨chomping, none⟩, 1)
    | some chomping, [] => some (⟨chomping, none⟩, 1)
    | none, rest =>
      if c.isDigit then
        if c = '0' then none
        else match rest.head?.bind chomping? with
          | some chomping => some (⟨chomping, some (c.toNat - '0'.toNat)⟩, 2)
          | none => some (⟨.clip, some (c.toNat - '0'.toNat)⟩, 1)
      else some (⟨.clip, none⟩, 0)
  | [] => some (⟨.clip, none⟩, 0)

/-- Line breaks before a line of a block. -/
structure BlockBreaks where
  text : List Char
  /-- The greatest column at which the blanks of a line ended. -/
  widest : Nat
  cursor : Cursor
deriving DecidableEq, Repr

/-- Whether a column is still before the lines of a block. Before their column is known, every
column is. -/
def isIndentation (indent : Option Nat) (column : Nat) : Bool :=
  indent.all fun n => column < n

/-- Reads line breaks and the indentation behind them, in which no tab may stand. -/
def blockBreaks? (indent : Option Nat) (widest : Nat) (position : Position) :
    List Char → Option BlockBreaks
  | [] => some ⟨[], max widest position.column, ⟨[], position⟩⟩
  | '\r' :: '\n' :: rest =>
    (blockBreaks? indent (max widest position.column) (position.nextLine 2) rest).map
      fun breaks => { breaks with text := '\n' :: breaks.text }
  | c :: rest =>
    if c == ' ' && isIndentation indent position.column then
      blockBreaks? indent widest (position.advance 1) rest
    else if isBreak c then
      (blockBreaks? indent (max widest position.column) (position.nextLine 1) rest).map
        fun breaks => { breaks with text := normalBreak c :: breaks.text }
    else if c == '\t' && isIndentation indent position.column then none
    else some ⟨[], max widest position.column, ⟨c :: rest, position⟩⟩

/-- Lines of a block: their text, the break behind the last of them, and further breaks. -/
structure BlockLines where
  text : List Char
  lastBreak : List Char
  breaks : List Char
  cursor : Cursor
deriving DecidableEq, Repr

/-- Reads lines that start at a column, given the break before the first of them, further breaks and
whether the line before started with a blank. Folding drops the break between two lines that start
with no blank, and puts a blank there unless further breaks follow. The fuel bounds the number of
lines. -/
def blockLines? (isFolded : Bool) (indent : Nat) :
    Nat → List Char → List Char → Bool → Cursor → Option BlockLines
  | 0, _, _, _, _ => none
  | fuel + 1, lastBreak, breaks, afterBlank, cursor =>
    if cursor.position.column = indent ∧ !cursor.rest.isEmpty then do
      let startsBlank := cursor.rest.head?.any isBlank
      let joint :=
        if isFolded && lastBreak == ['\n'] && !afterBlank && !startsBlank then
          if breaks.isEmpty then [' '] else []
        else lastBreak
      let line := cursor.rest.takeWhile fun c => !isBreak c
      let (nextBreak, lineEnd) := (cursor.skip line.length).takeBreak
      let next ← blockBreaks? (some indent) 0 lineEnd.position lineEnd.rest
      let tail ← blockLines? isFolded indent fuel nextBreak next.text startsBlank next.cursor
      some { tail with text := joint ++ breaks ++ line ++ tail.text }
    else some ⟨[], lastBreak, breaks, cursor⟩

/-- Reads a block scalar from behind its indicator. The margin is the first column behind that of
the enclosing block. -/
def blockScalar? (isFolded : Bool) (margin : Nat) (cursor : Cursor) :
    Option (List Char × Cursor) := do
  let (header, length) ← blockHeader? cursor.rest
  let start ← (cursor.skip length).endLine?
  let given := header.increment.map fun increment => margin - 1 + increment
  let breaks ← blockBreaks? given 0 start.position start.rest
  let indent := given.getD (max (max breaks.widest margin) 1)
  let lines ←
    blockLines? isFolded indent (breaks.cursor.rest.length + 1) [] breaks.text false breaks.cursor
  let tail := match header.chomping with
    | .strip => []
    | .clip => lines.lastBreak
    | .keep => lines.lastBreak ++ lines.breaks
  return (lines.text ++ tail, lines.cursor)

end Attest.Yaml
