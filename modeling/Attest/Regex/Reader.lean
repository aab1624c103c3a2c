import Attest.Regex.Basic
import Attest.Unicode.PropertyName

/-!
# Reading regular expressions

A pattern is read from left to right by descent into its groups and classes. Flags take effect where
they are written and up to the end of the group. What cannot be read is refused with the reason; so
are nesting and repetition beyond fixed limits, groups of one name, look-around and
back-references.
-/

namespace Attest.Regex

/-- The reasons for refusing a pattern. -/
inductive Fault where
  | groupUnopened
  | groupUnclosed
  | groupNameUnclosed
  | groupNameInvalid
  | groupNameEmpty
  | groupNameRepeated
  | lookAround
  | backReference
  | flagUnknown
  | flagRepeated
  | flagNegationRepeated
  | flagNegationDangling
  | flagsUnclosed
  | nothingToRepeat
  | countEmpty
  | countTooLarge
  | countUnclosed
  | countReversed
  | escapeUnfinished
  | escapeUnknown
  | hexEmpty
  | hexDigitInvalid
  | hexInvalid
  | boundaryUnclosed
  | boundaryUnknown
  | classUnclosed
  | classRangeReversed
  | classRangeNotCharacter
  | classEscapeInvalid
  | propertyInvalid
  | propertyUnknown
  | asciiOnly
  | notText
  | nestedTooDeep
  | tooLarge
deriving DecidableEq, Repr

/-- What a reason says. -/
def Fault.message : Fault → String
  | groupUnopened => "unopened group"
  | groupUnclosed => "unclosed group"
  | groupNameUnclosed => "unclosed group name"
  | groupNameInvalid => "invalid character in a group name"
  | groupNameEmpty => "empty group name"
  | groupNameRepeated => "group name used twice"
  | lookAround => "look-around is not supported"
  | backReference => "back-references are not supported"
  | flagUnknown => "unknown flag"
  | flagRepeated => "flag given twice"
  | flagNegationRepeated => "flags negated twice"
  | flagNegationDangling => "negation without a flag"
  | flagsUnclosed => "unclosed flags"
  | nothingToRepeat => "repetition without an expression"
  | countEmpty => "repetition without a count"
  | countTooLarge => "repetition count too large"
  | countUnclosed => "unclosed repetition count"
  | countReversed => "repetition bounds out of order"
  | escapeUnfinished => "unfinished escape"
  | escapeUnknown => "unknown escape"
  | hexEmpty => "empty character number"
  | hexDigitInvalid => "invalid hexadecimal digit"
  | hexInvalid => "no character has this number"
  | boundaryUnclosed => "unclosed word boundary"
  | boundaryUnknown => "unknown word boundary"
  | classUnclosed => "unclosed character class"
  | classRangeReversed => "range bounds out of order"
  | classRangeNotCharacter => "range bound is no character"
  | classEscapeInvalid => "invalid escape in a character class"
  | propertyInvalid => "invalid property"
  | propertyUnknown => "unknown property"
  | asciiOnly => "only ASCII is allowed here"
  | notText => "the pattern can match what is no text"
  | nestedTooDeep => "nested too deep"
  | tooLarge => "the compiled pattern is too large"

/-- The flags in effect. -/
structure Flags where
  caseInsensitive : Bool
  multiLine : Bool
  dotAll : Bool
  ascii : Bool
  anyLine : Bool
  verbose : Bool
deriving DecidableEq, Repr

def Flags.initial : Flags := ⟨false, false, false, false, false, false⟩

/-! ### Blanks and comments -/

def isBlank (c : Char) : Bool :=
  Unicode.isWhiteSpace c.toNat

/-- Drops blanks and comments; the second argument tells whether a comment is open. -/
def dropBlanks : List Char → Bool → List Char
  | [], _ => []
  | c :: rest, true => dropBlanks rest (c != '\n')
  | c :: rest, false =>
    if isBlank c then dropBlanks rest false
    else if c = '#' then dropBlanks rest true
    else c :: rest

/-- What follows once blanks and comments are passed over, where they do not count. -/
def skip (verbose : Bool) (rest : List Char) : List Char :=
  if verbose then dropBlanks rest false else rest

/-- The character after the one at hand, where blanks are passed over but of a comment only its mark
and the blanks that follow it. -/
def peekAfter (verbose : Bool) (rest : List Char) : Option Char :=
  if !verbose then rest.head?
  else
    let visible := rest.dropWhile isBlank
    match visible with
    | '#' :: more => (more.dropWhile isBlank).head? <|> rest.head?
    | _ => visible.head? <|> rest.head?

/-! ### Characters and classes -/

/-- What an escape or a plain character stands for. -/
inductive Primitive where
  | literal (c : Char) (isByte : Bool)
  | shorthand (kind : Shorthand) (negated : Bool)
  | property (property : Unicode.Property) (negated : Bool)
  | look (condition : Look)

/-- A fixed number of hexadecimal digits. -/
def readHexFixed (verbose : Bool) : Nat → List Char → Nat → Except Fault (Nat × List Char)
  | 0, rest, value => .ok (value, rest)
  | _ + 1, [], _ => .error .escapeUnfinished
  | count + 1, c :: rest, value =>
    match Unicode.hexDigitValue? c with
    | some digit => readHexFixed verbose count (skip verbose rest) (value * 16 + digit)
    | none => .error .hexDigitInvalid

/-- Hexadecimal digits up to the closing brace. -/
def readHexBraced (verbose : Bool) (rest : List Char) : Except Fault (Nat × List Char) :=
  let body := rest.takeWhile (· ≠ '}')
  let digits := if verbose then body.filter (!isBlank ·) else body
  match rest.dropWhile (· ≠ '}') with
  | [] => .error .escapeUnfinished
  | _ :: rest =>
    if digits.isEmpty then .error .hexEmpty
    else if digits.all fun c => (Unicode.hexDigitValue? c).isSome then
      .ok (Unicode.hexValue digits, skip verbose rest)
    else .error .hexDigitInvalid

/-- The character with a number. -/
def charOfCode (code : Nat) : Except Fault Char :=
  if code.isValidChar then .ok (Char.ofNat code) else .error .hexInvalid

/-- A character by its number, after `x`, `u` or `U`. -/
def readHex (verbose : Bool) (digits : Nat) (rest : List Char) :
    Except Fault (Primitive × List Char) :=
  match skip verbose rest with
  | [] => .error .escapeUnfinished
  | '{' :: rest => do
    let (code, rest) ← readHexBraced verbose rest
    return (.literal (← charOfCode code) false, rest)
  | rest => do
    let (code, rest) ← readHexFixed verbose digits rest 0
    return (.literal (← charOfCode code) (digits == 2), rest)

/-- Splits a list at the first occurrence of a mark. -/
def splitAtMark? (mark : List Char) : List Char → Option (List Char × List Char)
  | [] => none
  | c :: rest =>
    if mark.isPrefixOf (c :: rest) then some ([], (c :: rest).drop mark.length)
    else (splitAtMark? mark rest).map fun (before, after) => (c :: before, after)

/-- The property that braces enclose, and whether a value is excluded. -/
def propertyOfText? (text : List Char) : Option (Unicode.Property × Bool) :=
  match splitAtMark? ['!', '='] text with
  | some (name, value) => (Unicode.Property.valued? name value).map fun p => (p, true)
  | none =>
    match splitAtMark? [':'] text <|> splitAtMark? ['='] text with
    | some (name, value) => (Unicode.Property.valued? name value).map fun p => (p, false)
    | none => (Unicode.Property.named? text).map fun p => (p, false)

/-- A property, after `p` or `P`. -/
def readProperty (flags : Flags) (negated : Bool) (rest : List Char) :
    Except Fault (Primitive × List Char) :=
  let found (text : List Char) (rest : List Char) : Except Fault (Primitive × List Char) :=
    match propertyOfText? text with
    | some (property, excluded) =>
      if flags.ascii then .error .asciiOnly
      else .ok (.property property (negated != excluded), rest)
    | none => .error .propertyUnknown
  match skip flags.verbose rest with
  | [] => .error .escapeUnfinished
  | '{' :: rest =>
    match rest.dropWhile (· ≠ '}') with
    | [] => .error .escapeUnfinished
    | _ :: after =>
      let body := rest.takeWhile (· ≠ '}')
      found (if flags.verbose then body.filter (!isBlank ·) else body) after
  | '\\' :: _ => .error .propertyInvalid
  | c :: rest => found [c] (skip flags.verbose rest)

/-- The characters with a meaning of their own in patterns. -/
def isMeta (c : Char) : Bool :=
  "\\.+*?()|[]\x7b\x7d^$#&-~".toList.contains c

/-- Whether a character stands for itself after a backslash. -/
def isEscapable (c : Char) : Bool :=
  isMeta c || (c.toNat < 0x80 && !c.isAlphanum && c ≠ '<' && c ≠ '>')

def isBoundaryChar (c : Char) : Bool :=
  c.isAlpha || c = '-'

/-- A boundary of the special kinds named in braces, if the brace does not open a count. -/
def readBoundary (flags : Flags) (rest : List Char) : Except Fault (Look × List Char) :=
  let plain := Look.wordBoundary flags.ascii
  match rest with
  | '{' :: inside =>
    match skip flags.verbose inside with
    | [] => .error .boundaryUnclosed
    | c :: more =>
      if !isBoundaryChar c then .ok (plain, rest)
      else
        let visible := if flags.verbose then (c :: more).filter (!isBlank ·) else c :: more
        let name := visible.takeWhile isBoundaryChar
        match (c :: more).dropWhile fun c => isBoundaryChar c || (flags.verbose && isBlank c) with
        | '}' :: after =>
          match String.ofList name with
          | "start" => .ok (.wordStart flags.ascii, after)
          | "end" => .ok (.wordEnd flags.ascii, after)
          | "start-half" => .ok (.wordStartHalf flags.ascii, after)
          | "end-half" => .ok (.wordEndHalf flags.ascii, after)
          | _ => .error .boundaryUnknown
        | _ => .error .boundaryUnclosed
  | _ => .ok (plain, rest)

/-- What a backslash introduces. -/
def readEscape (flags : Flags) : List Char → Except Fault (Primitive × List Char)
  | [] => .error .escapeUnfinished
  | c :: rest =>
    if isMeta c then .ok (.literal c false, rest)
    else match c with
    | 'x' => readHex flags.verbose 2 rest
    | 'u' => readHex flags.verbose 4 rest
    | 'U' => readHex flags.verbose 8 rest
    | 'p' => readProperty flags false rest
    | 'P' => readProperty flags true rest
    | 'd' => .ok (.shorthand .digit false, rest)
    | 'D' => .ok (.shorthand .digit true, rest)
    | 's' => .ok (.shorthand .space false, rest)
    | 'S' => .ok (.shorthand .space true, rest)
    | 'w' => .ok (.shorthand .word false, rest)
    | 'W' => .ok (.shorthand .word true, rest)
    | 'a' => .ok (.literal '\x07' false, rest)
    | 'f' => .ok (.literal '\x0c' false, rest)
    | 't' => .ok (.literal '\t' false, rest)
    | 'n' => .ok (.literal '\n' false, rest)
    | 'r' => .ok (.literal '\r' false, rest)
    | 'v' => .ok (.literal '\x0b' false, rest)
    | 'A' => .ok (.look .textStart, rest)
    | 'z' => .ok (.look .textEnd, rest)
    | 'b' => (readBoundary flags rest).map fun (condition, rest) => (Primitive.look condition, rest)
    | 'B' => .ok (.look (.noWordBoundary flags.ascii), rest)
    | '<' => .ok (.look (.wordStart flags.ascii), rest)
    | '>' => .ok (.look (.wordEnd flags.ascii), rest)
    | _ =>
      if c.isDigit then .error .backReference
      else if isEscapable c then .ok (.literal c false, rest)
      else .error .escapeUnknown

/-- A class without regard to case, if the flags say so. -/
def foldIf (flags : Flags) (members : CharClass) : CharClass :=
  if !flags.caseInsensitive then members
  else if flags.ascii then .foldedAscii members
  else .folded members

/-- The complement of a class, if asked for. Among single bytes it would hold bytes that are no
text. -/
def negateIf (flags : Flags) (negated : Bool) (members : CharClass) : Except Fault CharClass :=
  if !negated then .ok members
  else if flags.ascii then .error .notText
  else .ok (.negation members)

/-- The class of a shorthand. -/
def shorthandClass (flags : Flags) (kind : Shorthand) (negated : Bool) : Except Fault CharClass :=
  negateIf flags negated (if flags.ascii then kind.ascii else kind.unicode)

/-- The class of a property. -/
def propertyClass (flags : Flags) (property : Unicode.Property) (negated : Bool) :
    Except Fault CharClass :=
  negateIf flags negated (foldIf flags (.property property))

/-- A character as a member of a class. -/
def memberChar (flags : Flags) (c : Char) (isByte : Bool) : Except Fault Char :=
  if flags.ascii ∧ 0x80 ≤ c.toNat then .error (if isByte then .notText else .asciiOnly)
  else .ok c

/-- A member of a class that is no range. -/
def memberClass (flags : Flags) : Primitive → Except Fault CharClass
  | .literal c isByte => (memberChar flags c isByte).map CharClass.single
  | .shorthand kind negated => shorthandClass flags kind negated
  | .property property negated => propertyClass flags property negated
  | .look _ => .error .classEscapeInvalid

/-- A plain or escaped character of a class. -/
def readMember (flags : Flags) : List Char → Except Fault (Primitive × List Char)
  | [] => .error .classUnclosed
  | '\\' :: rest => readEscape flags rest
  | c :: rest => .ok (.literal c false, rest)

/-- An end of a range. -/
def rangeEnd (flags : Flags) : Primitive → Except Fault Char
  | .literal c isByte => memberChar flags c isByte
  | _ => .error .classRangeNotCharacter

/-- A member or range of a class. -/
def readRange (flags : Flags) (rest : List Char) : Except Fault (CharClass × List Char) := do
  let (first, rest) ← readMember flags rest
  match skip flags.verbose rest with
  | [] => .error .classUnclosed
  | '-' :: more =>
    let next := peekAfter flags.verbose more
    if next = some ']' ∨ next = some '-' then
      return (← memberClass flags first, '-' :: more)
    else
      match skip flags.verbose more with
      | [] => .error .classUnclosed
      | more =>
        let (last, rest) ← readMember flags more
        let low ← rangeEnd flags first
        let high ← rangeEnd flags last
        if high.toNat < low.toNat then .error .classRangeReversed
        else return (.range low.toNat high.toNat, rest)
  | rest => return (← memberClass flags first, rest)

/-- A named class such as `[:alpha:]`, after its opening bracket. -/
def readNamedClass? (rest : List Char) : Option (CharClass × Bool × List Char) :=
  match rest with
  | ':' :: rest =>
    let (negated, rest) := match rest with
      | '^' :: rest => (true, rest)
      | _ => (false, rest)
    match rest.dropWhile (· ≠ ':') with
    | ':' :: ']' :: after =>
      (asciiClass? (rest.takeWhile (· ≠ ':'))).map fun members => (members, negated, after)
    | _ => none
  | _ => none

/-- The operations between parts of a class. -/
inductive ClassOperation where
  | intersection
  | difference
  | symmetricDifference

/-- The parts of a class read so far: the members since the last operation, and the operation with
its left side. Depths count levels of nesting. -/
structure ClassParts where
  members : List (CharClass × Nat)
  pending : Option (ClassOperation × CharClass × Nat)

namespace ClassParts

def add (parts : ClassParts) (members : CharClass) (depth : Nat) : ClassParts :=
  { parts with members := (members, depth) :: parts.members }

/-- The class of everything read so far, with its depth. -/
def total (flags : Flags) (parts : ClassParts) : CharClass × Nat :=
  let right := CharClass.unionOf (parts.members.reverse.map (·.1))
  let rightDepth := match parts.members with
    | [] => 0
    | [(_, depth)] => depth
    | members => (members.map (·.2)).foldl max 0 + 1
  match parts.pending with
  | none => (right, rightDepth)
  | some (operation, left, leftDepth) =>
    let left := foldIf flags left
    let right := foldIf flags right
    let combined := match operation with
      | .intersection => CharClass.intersection left right
      | .difference => CharClass.difference left right
      | .symmetricDifference => CharClass.symmetricDifference left right
    (combined, max leftDepth rightDepth + 1)

/-- Starts the right side of an operation. -/
def operate (flags : Flags) (operation : ClassOperation) (parts : ClassParts) : ClassParts :=
  let (left, depth) := parts.total flags
  ⟨[], some (operation, left, depth)⟩

end ClassParts

/-- Hyphens at the head of a class stand for themselves. -/
def readLeadingHyphens (verbose : Bool) (parts : ClassParts) :
    Nat → List Char → ClassParts × List Char
  | 0, rest => (parts, rest)
  | fuel + 1, '-' :: rest =>
    readLeadingHyphens verbose (parts.add (.single '-') 0) fuel (skip verbose rest)
  | _ + 1, rest => (parts, rest)

/-- The head of a class after its opening bracket: whether it is negated, and the members that need
no escape because they come first. -/
def readClassHead (flags : Flags) (rest : List Char) : Bool × ClassParts × List Char :=
  let rest := skip flags.verbose rest
  let (negated, rest) := match rest with
    | '^' :: rest => (true, skip flags.verbose rest)
    | _ => (false, rest)
  let (parts, rest) := readLeadingHyphens flags.verbose ⟨[], none⟩ rest.length rest
  match rest, parts.members with
  | ']' :: rest, [] => (negated, parts.add (.single ']') 0, skip flags.verbose rest)
  | _, _ => (negated, parts, rest)

/-- The rest of a class up to its closing bracket, with its depth. -/
def readClassBody (flags : Flags) :
    Nat → Bool → ClassParts → List Char → Except Fault (CharClass × Nat × List Char)
  | 0, _, _, _ => .error .classUnclosed
  | fuel + 1, negated, parts, rest =>
    match skip flags.verbose rest with
    | [] => .error .classUnclosed
    | ']' :: rest => do
      let (members, depth) := parts.total flags
      return (← negateIf flags negated (foldIf flags members), depth + 1, rest)
    | '[' :: rest =>
      match readNamedClass? rest with
      | some (members, excluded, rest) => do
        let members ← negateIf flags excluded (foldIf flags members)
        readClassBody flags fuel negated (parts.add members 0) rest
      | none => do
        let (innerNegated, innerParts, rest) := readClassHead flags rest
        let (members, depth, rest) ← readClassBody flags fuel innerNegated innerParts rest
        readClassBody flags fuel negated (parts.add members depth) rest
    | '&' :: '&' :: rest =>
      readClassBody flags fuel negated (parts.operate flags .intersection) rest
    | '-' :: '-' :: rest =>
      readClassBody flags fuel negated (parts.operate flags .difference) rest
    | '~' :: '~' :: rest =>
      readClassBody flags fuel negated (parts.operate flags .symmetricDifference) rest
    | rest => do
      let (members, rest) ← readRange flags rest
      readClassBody flags fuel negated (parts.add members 0) rest

/-- A class after its opening bracket. -/
def readClass (flags : Flags) (rest : List Char) : Except Fault (CharClass × Nat × List Char) :=
  let (negated, parts, rest) := readClassHead flags rest
  readClassBody flags (rest.length + 1) negated parts rest

/-! ### Groups -/

/-- The flags that letters between a question mark and a colon or parenthesis set. -/
def readFlags (fuel : Nat) (flags : Flags) (seen : List Char) (negated : Bool) (last : Option Char)
    (rest : List Char) : Except Fault (Flags × List Char) :=
  match fuel, rest with
  | 0, _ | _, [] => .error .flagsUnclosed
  | fuel + 1, c :: rest =>
    if c = ':' ∨ c = ')' then
      if last = some '-' then .error .flagNegationDangling else .ok (flags, c :: rest)
    else if c = '-' then
      if negated then .error .flagNegationRepeated
      else readFlags fuel flags seen true (some c) rest
    else if seen.contains c then .error .flagRepeated
    else
      let proceed (flags : Flags) := readFlags fuel flags (c :: seen) negated (some c) rest
      match c with
      | 'i' => proceed { flags with caseInsensitive := !negated }
      | 'm' => proceed { flags with multiLine := !negated }
      | 's' => proceed { flags with dotAll := !negated }
      | 'U' => proceed flags
      | 'u' => proceed { flags with ascii := negated }
      | 'R' => proceed { flags with anyLine := !negated }
      | 'x' => proceed { flags with verbose := !negated }
      | _ => .error .flagUnknown

def isNameStart (c : Char) : Bool :=
  c = '_' || Unicode.isAlphabetic c.toNat

def isNameRest (c : Char) : Bool :=
  c = '_' || c = '.' || c = '[' || c = ']' || Unicode.isAlphanumeric c.toNat

/-- The name of a group, which no group before it has. -/
def readName (names : List (List Char)) (rest : List Char) :
    Except Fault (List Char × List Char) :=
  let name := rest.takeWhile (· ≠ '>')
  let valid := match name with
    | [] => true
    | c :: cs => isNameStart c && cs.all isNameRest
  if !valid then .error .groupNameInvalid
  else match rest.dropWhile (· ≠ '>') with
  | [] => .error .groupNameUnclosed
  | _ :: rest =>
    if name.isEmpty then .error .groupNameEmpty
    else if names.contains name then .error .groupNameRepeated
    else .ok (name, rest)

/-- What an opening parenthesis starts: a group with its flags, or flags for the rest. -/
inductive Opening where
  | group (flags : Flags)
  | flags (flags : Flags)

/-- What follows an opening parenthesis, with the names of groups including a new one. -/
def readOpening (flags : Flags) (names : List (List Char)) (rest : List Char) :
    Except Fault (Opening × List (List Char) × List Char) :=
  match skip flags.verbose rest with
  | '?' :: '=' :: _ | '?' :: '!' :: _ | '?' :: '<' :: '=' :: _ | '?' :: '<' :: '!' :: _ =>
    .error .lookAround
  | '?' :: 'P' :: '<' :: rest | '?' :: '<' :: rest => do
    let (name, rest) ← readName names rest
    return (.group flags, name :: names, rest)
  | ['?'] => .error .groupUnclosed
  | '?' :: rest => do
    let (inner, after) ← readFlags rest.length flags [] false none rest
    match after with
    | ')' :: after =>
      if rest.head? = some ')' then .error .nothingToRepeat
      else return (.flags inner, names, after)
    | _ => return (.group inner, names, after.drop 1)
  | rest => .ok (.group flags, names, rest)

/-! ### Repetition -/

/-- A decimal count with the blanks around it, if there is one. -/
def readCount (verbose : Bool) (rest : List Char) : Except Fault (Option Nat × List Char) :=
  let blanks (rest : List Char) : List Char := rest.dropWhile isBlank
  let rec digits : Nat → List Char → List Char → List Char × List Char
    | 0, rest, done => (done.reverse, rest)
    | fuel + 1, c :: rest, done =>
      if c.isDigit then digits fuel (skip verbose rest) (c :: done) else (done.reverse, c :: rest)
    | _ + 1, [], done => (done.reverse, [])
  let (count, rest) := digits rest.length (blanks rest) []
  let rest := skip verbose (blanks rest)
  if count.isEmpty then .ok (none, rest)
  else
    let value := count.foldl (fun value c => value * 10 + (c.toNat - '0'.toNat)) 0
    if 4294967296 ≤ value then .error .countTooLarge else .ok (some value, rest)

/-- The bounds between braces, after the opening one. -/
def readBounds (verbose : Bool) (rest : List Char) :
    Except Fault (Nat × Option Nat × List Char) := do
  match skip verbose rest with
  | [] => .error .countUnclosed
  | rest =>
    let (least?, rest) ← readCount verbose rest
    match rest, least? with
    | ',' :: rest, _ =>
      match skip verbose rest, least? with
      | [], _ => .error .countUnclosed
      | '}' :: rest, some least => return (least, none, rest)
      | '}' :: _, none => .error .countEmpty
      | _, none => .error .countEmpty
      | rest, some least =>
        match ← readCount verbose rest with
        | (some most, '}' :: rest) =>
          if most < least then .error .countReversed else return (least, some most, rest)
        | (none, _) => .error .countEmpty
        | _ => .error .countUnclosed
    | '}' :: rest, some count => return (count, some count, rest)
    | _, none => .error .countEmpty
    | _, _ => .error .countUnclosed

/-- Drops the mark that makes a repetition prefer few rounds. -/
def dropLazy : List Char → List Char
  | '?' :: rest => rest
  | rest => rest

/-! ### Expressions -/

/-- A part of a sequence: flags, or an expression with its depth. -/
inductive Part where
  | flags
  | regex (regex : Regex) (depth : Nat)

/-- The expression of a sequence of parts. -/
def sequenceOf (parts : List Part) : Regex × Nat :=
  let expressions := parts.filterMap fun
    | .flags => none
    | .regex regex _ => some regex
  let depths := parts.map fun
    | .flags => 0
    | .regex _ depth => depth
  let regex := match expressions with
    | [] => Regex.empty
    | first :: rest => rest.foldl Regex.both first
  (regex, depths.foldl max 0 + if parts.length < 2 then 0 else 1)

/-- The expression of some branches, of which there is at least one. -/
def choiceOf (branches : List (Regex × Nat)) : Regex × Nat :=
  match branches with
  | [] => (.empty, 0)
  | [branch] => branch
  | first :: rest =>
    let (regex, depth) :=
      rest.foldl (fun all branch => (.either all.1 branch.1, max all.2 branch.2)) first
    (regex, depth + 1)

/-- Repeats the last part. -/
def repeatLast (least : Nat) (most : Option Nat) : List Part → Except Fault (List Part)
  | .regex regex depth :: parts => .ok (.regex (.repeated least most regex) (depth + 1) :: parts)
  | _ => .error .nothingToRepeat

/-- The expression of a character outside classes. -/
def literalRegex (flags : Flags) (c : Char) (isByte : Bool) : Except Fault Regex :=
  if flags.ascii ∧ isByte ∧ 0x80 ≤ c.toNat then .error .notText
  else .ok (.one (foldIf flags (.single c)))

/-- The expression of an escape outside classes. -/
def primitiveRegex (flags : Flags) : Primitive → Except Fault Regex
  | .literal c isByte => literalRegex flags c isByte
  | .shorthand kind negated => (shorthandClass flags kind negated).map .one
  | .property property negated => (propertyClass flags property negated).map .one
  | .look condition => .ok (.look condition)

/-- The expression of a dot. -/
def dotRegex (flags : Flags) : Except Fault Regex :=
  if flags.ascii then .error .notText
  else if flags.dotAll then .ok (.one .all)
  else if flags.anyLine then .ok (.one (.negation (.union (.single '\n') (.single '\r'))))
  else .ok (.one (.negation (.single '\n')))

def startLook (flags : Flags) : Look :=
  if !flags.multiLine then .textStart else if flags.anyLine then .anyLineStart else .lineStart

def endLook (flags : Flags) : Look :=
  if !flags.multiLine then .textEnd else if flags.anyLine then .anyLineEnd else .lineEnd

/-- A result of reading: the expression with its depth, the names of groups, and the rest. -/
structure Reading where
  regex : Regex
  depth : Nat
  names : List (List Char)
  rest : List Char

/-- Reads up to the end of the pattern or of the group; the parts and branches before come in
reverse. -/
def readChoice (fuel : Nat) (flags : Flags) (names : List (List Char)) (parts : List Part)
    (branches : List (Regex × Nat)) (rest : List Char) : Except Fault Reading :=
  match fuel with
  | 0 => .error .groupUnclosed
  | fuel + 1 =>
    let finish (rest : List Char) : Except Fault Reading :=
      let (regex, depth) := choiceOf (sequenceOf parts.reverse :: branches).reverse
      .ok ⟨regex, depth, names, rest⟩
    match skip flags.verbose rest with
    | [] => finish []
    | ')' :: rest => finish (')' :: rest)
    | '|' :: rest =>
      readChoice fuel flags names [] (sequenceOf parts.reverse :: branches) rest
    | '(' :: rest => do
      match ← readOpening flags names rest with
      | (.flags inner, names, rest) => readChoice fuel inner names (.flags :: parts) branches rest
      | (.group inner, names, rest) =>
        let body ← readChoice fuel inner names [] [] rest
        match body.rest with
        | ')' :: rest =>
          readChoice fuel flags body.names (.regex body.regex (body.depth + 1) :: parts) branches
            rest
        | _ => .error .groupUnclosed
    | '[' :: rest => do
      let (members, depth, rest) ← readClass flags rest
      readChoice fuel flags names (.regex (.one members) depth :: parts) branches rest
    | '?' :: rest => do
      readChoice fuel flags names (← repeatLast 0 (some 1) parts) branches (dropLazy rest)
    | '*' :: rest => do
      readChoice fuel flags names (← repeatLast 0 none parts) branches (dropLazy rest)
    | '+' :: rest => do
      readChoice fuel flags names (← repeatLast 1 none parts) branches (dropLazy rest)
    | '{' :: rest => do
      let (least, most, rest) ← readBounds flags.verbose rest
      readChoice fuel flags names (← repeatLast least most parts) branches
        (dropLazy (skip flags.verbose rest))
    | '\\' :: rest => do
      let (primitive, rest) ← readEscape flags rest
      let regex ← primitiveRegex flags primitive
      readChoice fuel flags names (.regex regex 0 :: parts) branches rest
    | '.' :: rest => do
      readChoice fuel flags names (.regex (← dotRegex flags) 0 :: parts) branches rest
    | '^' :: rest =>
      readChoice fuel flags names (.regex (.look (startLook flags)) 0 :: parts) branches rest
    | '$' :: rest =>
      readChoice fuel flags names (.regex (.look (endLook flags)) 0 :: parts) branches rest
    | c :: rest => do
      let regex ← literalRegex flags c false
      readChoice fuel flags names (.regex regex 0 :: parts) branches rest

/-- The greatest depth of nesting. -/
def depthLimit : Nat := 250

/-- The greatest number of bytes for the states of an expression. -/
def weightLimit : Nat := 10485760

/-- Reads a pattern. Every step takes a character, so its length bounds their number. -/
def ofPattern (pattern : List Char) : Except Fault Regex := do
  let reading ← readChoice (pattern.length + 1) .initial [] [] [] pattern
  if !reading.rest.isEmpty then .error .groupUnopened
  else if depthLimit < reading.depth then .error .nestedTooDeep
  else if weightLimit < reading.regex.weight then .error .tooLarge
  else return reading.regex

end Attest.Regex
