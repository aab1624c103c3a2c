import Attest.Regex.CharClass

/-!
# Regular expressions

An expression matches a stretch of a text. Whether it matches anywhere is decided by following sets
of positions: an expression takes the positions where a stretch may start to those where one may
end. A set of positions is a list with one truth value for each place between characters, the ends
of the text included, so repetition is a fixed point reached after at most as many rounds as the
text has characters. Which of several stretches is found, and how an expression is grouped, play no
part.
-/

namespace Attest

/-- A condition on the characters around a position. Word characters are those of ASCII or of all
scripts. -/
inductive Regex.Look where
  | textStart
  | textEnd
  | lineStart
  | lineEnd
  | anyLineStart
  | anyLineEnd
  | wordBoundary (ascii : Bool)
  | noWordBoundary (ascii : Bool)
  | wordStart (ascii : Bool)
  | wordEnd (ascii : Bool)
  | wordStartHalf (ascii : Bool)
  | wordEndHalf (ascii : Bool)
deriving DecidableEq, Repr

/-- A regular expression. -/
inductive Regex where
  | empty
  | one (members : Regex.CharClass)
  | look (condition : Regex.Look)
  | both (first second : Regex)
  | either (first second : Regex)
  | repeated (least : Nat) (most : Option Nat) (body : Regex)

namespace Regex

/-! ### Conditions -/

/-- Whether there is a word character. -/
def isWordAt (ascii : Bool) (c? : Option Char) : Bool :=
  match c? with
  | none => false
  | some c => (if ascii then Shorthand.word.ascii else Shorthand.word.unicode).contains c.toNat

/-- Whether a condition holds between two characters, either of which may be missing. -/
def Look.holds (look : Look) (before after : Option Char) : Bool :=
  match look with
  | textStart => before.isNone
  | textEnd => after.isNone
  | lineStart => before.isNone || before == some '\n'
  | lineEnd => after.isNone || after == some '\n'
  | anyLineStart =>
    before.isNone || before == some '\n' || (before == some '\r' && after != some '\n')
  | anyLineEnd =>
    after.isNone || after == some '\r' || (after == some '\n' && before != some '\r')
  | wordBoundary ascii => isWordAt ascii before != isWordAt ascii after
  | noWordBoundary ascii => isWordAt ascii before == isWordAt ascii after
  | wordStart ascii => !isWordAt ascii before && isWordAt ascii after
  | wordEnd ascii => isWordAt ascii before && !isWordAt ascii after
  | wordStartHalf ascii => !isWordAt ascii before
  | wordEndHalf ascii => !isWordAt ascii after

/-! ### Sets of positions -/

/-- A truth value for every position of a text. -/
abbrev Positions : Type := List Bool

namespace Positions

def union (s t : Positions) : Positions :=
  List.zipWith (· || ·) s t

def minus (s t : Positions) : Positions :=
  List.zipWith (fun a b => a && !b) s t

def isEmpty (s : Positions) : Bool :=
  !s.any id

/-- The positions after a character of the class that has the position before it in the set. -/
def advance (members : CharClass) (text : List Char) (s : Positions) : Positions :=
  false :: List.zipWith (fun c here => here && members.contains c.toNat) text s

/-- The positions of the set where the condition holds, with the character before them given. -/
def restrict (look : Look) : Option Char → List Char → Positions → Positions
  | _, _, [] => []
  | before, [], here :: rest => (here && look.holds before none) :: restrict look none [] rest
  | before, c :: text, here :: rest =>
    (here && look.holds before (some c)) :: restrict look (some c) text rest

/-- The set after a number of steps; a set that a step leaves alone is not stepped on. -/
def iterate (step : Positions → Positions) : Nat → Positions → Positions
  | 0, s => s
  | count + 1, s =>
    let next := step s
    if next == s then s else iterate step count next

/-- All positions reached in up to a number of steps, where the frontier was reached last. -/
def closure (step : Positions → Positions) : Nat → Positions → Positions → Positions
  | 0, reached, _ => reached
  | count + 1, reached, frontier =>
    let fresh := minus (step frontier) reached
    if isEmpty fresh then reached else closure step count (union reached fresh) fresh

end Positions

/-- The positions where a stretch may end, from those where it may start. -/
def ends (text : List Char) : Regex → Positions → Positions
  | empty, s => s
  | one members, s => Positions.advance members text s
  | look condition, s => Positions.restrict condition none text s
  | both first second, s => ends text second (ends text first s)
  | either first second, s => Positions.union (ends text first s) (ends text second s)
  | repeated least most body, s =>
    let start := Positions.iterate (ends text body) least s
    let rounds := match most with
      | some most => most - least
      | none => text.length + 1
    Positions.closure (ends text body) rounds start start

/-- Whether an expression matches some stretch of a text. -/
def matchesIn (regex : Regex) (text : List Char) : Bool :=
  (ends text regex (List.replicate (text.length + 1) true)).any id

/-- About how many bytes the states of an expression take, each repetition spelled out. -/
def weight : Regex → Nat
  | empty => 32
  | one members => 64 * members.rangeCount
  | look _ => 32
  | both first second => first.weight + second.weight
  | either first second => first.weight + second.weight + 32
  | repeated least most body => (most.getD (least + 1)) * (body.weight + 32) + 32

end Regex

end Attest
