/-!
# Glob patterns

A glob describes texts by characters, wildcards and classes. One star stands for any run of
characters; two stars stand for any number of whole path components. A trial of the rest of a
pattern at some point of a text tells apart a mismatch, after which a star tries further on, and a
text that ended too early, after which no later point can do better.
-/

namespace Attest

namespace Glob

/-- A part of a pattern. Classes are given by their ranges, with both ends in. -/
inductive Token where
  | char (c : Char)
  | any
  | many
  | components
  | within (ranges : List (Char × Char))
  | except (ranges : List (Char × Char))
deriving DecidableEq, Repr

/-- What is wrong with a pattern. -/
inductive Cause where
  | wildcards
  | component
  | range
deriving DecidableEq, Repr

/-- What is wrong with a pattern, and near which character. -/
structure Fault where
  position : Nat
  cause : Cause
deriving DecidableEq, Repr

namespace Fault

/-- The sentence that reports a fault. -/
def message (fault : Fault) : String :=
  "Pattern syntax error near position " ++ .ofList (Nat.toDigits 10 fault.position) ++ ": " ++
    match fault.cause with
    | .wildcards => "wildcards are either regular `*` or recursive `**`"
    | .component => "recursive wildcards must form a single path component"
    | .range => "invalid range pattern"

end Fault

/-- The ranges of a class. A dash between two characters spans them. -/
def ranges : List Char → List (Char × Char)
  | low :: '-' :: high :: rest => (low, high) :: ranges rest
  | c :: rest => (c, c) :: ranges rest
  | [] => []

/-- Splits at the closing bracket of a class, if there is one. -/
def splitAtBracket? : List Char → Option (List Char × List Char)
  | [] => none
  | ']' :: rest => some ([], rest)
  | c :: rest => (splitAtBracket? rest).map fun (front, back) => (c :: front, back)

theorem length_lt_of_splitAtBracket? {s front back : List Char}
    (h : splitAtBracket? s = some (front, back)) : back.length < s.length := by
  fun_induction splitAtBracket? s generalizing front with
  | case1 => simp at h
  | case2 rest => simp_all
  | case3 c rest _ ih =>
    obtain ⟨⟨inner, tail⟩, hsplit, heq⟩ := Option.map_eq_some_iff.1 h
    obtain ⟨_, rfl⟩ := Prod.mk.inj heq
    have shorter := ih hsplit
    simp only [List.length_cons]
    omega

/-- Reads the parts of a pattern from a position on, given the character before it. The first
character of a class is in the class even if it is a closing bracket. -/
def read (position : Nat) (previous : Option Char) (s : List Char) : Except Fault (List Token) :=
  match s with
  | [] => .ok []
  | '?' :: rest => (read (position + 1) (some '?') rest).map (.any :: ·)
  | '*' :: '*' :: '*' :: _ => .error ⟨position + 2, .wildcards⟩
  | '*' :: '*' :: rest =>
    if previous = none ∨ previous = some '/' then
      match rest with
      | [] => .ok [.components]
      | '/' :: rest => (read (position + 3) (some '/') rest).map (.components :: ·)
      | _ :: _ => .error ⟨position + 2, .component⟩
    else .error ⟨position - 1, .component⟩
  | '*' :: rest => (read (position + 1) (some '*') rest).map (.many :: ·)
  | '[' :: '!' :: first :: rest =>
    match h : splitAtBracket? rest with
    | some (front, back) =>
      (read (position + front.length + 4) (some ']') back).map
        (.except (ranges (first :: front)) :: ·)
    | none => .error ⟨position, .range⟩
  | '[' :: '!' :: [] => .error ⟨position, .range⟩
  | '[' :: first :: rest =>
    match h : splitAtBracket? rest with
    | some (front, back) =>
      (read (position + front.length + 3) (some ']') back).map
        (.within (ranges (first :: front)) :: ·)
    | none => .error ⟨position, .range⟩
  | '[' :: [] => .error ⟨position, .range⟩
  | c :: rest => (read (position + 1) (some c) rest).map (.char c :: ·)
termination_by s.length
decreasing_by
  all_goals simp only [List.length_cons]
  all_goals try have shorter := length_lt_of_splitAtBracket? h
  all_goals omega

/-- How a trial of a pattern at some point of a text ends. -/
inductive Trial where
  | matched
  | mismatched
  | exhausted
deriving DecidableEq, Repr

/-- Whether a character is in one of some ranges. -/
def inRanges (ranges : List (Char × Char)) (c : Char) : Bool :=
  ranges.any fun (low, high) => low ≤ c && c ≤ high

/-- Tries the rest of a pattern after each character that admits it, until a trial does not end in a
mismatch, and at last with no text left. -/
def retry (admits : Char → Bool) (next : List Char → Trial) : List Char → Trial
  | [] => next []
  | c :: text =>
    if admits c then
      match next text with
      | .mismatched => retry admits next text
      | trial => trial
    else retry admits next text

/-- Tries the rest of a pattern here and then further on. -/
def tryFrom (admits : Char → Bool) (next : List Char → Trial) (text : List Char) : Trial :=
  match next text with
  | .mismatched => retry admits next text
  | trial => trial

/-- Tries one character against a condition and goes on behind it. -/
def tryOne (accepts : Char → Bool) (next : List Char → Trial) : List Char → Trial
  | [] => .exhausted
  | c :: text => if accepts c then next text else .mismatched

/-- Tries a pattern at the start of a text, all of which it has to match. -/
def trial : List Token → List Char → Trial
  | [], [] => .matched
  | [], _ :: _ => .mismatched
  | .char c :: tokens, text => tryOne (· == c) (trial tokens) text
  | .any :: tokens, text => tryOne (fun _ => true) (trial tokens) text
  | .within ranges :: tokens, text => tryOne (inRanges ranges) (trial tokens) text
  | .except ranges :: tokens, text => tryOne (fun c => !inRanges ranges c) (trial tokens) text
  | .many :: tokens, text => tryFrom (fun _ => true) (trial tokens) text
  | .components :: tokens, text => tryFrom (· == '/') (trial tokens) text

end Glob

/-- A pattern for whole texts. -/
structure Glob where
  tokens : List Glob.Token
deriving DecidableEq, Repr

namespace Glob

/-- The pattern that a text spells. -/
def ofPattern (pattern : String) : Except Fault Glob :=
  (read 0 none pattern.toList).map Glob.mk

/-- Whether a pattern describes a text. -/
def describes (glob : Glob) (text : String) : Bool :=
  trial glob.tokens text.toList == .matched

end Glob

end Attest
