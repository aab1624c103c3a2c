import Attest.Unicode.Category
import Attest.Unicode.ListedProperty
import Attest.Unicode.Script

/-!
# Properties of code points

A property is a set of code points. Most of the properties that programs ask for are unions of
general categories with a short list of exceptions, so they are defined here as such unions; the
exceptions are the listed properties.
-/

namespace Attest.Unicode

def isAssigned (code : Nat) : Bool :=
  Category.anyHolds Category.assigned code

def isLowercase (code : Nat) : Bool :=
  Category.lowercaseLetter.holds code || ListedProperty.otherLowercase.holds code

def isUppercase (code : Nat) : Bool :=
  Category.uppercaseLetter.holds code || ListedProperty.otherUppercase.holds code

def isCased (code : Nat) : Bool :=
  isLowercase code || isUppercase code || Category.titlecaseLetter.holds code

def isAlphabetic (code : Nat) : Bool :=
  isCased code ||
    Category.anyHolds [.modifierLetter, .otherLetter, .letterNumber] code ||
    ListedProperty.otherAlphabetic.holds code

/-- A letter or a number of any kind. -/
def isAlphanumeric (code : Nat) : Bool :=
  isAlphabetic code || Category.anyHolds Category.numbers code

def isWhiteSpace (code : Nat) : Bool :=
  ListedProperty.whiteSpace.holds code

def isMath (code : Nat) : Bool :=
  Category.mathSymbol.holds code || ListedProperty.otherMath.holds code

/-- Whether the code point continues the character before it instead of starting a new one. -/
def isGraphemeExtend (code : Nat) : Bool :=
  Category.anyHolds [.nonspacingMark, .enclosingMark] code ||
    ListedProperty.otherGraphemeExtend.holds code

def isGraphemeBase (code : Nat) : Bool :=
  isAssigned code && !isGraphemeExtend code &&
    !Category.anyHolds [.control, .format, .privateUse, .lineSeparator, .paragraphSeparator] code

def isIdStart (code : Nat) : Bool :=
  (Category.anyHolds Category.letters code || Category.letterNumber.holds code ||
    ListedProperty.otherIdStart.holds code) &&
    !ListedProperty.patternSyntax.holds code

def isIdContinue (code : Nat) : Bool :=
  isIdStart code ||
    Category.anyHolds [.nonspacingMark, .spacingMark, .decimalNumber, .connectorPunctuation] code ||
    ListedProperty.otherIdContinue.holds code

/-- Members of identifiers whose normal form is no identifier, wherever they stand. -/
def unstableIdContinueTable : RangeTable :=
  .ofLines ["37a 309b-309c fc5e-fc63 fdfa-fdfb fe70-fe7e/2"]

/-- Members that may follow but not start an identifier that stays one under normalisation. -/
def unstableIdStartTable : RangeTable :=
  .ofLines ["e33 eb3 ff9e-ff9f"]

def isXidContinue (code : Nat) : Bool :=
  isIdContinue code && !unstableIdContinueTable.contains code

def isXidStart (code : Nat) : Bool :=
  isIdStart code && !unstableIdContinueTable.contains code && !unstableIdStartTable.contains code

/-- Punctuation and signs inside words that case mappings look past. -/
def caseIgnorablePunctuationTable : RangeTable :=
  .ofLines ["27 2e 3a b7 387 55f 5f4 2018-2019 2024 2027 fe13 fe52 fe55 ff07 ff0e ff1a"]

def isCaseIgnorable (code : Nat) : Bool :=
  Category.anyHolds
      [.nonspacingMark, .enclosingMark, .format, .modifierLetter, .modifierSymbol] code ||
    caseIgnorablePunctuationTable.contains code

/-- Format characters with a visible form. -/
def visibleFormatTable : RangeTable :=
  .ofLines ["600-605 6dd 70f 890-891 8e2 fff9-fffb 110bd 110cd 13430-1343f"]

def isDefaultIgnorable (code : Nat) : Bool :=
  (Category.format.holds code && !visibleFormatTable.contains code) ||
    ListedProperty.variationSelector.holds code || ListedProperty.otherDefaultIgnorable.holds code

def changesWhenCasemapped (code : Nat) : Bool :=
  ListedProperty.changesWhenLowercased.holds code ||
    ListedProperty.changesWhenTitlecased.holds code ||
    ListedProperty.changesWhenUppercased.holds code

/-- A character of words: alphabetic, a mark, a decimal digit, connector punctuation, or a control
that joins or separates letters. -/
def isWord (code : Nat) : Bool :=
  isAlphabetic code || Category.anyHolds Category.marks code ||
    Category.anyHolds [.decimalNumber, .connectorPunctuation] code ||
    ListedProperty.joinControl.holds code

/-- A character with a form of its own on paper: no control, format, private or unassigned code
point, no separator but the blank, and nothing that may be left out. -/
def isPrintable (code : Nat) : Bool :=
  if code < 0x20 then false
  else if code < 0x7f then true
  else isAssigned code && !Category.anyHolds (Category.others ++ Category.separators) code &&
    !isDefaultIgnorable code

/-- A set of code points that has a name. -/
inductive Property where
  | any
  | ascii
  | assigned
  | unassigned
  | other
  | categories (members : List Category)
  | listed (property : ListedProperty)
  | script (script : Script)
  | scriptUse (script : Script)
  | alphabetic
  | cased
  | caseIgnorable
  | casemapped
  | defaultIgnorable
  | graphemeBase
  | graphemeExtend
  | idContinue
  | idStart
  | lowercase
  | math
  | uppercase
  | word
  | xidContinue
  | xidStart

namespace Property

/-- Whether a code point has the property. -/
def holds : Property → Nat → Bool
  | any, _ => true
  | ascii, code => code < 0x80
  | assigned, code => isAssigned code
  | unassigned, code => !isAssigned code
  | other, code => !isAssigned code || Category.anyHolds Category.others code
  | categories members, code => Category.anyHolds members code
  | listed property, code => property.holds code
  | script named, code => named.holds code
  | scriptUse named, code => named.usedWith code
  | alphabetic, code => isAlphabetic code
  | cased, code => isCased code
  | caseIgnorable, code => isCaseIgnorable code
  | casemapped, code => changesWhenCasemapped code
  | defaultIgnorable, code => isDefaultIgnorable code
  | graphemeBase, code => isGraphemeBase code
  | graphemeExtend, code => isGraphemeExtend code
  | idContinue, code => isIdContinue code
  | idStart, code => isIdStart code
  | lowercase, code => isLowercase code
  | math, code => isMath code
  | uppercase, code => isUppercase code
  | word, code => isWord code
  | xidContinue, code => isXidContinue code
  | xidStart, code => isXidStart code

/-- The decimal digits of all scripts. -/
def digit : Property := categories [.decimalNumber]

def whiteSpace : Property := listed .whiteSpace

/-- About how many ranges of code points make up the property. -/
def rangeCount : Property → Nat
  | any | ascii => 1
  | categories members => members.foldl (fun count member => count + member.table.size) 0
  | listed property => property.table.size
  | script named => named.members.size
  | scriptUse named => named.members.size + named.alsoUsed.size
  | _ => 700

end Property

end Attest.Unicode
