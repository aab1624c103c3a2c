import Attest.Json.Writer
import Attest.Layout
import Attest.Text.Quoted
import Attest.Value.Kind

/-!
# Showing values

The text of a value names what it is made of: quoted texts and characters, bracketed lists, braced
sets and maps, named records and variants. Pointers show their target. Collections without order are
shown in the order in which they hold their elements, which is a matter of chance; all other values
have one text.
-/

namespace Attest

open Number (FloatStyle integerChars)
open Text (quoted quotedText)

namespace Json

mutual

/-- The text that shows a document. Only lists and objects take several lines. -/
def shown (layout : Layout) : Json → List Char
  | null => "Null".toList
  | bool b => Layout.compact.tuple "Bool".toList [Layout.truth b]
  | number n => Layout.compact.tuple "Number".toList [n.chars]
  | string s => Layout.compact.tuple "String".toList [quotedText s]
  | array items => "Array ".toList ++ layout.list (shownItems layout.inner items)
  | object fields => "Object ".toList ++ layout.set (shownFields layout.inner fields)

def shownItems (layout : Layout) : List Json → List (List Char)
  | [] => []
  | item :: items => shown layout item :: shownItems layout items

def shownFields (layout : Layout) : List (String × Json) → List (List Char)
  | [] => []
  | (key, value) :: fields =>
    Layout.entry (quotedText key) (shown layout value) :: shownFields layout fields

end

end Json

namespace Structured

mutual

/-- The text that shows a value of a declared type. -/
def shown (layout : Layout) : Structured → List Char
  | integer n => integerChars n
  | real x => FloatStyle.plain.chars x
  | text s => quotedText s
  | absent => layout.option none
  | present part => layout.option (some (shown layout.inner part))
  | items parts => layout.list (shownParts layout.inner parts)
  | positional _ name [] => name.toList
  | positional _ name (part :: parts) =>
    layout.tuple name.toList (shown layout.inner part :: shownParts layout.inner parts)
  | labelled _ name parts => layout.record name.toList false (shownLabelled layout.inner parts)

def shownParts (layout : Layout) : List Structured → List (List Char)
  | [] => []
  | part :: parts => shown layout part :: shownParts layout parts

def shownLabelled (layout : Layout) : List (String × Structured) → List (List Char × List Char)
  | [] => []
  | (label, part) :: parts => (label.toList, shown layout part) :: shownLabelled layout parts

end

end Structured

namespace Kind

/-- The text that shows a value. -/
def shown : (kind : Kind) → Layout → kind.Value → List Char
  | .unit, _, _ => ['(', ')']
  | .bool, _, b => Layout.truth b
  | .char, _, c => quoted '\'' [c]
  | .int, _, n => integerChars n
  | .float _, _, x => FloatStyle.plain.chars x
  | .text, _, s => quotedText s
  | .json, layout, document => document.shown layout
  | .structured, layout, v => v.shown layout
  | .option item, layout, v => layout.option (v.map (shown item layout.inner))
  | .sequence _ item, layout, xs => layout.list (xs.map (shown item layout.inner))
  | .set _ item, layout, xs => layout.set (xs.map (shown item layout.inner))
  | .map _ key value, layout, entries =>
    layout.set (entries.map fun entry =>
      Layout.entry (shown key layout.inner entry.1) (shown value layout.inner entry.2))
  | .tuple _ part, layout, v => layout.row (.ofFn fun i => shown (part i) layout.inner (v i))
  | .pointer _ target, layout, p => shown target layout p.target

/-- Whether nothing in the text of a value is a matter of chance: no collection without order has
two elements or more. -/
def hasFixedText : (kind : Kind) → kind.Value → Bool
  | .option item, v => v.all (hasFixedText item)
  | .sequence _ item, xs => xs.all (hasFixedText item)
  | .set arrangement item, xs =>
    (arrangement == .sorted || xs.length < 2) && xs.all (hasFixedText item)
  | .map arrangement key value, entries =>
    (arrangement == .sorted || entries.length < 2) &&
      entries.all fun entry => hasFixedText key entry.1 && hasFixedText value entry.2
  | .tuple more part, v => (List.finRange (more + 1)).all fun i => hasFixedText (part i) (v i)
  | .pointer _ target, p => hasFixedText target p.target
  | _, _ => true

end Kind

end Attest
