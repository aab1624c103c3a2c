import Attest.Text.Search
import Attest.Value.Collection

/-!
# Membership

A text contains its parts and its characters, a sequence or set what equals one of its elements, a
map its keys. A document answers by what it is: a text for texts, a list for its items, an object
for its keys; there is no answer for any other document, and none for a text asked for something
that is no text.
-/

namespace Attest

namespace Json

/-- Whether a document contains another one. -/
def containsDocument? : Json → Json → Option Bool
  | string s, string needle => some (Text.contains s needle)
  | array items, item => some (items.any fun x => x.equal item)
  | object fields, string key => some (field? key fields).isSome
  | object _, _ => some false
  | _, _ => none

/-- Whether a document contains a text. -/
def containsText? : Json → String → Option Bool
  | string s, needle => some (Text.contains s needle)
  | array items, needle => some (items.any fun x => x.text? == some needle)
  | object fields, key => some (field? key fields).isSome
  | _, _ => none

end Json

namespace Kind

/-- Whether a value contains an item; there is no answer for values that hold no such items. -/
def contains? : (kind : Kind) → kind.Value → (other : Kind) → other.Value → Option Bool
  | .pointer _ target, p, other, item => contains? target p.target other item
  | .text, s, other, item => match bare other item with
    | ⟨.text, needle⟩ => some (Text.contains s needle)
    | ⟨.char, c⟩ => some (s.toList.contains c)
    | _ => none
  | .sequence _ element, xs, other, item => some (xs.any fun x => agrees element x other item)
  | .set arrangement element, xs, other, item =>
    if h : other = element then some (hasElement arrangement element (h ▸ item) xs) else none
  | .map arrangement key _, xs, other, item =>
    if h : other = key then some (hasElement arrangement key (h ▸ item) (xs.map (·.1))) else none
  | .json, document, other, item => match bare other item with
    | ⟨.json, wanted⟩ => document.containsDocument? wanted
    | ⟨.text, needle⟩ => document.containsText? needle
    | _ => none
  | _, _, _, _ => none

end Kind

end Attest
