/-!
# Order of texts

Texts are compared character by character, and characters by their number; a proper beginning comes
first. In UTF-8 this is the order of the bytes.
-/

namespace Attest.Text

/-- The order of two texts. -/
def compareChars : List Char → List Char → Ordering
  | [], [] => .eq
  | [], _ :: _ => .lt
  | _ :: _, [] => .gt
  | c :: cs, d :: ds => (compare c.toNat d.toNat).then (compareChars cs ds)

@[inherit_doc compareChars]
def compare (s t : String) : Ordering :=
  compareChars s.toList t.toList

end Attest.Text
