/-!
# Searching a text

Occurrence of one text inside another, by trying every position from the first to the one past the
last character.
-/

namespace Attest.Text

/-- Whether `needle` occurs somewhere in a text. -/
def occursIn (needle : List Char) : List Char → Bool
  | [] => needle.isEmpty
  | c :: text => needle.isPrefixOf (c :: text) || occursIn needle text

/-- Whether the second text is a part of the first. -/
def contains (text needle : String) : Bool :=
  occursIn needle.toList text.toList

theorem occursIn_iff_isInfix (needle s : List Char) : occursIn needle s = true ↔ needle <:+: s := by
  induction s with
  | nil => rw [occursIn, List.isEmpty_iff, List.infix_nil]
  | cons c s ih =>
    rw [occursIn, Bool.or_eq_true, List.isPrefixOf_iff_prefix, ih, List.infix_cons_iff]

end Attest.Text
