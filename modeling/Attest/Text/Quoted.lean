import Attest.Unicode.Property

/-!
# Quoted text

A text is shown between quotes with every character that has no form of its own, or that would merge
with the character before it, written as an escape. The quote and the backslash are escaped too, so
the closing quote is the first one that no backslash precedes.
-/

namespace Attest.Text

/-- Whether a character stands for itself inside quotes. -/
def isShown (c : Char) : Bool :=
  Unicode.isPrintable c.toNat && !Unicode.isGraphemeExtend c.toNat

/-- The escape that names a character by its number. -/
def numberEscape (c : Char) : List Char :=
  '\\' :: 'u' :: '{' :: (Nat.toDigits 16 c.toNat ++ ['}'])

/-- A character as written between quotes of the given kind. -/
def escape (quote c : Char) : List Char :=
  if c = '\x00' then ['\\', '0']
  else if c = '\t' then ['\\', 't']
  else if c = '\r' then ['\\', 'r']
  else if c = '\n' then ['\\', 'n']
  else if c = quote ∨ c = '\\' then ['\\', c]
  else if isShown c then [c]
  else numberEscape c

/-- A text between quotes. -/
def quoted (quote : Char) (text : List Char) : List Char :=
  quote :: (text.flatMap (escape quote) ++ [quote])

/-- A text in double quotes. -/
def quotedText (text : String) : List Char :=
  quoted '"' text.toList

@[inherit_doc quotedText]
def quote (text : String) : String :=
  .ofList (quotedText text)

theorem escape_ne_nil (quote c : Char) : escape quote c ≠ [] := by
  unfold escape numberEscape
  repeat' split
  all_goals simp

end Attest.Text
