/-!
# Truncation

A text that is wider than allowed loses its end and shows three dots in its place. Where not even
the dots fit, as many dots are shown as do.
-/

namespace Attest.Text

/-- What stands for the part left out. -/
def ellipsis : List Char :=
  ['.', '.', '.']

/-- A text cut to a width in characters. -/
def truncate (width : Nat) (text : List Char) : List Char :=
  if text.length ≤ width then text
  else if width < ellipsis.length then ellipsis.take width
  else text.take (width - ellipsis.length) ++ ellipsis

theorem truncate_of_length_le {width : Nat} {text : List Char} (h : text.length ≤ width) :
    truncate width text = text := by
  simp [truncate, h]

/-- A cut text is its beginning and dots, each as far as there is room. -/
theorem truncate_of_lt {width : Nat} {text : List Char} (h : width < text.length) :
    truncate width text = text.take (width - 3) ++ ellipsis.take width := by
  have hlong : ¬ text.length ≤ width := by omega
  have hdots : ellipsis.length = 3 := rfl
  rw [truncate, if_neg hlong]
  split
  · have hnone : width - 3 = 0 := by omega
    rw [hnone, List.take_zero, List.nil_append]
  · have hall : ellipsis.take width = ellipsis := List.take_of_length_le (by omega)
    rw [hall, hdots]

theorem length_truncate (width : Nat) (text : List Char) :
    (truncate width text).length = min text.length width := by
  by_cases h : text.length ≤ width
  · rw [truncate_of_length_le h]
    omega
  · have hdots : ellipsis.length = 3 := rfl
    rw [truncate_of_lt (by omega), List.length_append, List.length_take, List.length_take]
    omega

end Attest.Text
