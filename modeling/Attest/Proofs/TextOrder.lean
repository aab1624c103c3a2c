import Attest.Text.Order
import Mathlib.Data.List.Sort

/-!
# The order of texts

The order of texts is linear, and it is the order of their bytes in UTF-8: of two different
characters the one with the smaller number has the smaller byte at the first place where their bytes
differ, and neither is encoded by a beginning of what encodes the other.
-/

namespace Attest.Text

theorem compareChars_eq : compareChars = List.compareLex (compareOn Char.toNat) := by
  funext s t
  induction s generalizing t with
  | nil => cases t <;> rfl
  | cons c s ih =>
    cases t with
    | nil => rfl
    | cons d t =>
      rw [compareChars, ih, List.compareLex_cons_cons]
      rfl

instance lawfulEqCmp_toNat : Std.LawfulEqCmp (compareOn Char.toNat) where
  compare_self := Std.ReflCmp.compare_self
  eq_of_compare h := Char.toNat_inj.mp (Std.LawfulEqCmp.eq_of_compare h)

instance transCmp_compare : Std.TransCmp compare where
  eq_swap {s t} := by
    rw [compare, compare, compareChars_eq]
    exact Std.OrientedCmp.eq_swap
  isLE_trans {s t u} h h' := by
    rw [compare, compareChars_eq] at *
    exact Std.TransCmp.isLE_trans h h'

instance lawfulEqCmp_compare : Std.LawfulEqCmp compare where
  compare_self {s} := by
    rw [compare, compareChars_eq]
    exact Std.ReflCmp.compare_self
  eq_of_compare {s t} h := by
    rw [compare, compareChars_eq] at h
    exact String.toList_inj.mp (Std.LawfulEqCmp.eq_of_compare h)

/-- The bytes of a text in UTF-8. -/
def bytes (s : String) : List UInt8 :=
  s.toUTF8.data.toList

theorem bytes_eq (s : String) : bytes s = s.toList.flatMap String.utf8EncodeChar := by
  rw [bytes, String.toUTF8_eq_toByteArray, ← String.utf8Encode_toList, List.utf8Encode,
    List.data_toByteArray]

theorem toNat_lt (c : Char) : c.toNat < 1114112 := by
  rcases c.valid with h | h
  · have h' : c.toNat < 55296 := h
    omega
  · exact h.2

/-- Two different characters are told apart by their bytes, whatever follows. -/
theorem utf8EncodeChar_append_lt {c d : Char} (h : c.toNat < d.toNat) (x y : List UInt8) :
    String.utf8EncodeChar c ++ x < String.utf8EncodeChar d ++ y := by
  have hmax : d.toNat < 1114112 := toNat_lt d
  -- each byte carries six bits more, so the quotients nest
  have twice (k : Nat) : k / 4096 = k / 64 / 64 := (Nat.div_div_eq_div_mul k 64 64).symm
  have thrice (k : Nat) : k / 262144 = k / 64 / 64 / 64 := by
    rw [Nat.div_div_eq_div_mul, Nat.div_div_eq_div_mul]
  simp only [String.utf8EncodeChar, twice, thrice]
  change c.val.toNat < d.val.toNat at h
  change d.val.toNat < 1114112 at hmax
  generalize c.val.toNat = m at h
  generalize d.val.toNat = n at h hmax
  split_ifs <;>
    simp only [List.cons_append, List.nil_append, List.cons_lt_cons_iff, UInt8.lt_iff_toNat_lt,
      ← UInt8.toNat_inj, UInt8.toNat_ofNat'] <;> omega

theorem flatMap_lt_of_compareChars {s t : List Char} (h : compareChars s t = .lt) :
    s.flatMap String.utf8EncodeChar < t.flatMap String.utf8EncodeChar := by
  induction s generalizing t with
  | nil =>
    cases t with
    | nil => cases h
    | cons d t =>
      have hne : String.utf8EncodeChar d ++ t.flatMap String.utf8EncodeChar ≠ [] :=
        List.append_ne_nil_of_left_ne_nil String.utf8EncodeChar_ne_nil _
      obtain ⟨b, rest, heq⟩ := List.exists_cons_of_ne_nil hne
      rw [List.flatMap_cons, heq]
      exact List.nil_lt_cons b rest
  | cons c s ih =>
    cases t with
    | nil => cases h
    | cons d t =>
      rw [List.flatMap_cons, List.flatMap_cons]
      rcases Ordering.then_eq_lt.mp h with hlt | ⟨heq, hlt⟩
      · exact utf8EncodeChar_append_lt (Nat.compare_eq_lt.mp hlt) _ _
      · rw [Char.toNat_inj.mp (Nat.compare_eq_eq.mp heq)]
        exact List.append_left_lt (ih hlt)

/-- A text comes before another one exactly when its bytes do. -/
theorem compare_eq_lt_iff {s t : String} : compare s t = .lt ↔ bytes s < bytes t := by
  have hbefore {s t : String} (h : compare s t = .lt) : bytes s < bytes t := by
    rw [bytes_eq, bytes_eq]
    exact flatMap_lt_of_compareChars h
  refine ⟨hbefore, fun hlt => ?_⟩
  cases h : compare s t with
  | lt => rfl
  | eq =>
    rw [Std.LawfulEqCmp.eq_of_compare h] at hlt
    exact absurd hlt (List.lt_irrefl _)
  | gt => exact absurd hlt (List.lt_asymm (hbefore (Std.OrientedCmp.lt_of_gt h)))

end Attest.Text
