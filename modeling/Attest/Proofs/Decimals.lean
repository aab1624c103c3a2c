import Attest.Json.Reader
import Attest.Number.Notation

/-!
# Decimals

The digits of a number in decimal are read back as the number, in documents up to the largest one that
their reader takes. There is at least one digit, and a leading zero stands only for zero itself. An
integer and its sign are told apart from any other wherever no digit follows.
-/

namespace Attest

namespace Number

theorem le_of_isDigit {c : Char} (h : c.isDigit = true) : '0' ≤ c ∧ c ≤ '9' := by
  simp only [Char.isDigit, Bool.and_eq_true, decide_eq_true_eq] at h
  exact h

theorem digitValue?_of_isDigit {c : Char} (h : c.isDigit = true) :
    digitValue? c = some (c.toNat - '0'.toNat) := by
  rw [digitValue?, if_pos (le_of_isDigit h)]

theorem isDigit_of_mem_toDigits {n : Nat} {c : Char} (h : c ∈ Nat.toDigits 10 n) :
    isDigit c = true := by
  rw [isDigit, digitValue?_of_isDigit (Nat.isDigit_of_mem_toDigits (by decide) (by decide) h)]
  rfl

/-- The digits of a number end where something else begins. -/
theorem takeWhile_toDigits (n : Nat) {rest : List Char} (h : ∀ c ∈ rest.head?, isDigit c = false) :
    (Nat.toDigits 10 n ++ rest).takeWhile isDigit = Nat.toDigits 10 n ∧
      (Nat.toDigits 10 n ++ rest).dropWhile isDigit = rest := by
  have hall : ∀ c ∈ Nat.toDigits 10 n, isDigit c = true := fun c hc => isDigit_of_mem_toDigits hc
  rw [List.takeWhile_append_of_pos hall, List.dropWhile_append_of_pos hall]
  cases rest with
  | nil => simp
  | cons c rest =>
    have hc : isDigit c = false := h c rfl
    simp [hc]

/-- Only zero starts with a zero. -/
theorem toDigits_ne_zero_cons (n : Nat) (c : Char) (digits : List Char) :
    Nat.toDigits 10 n ≠ '0' :: c :: digits := by
  induction n using Nat.strongRecOn generalizing c digits with
  | ind n ih =>
    intro h
    rw [Nat.toDigits_eq_if (by decide)] at h
    split at h
    · simp at h
    · rename_i hn
      have hlt : n / 10 < n := by omega
      cases hd : Nat.toDigits 10 (n / 10) with
      | nil => exact Nat.toDigits_ne_nil hd
      | cons first others =>
        rw [hd] at h
        cases others with
        | cons second others =>
          simp only [List.cons_append, List.cons.injEq] at h
          exact ih (n / 10) hlt second others (by rw [hd, h.1])
        | nil =>
          simp only [List.cons_append, List.nil_append, List.cons.injEq] at h
          have hzero : Nat.ofDigitChars 10 (Nat.toDigits 10 (n / 10)) 0 = 0 := by
            rw [hd, h.1]
            rfl
          rw [Nat.ofDigitChars_toDigits (by decide) (by decide)] at hzero
          omega

theorem readDigits?_eq {digits : List Char} (hd : ∀ c ∈ digits, c.isDigit = true) (value : Nat) :
    readDigits? 10 digits value = some (Nat.ofDigitChars 10 digits value) := by
  induction digits generalizing value with
  | nil => rfl
  | cons c digits ih =>
    obtain ⟨hc, hrest⟩ := List.forall_mem_cons.mp hd
    have hle := le_of_isDigit hc
    have hvalue : baseDigitValue? c = some (c.toNat - '0'.toNat) := by
      rw [baseDigitValue?, if_pos hle]
    have hmost : c.toNat ≤ '9'.toNat := hle.2
    have hlt : c.toNat - '0'.toNat < 10 := Nat.lt_succ_of_le (Nat.sub_le_sub_right hmost _)
    rw [readDigits?, hvalue, Nat.ofDigitChars_cons, Nat.mul_comm 10]
    simp only [hlt, if_true]
    exact ih hrest _

theorem readNatural?_toDigits (n : Nat) : readNatural? 10 (Nat.toDigits 10 n) = some n := by
  have hall : ∀ c ∈ Nat.toDigits 10 n, c.isDigit = true := fun c hc =>
    Nat.isDigit_of_mem_toDigits (by decide) (by decide) hc
  have hne : (Nat.toDigits 10 n).isEmpty = false := by simp
  rw [readNatural?, hne, readDigits?_eq hall, Nat.ofDigitChars_toDigits (by decide) (by decide)]
  rfl

theorem toDigits_append_inj {m n : Nat} {rest rest' : List Char}
    (hrest : ∀ c ∈ rest.head?, isDigit c = false) (hrest' : ∀ c ∈ rest'.head?, isDigit c = false)
    (h : Nat.toDigits 10 m ++ rest = Nat.toDigits 10 n ++ rest') : m = n ∧ rest = rest' := by
  obtain ⟨htake, hdrop⟩ := takeWhile_toDigits m hrest
  obtain ⟨htake', hdrop'⟩ := takeWhile_toDigits n hrest'
  rw [h] at htake hdrop
  have hdigits : Nat.toDigits 10 m = Nat.toDigits 10 n := htake.symm.trans htake'
  have hvalue := congrArg (fun digits => Nat.ofDigitChars 10 digits 0) hdigits
  simp only [Nat.ofDigitChars_toDigits (b := 10) (by decide) (by decide)] at hvalue
  exact ⟨hvalue, hdrop.symm.trans hdrop'⟩

/-- No number is taken for a sign. -/
theorem toDigits_append_ne (n : Nat) (rest rest' : List Char) :
    Nat.toDigits 10 n ++ rest ≠ '-' :: rest' := by
  intro h
  obtain ⟨first, digits, hdigits⟩ := List.exists_cons_of_ne_nil (@Nat.toDigits_ne_nil n 10)
  have hfirst : isDigit first = true := isDigit_of_mem_toDigits (n := n) (by simp [hdigits])
  rw [hdigits, List.cons_append, List.cons.injEq] at h
  rw [h.1] at hfirst
  exact absurd hfirst (by decide)

theorem integerChars_append_inj {m n : Int} {rest rest' : List Char}
    (hrest : ∀ c ∈ rest.head?, isDigit c = false) (hrest' : ∀ c ∈ rest'.head?, isDigit c = false)
    (h : integerChars m ++ rest = integerChars n ++ rest') : m = n ∧ rest = rest' := by
  unfold integerChars at h
  by_cases hm : m < 0 <;> by_cases hn : n < 0
  · rw [if_pos hm, if_pos hn, List.cons_append, List.cons_append, List.cons.injEq] at h
    obtain ⟨hvalue, hends⟩ := toDigits_append_inj hrest hrest' h.2
    exact ⟨by omega, hends⟩
  · rw [if_pos hm, if_neg hn] at h
    exact absurd h.symm (toDigits_append_ne _ _ _)
  · rw [if_neg hm, if_pos hn] at h
    exact absurd h (toDigits_append_ne _ _ _)
  · rw [if_neg hm, if_neg hn] at h
    obtain ⟨hvalue, hends⟩ := toDigits_append_inj hrest hrest' h
    exact ⟨by omega, hends⟩

end Number

namespace Json

theorem le_ofDigitChars (digits : List Char) (value : Nat) :
    value ≤ Nat.ofDigitChars 10 digits value := by
  induction digits generalizing value with
  | nil => exact Nat.le_refl _
  | cons c digits ih =>
    rw [Nat.ofDigitChars_cons]
    exact Nat.le_trans (by omega) (ih _)

/-- Digits are taken to the last one if the number that they form fits. -/
theorem takeDigits_eq {digits : List Char} (hd : ∀ c ∈ digits, c.isDigit = true) {value : Nat}
    (h : Nat.ofDigitChars 10 digits value ≤ largestUnsigned) (count : Nat) :
    takeDigits digits value count =
      (Nat.ofDigitChars 10 digits value, count + digits.length) := by
  induction digits generalizing value count with
  | nil => rfl
  | cons c digits ih =>
    obtain ⟨hc, hrest⟩ := List.forall_mem_cons.mp hd
    rw [Nat.ofDigitChars_cons] at h
    have hfits := Nat.le_trans (le_ofDigitChars digits _) h
    rw [takeDigits, Number.digitValue?_of_isDigit hc, Option.getD_some, Nat.mul_comm value 10,
      if_neg (Nat.not_lt.mpr hfits), ih hrest h, Nat.ofDigitChars_cons, List.length_cons]
    congr 1
    omega

theorem takeDigits_toDigits {n : Nat} (h : n ≤ largestUnsigned) :
    takeDigits (Nat.toDigits 10 n) 0 0 = (n, (Nat.toDigits 10 n).length) := by
  have hall : ∀ c ∈ Nat.toDigits 10 n, c.isDigit = true := fun c hc =>
    Nat.isDigit_of_mem_toDigits (by decide) (by decide) hc
  have hvalue := @Nat.ofDigitChars_toDigits 10 n (by decide) (by decide)
  rw [takeDigits_eq hall (by rwa [hvalue]), hvalue, Nat.zero_add]

end Json

end Attest
