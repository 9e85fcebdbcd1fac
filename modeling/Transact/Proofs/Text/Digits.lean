/-
# Digits with zeros in front

Decimals, dates and times of day are written in decimal digits, with zeros in
front up to a width. They are digits all over, at least as many as the width
says and no more if the number fits it, and they spell the number.
-/

import Mathlib.Data.Nat.Digits.Defs

namespace Transact.Digits

/-- The digits of a number, with zeros in front up to a width. -/
def padded (width n : Nat) : List Char :=
  List.replicate (width - (Nat.toDigits 10 n).length) '0' ++ Nat.toDigits 10 n

variable {width n : Nat}

theorem isDigit_of_mem_padded {c : Char} (h : c ∈ padded width n) : c.isDigit = true := by
  rcases List.mem_append.mp h with hzero | hdigit
  · rw [List.eq_of_mem_replicate hzero]
    decide
  · exact Nat.isDigit_of_mem_toDigits (by decide) (by decide) hdigit

theorem width_le_length_padded (width n : Nat) : width ≤ (padded width n).length := by
  simp only [padded, List.length_append, List.length_replicate]
  omega

/-- A number below a power of ten has no more digits than its exponent. -/
theorem length_padded_le {limit : Nat} (hwidth : width ≤ limit) (hlimit : 0 < limit)
    (h : n < 10 ^ limit) : (padded width n).length ≤ limit := by
  have hdigits := Nat.toDigits_length 10 n limit hlimit h
  simp only [padded, List.length_append, List.length_replicate]
  omega

theorem length_padded (hwidth : 0 < width) (h : n < 10 ^ width) :
    (padded width n).length = width :=
  Nat.le_antisymm (length_padded_le (Nat.le_refl _) hwidth h) (width_le_length_padded width n)

/-- The digits spell the number. -/
theorem ofDigitChars_padded (width n : Nat) : Nat.ofDigitChars 10 (padded width n) 0 = n := by
  rw [padded, Nat.ofDigitChars_append, Nat.ofDigitChars_replicate_zero, Nat.mul_zero,
    Nat.ofDigitChars_toDigits (by decide) (by decide)]

/-- What digits spell after a number is at least this number. -/
theorem le_ofDigitChars (digits : List Char) (front : Nat) :
    front ≤ Nat.ofDigitChars 10 digits front := by
  induction digits generalizing front with
  | nil => exact Nat.le_refl _
  | cons c digits ih =>
      have hrest := ih (10 * front + (c.toNat - '0'.toNat))
      rw [Nat.ofDigitChars_cons]
      omega

/-- Digits are none of the characters that stand between them. -/
theorem ne_of_isDigit {c other : Char} (h : c.isDigit = true) (hother : other.isDigit = false) :
    c ≠ other := by
  intro heq
  rw [heq, hother] at h
  cases h

end Transact.Digits
