/-
# Decimals are read from their texts

The text of a decimal shows its sign, its digits and its point, and reading takes
the digits one by one until it has the magnitude and the scale again: no prefix
of the digits is larger than the whole, so nothing is ever rounded.

One thing is not read back. A zero takes no sign where it is written as one, so
the negative zeros, which arise only from moving a point, are read as zero.

The text has at most 60 characters.
-/

import Transact.Numeric.Decimal
import Transact.Proofs.Text.Digits

namespace Transact.Decimal

variable {x : Decimal}

/-! ## The text of a decimal -/

/-- The digits of a decimal, with zeros in front so that there is one before the point. -/
def shownDigits (x : Decimal) : List Char := Digits.padded (x.scale + 1) x.magnitude

theorem isDigit_of_mem_shownDigits {c : Char} (h : c ∈ x.shownDigits) : c.isDigit = true :=
  Digits.isDigit_of_mem_padded h

theorem scale_lt_length_shownDigits (x : Decimal) : x.scale < x.shownDigits.length :=
  Digits.width_le_length_padded (x.scale + 1) x.magnitude

theorem length_shownDigits_le (x : Decimal) : x.shownDigits.length ≤ 58 := by
  have hscale := x.scale_le
  exact Digits.length_padded_le (by omega) (by decide) (lt_trans x.magnitude_lt (by decide))

/-- The text of a decimal: its sign, its digits, and among them the point. -/
theorem toList_toText (x : Decimal) : x.toText.toList =
    (if x.negative then ['-'] else []) ++
      (x.shownDigits.take (x.shownDigits.length - x.scale) ++
        if x.scale = 0 then []
        else '.' :: x.shownDigits.drop (x.shownDigits.length - x.scale)) := by
  show (if x.scale = 0 then (if x.negative then "-" else "") ++ String.ofList x.shownDigits
    else (if x.negative then "-" else "") ++
      String.ofList (x.shownDigits.take (x.shownDigits.length - x.scale)) ++ "." ++
        String.ofList (x.shownDigits.drop (x.shownDigits.length - x.scale))).toList = _
  by_cases hscale : x.scale = 0
  · cases x.negative <;> simp [hscale]
  · cases x.negative <;> simp [hscale]

theorem length_toText_le (x : Decimal) : x.toText.toList.length ≤ 60 := by
  have hdigits := x.length_shownDigits_le
  rw [toList_toText]
  by_cases hscale : x.scale = 0
  · cases x.negative <;> simp [hscale] <;> omega
  · cases x.negative <;> simp [hscale] <;> omega

/-! ## Reading digits -/

/-- Digits are read one after the other if all of them fit. -/
theorem readDigits_append {negative afterPoint anyDigit : Bool} {magnitude scale : Nat}
    {digits : List Char} (rest : List Char) (hdigits : ∀ c ∈ digits, c.isDigit = true)
    (hmagnitude : Nat.ofDigitChars 10 digits magnitude < 0x1000000000000000000000000)
    (hscale : scale + (if afterPoint then digits.length else 1) ≤ 28) :
    readDigits negative afterPoint anyDigit magnitude scale (digits ++ rest) =
      readDigits negative afterPoint (anyDigit || !digits.isEmpty)
        (Nat.ofDigitChars 10 digits magnitude)
        (if afterPoint then scale + digits.length else scale) rest := by
  induction digits generalizing anyDigit magnitude scale with
  | nil => simp
  | cons c digits ih =>
      have hc := hdigits c List.mem_cons_self
      have hpoint : c ≠ '.' := Digits.ne_of_isDigit hc (by decide)
      have hunderscore : c ≠ '_' := Digits.ne_of_isDigit hc (by decide)
      have hdigit : digit? c = some (c.toNat - '0'.toNat) := if_pos hc
      -- What is read so far is no more than the whole.
      have hnext : 10 * magnitude + (c.toNat - '0'.toNat) < 0x1000000000000000000000000 :=
        lt_of_le_of_lt (Digits.le_ofDigitChars digits _) hmagnitude
      have hrest := fun other hother => hdigits other (List.mem_cons_of_mem c hother)
      rw [List.cons_append, readDigits, if_neg (by simp [hpoint]), if_neg (by simp [hunderscore]),
        Nat.ofDigitChars_cons]
      simp only [hdigit, Nat.mul_comm magnitude 10, hnext]
      cases afterPoint with
      | false =>
          have hroom : scale < 28 := hscale
          have hread := @ih true _ scale hrest hmagnitude hscale
          simpa [hroom] using hread
      | true =>
          simp only [if_true, List.length_cons] at hscale
          have hroom : scale < 28 := by omega
          have hplaces : scale + 1 + digits.length ≤ 28 := by omega
          have hread := @ih true _ (scale + 1) hrest hmagnitude hplaces
          rw [Nat.add_right_comm] at hread
          simpa [hroom, Nat.add_assoc] using hread

/-- Digits up to a point or to the end are read as a whole number. -/
theorem readDigits_whole {whole : List Char} (negative : Bool) (rest : List Char)
    (hdigits : ∀ c ∈ whole, c.isDigit = true) (hne : whole ≠ [])
    (hmagnitude : Nat.ofDigitChars 10 whole 0 < 0x1000000000000000000000000) :
    readDigits negative false false 0 0 (whole ++ rest) =
      readDigits negative false true (Nat.ofDigitChars 10 whole 0) 0 rest := by
  rw [readDigits_append rest hdigits hmagnitude (by simp)]
  simp [List.isEmpty_eq_false_iff.mpr hne]

/-- Digits behind a point are read as places. -/
theorem readDigits_places {magnitude : Nat} {places : List Char} (negative : Bool)
    (hdigits : ∀ c ∈ places, c.isDigit = true)
    (hmagnitude : Nat.ofDigitChars 10 places magnitude < 0x1000000000000000000000000)
    (hplaces : places.length ≤ 28) :
    readDigits negative false true magnitude 0 ('.' :: places) =
      ofParts? negative (Nat.ofDigitChars 10 places magnitude) places.length := by
  have hread := @readDigits_append negative true true magnitude 0 places [] hdigits hmagnitude
    (by simpa using hplaces)
  rw [List.append_nil] at hread
  simp [readDigits, hread]

/-- The digits and the point are read as what they show. -/
theorem readDigits_shown (x : Decimal) (negative : Bool) :
    readDigits negative false false 0 0
      (x.shownDigits.take (x.shownDigits.length - x.scale) ++
        if x.scale = 0 then []
        else '.' :: x.shownDigits.drop (x.shownDigits.length - x.scale)) =
      ofParts? negative x.magnitude x.scale := by
  have hlength := x.scale_lt_length_shownDigits
  have hvalue : Nat.ofDigitChars 10 (x.shownDigits.drop (x.shownDigits.length - x.scale))
      (Nat.ofDigitChars 10 (x.shownDigits.take (x.shownDigits.length - x.scale)) 0) =
        x.magnitude := by
    rw [← Nat.ofDigitChars_append, List.take_append_drop]
    exact Digits.ofDigitChars_padded _ _
  have hfits := x.magnitude_lt
  rw [← hvalue] at hfits
  have htake : ∀ c ∈ x.shownDigits.take (x.shownDigits.length - x.scale), c.isDigit = true :=
    fun c hc => isDigit_of_mem_shownDigits (List.mem_of_mem_take hc)
  have hdrop : ∀ c ∈ x.shownDigits.drop (x.shownDigits.length - x.scale), c.isDigit = true :=
    fun c hc => isDigit_of_mem_shownDigits (List.mem_of_mem_drop hc)
  have hne : x.shownDigits.take (x.shownDigits.length - x.scale) ≠ [] := by
    rw [ne_eq, ← List.length_eq_zero_iff, List.length_take]
    omega
  have hplaces : (x.shownDigits.drop (x.shownDigits.length - x.scale)).length = x.scale := by
    rw [List.length_drop]
    omega
  rw [readDigits_whole negative _ htake hne
    (lt_of_le_of_lt (Digits.le_ofDigitChars _ _) hfits)]
  split
  case isTrue hscale =>
    rw [hscale, Nat.sub_zero, List.drop_length, Nat.ofDigitChars_nil, List.take_length] at hvalue
    rw [hscale, Nat.sub_zero, List.take_length, hvalue]
    rfl
  case isFalse hscale =>
    rw [readDigits_places negative hdrop hfits (by rw [hplaces]; exact x.scale_le), hvalue, hplaces]

/-- What begins with a digit has no sign. -/
theorem ofPlain?_append {whole : List Char} (rest : List Char)
    (hdigits : ∀ c ∈ whole, c.isDigit = true) (hne : whole ≠ []) :
    ofPlain? (whole ++ rest) = readDigits false false false 0 0 (whole ++ rest) := by
  obtain ⟨c, others, rfl⟩ := List.exists_cons_of_ne_nil hne
  have hc := hdigits c List.mem_cons_self
  rw [List.cons_append, ofPlain?]
  · intro behind heq
    exact Digits.ne_of_isDigit hc (by decide) (List.cons.inj heq).1
  · intro behind heq
    exact Digits.ne_of_isDigit hc (by decide) (List.cons.inj heq).1

/-- A decimal as it is read back: a zero has no sign. -/
def readBack (x : Decimal) : Decimal := { x with negative := x.negative && x.magnitude != 0 }

/-- A decimal is read from its text, but for the sign of a zero. -/
theorem ofText?_toText (x : Decimal) : ofText? x.toText = some x.readBack := by
  have hparts : ofParts? x.negative x.magnitude x.scale = some x.readBack :=
    dif_pos ⟨x.magnitude_lt, x.scale_le⟩
  have hplain : ofPlain? x.toText.toList = some x.readBack := by
    rw [← hparts, ← readDigits_shown x, toList_toText]
    cases hnegative : x.negative with
    | true => rfl
    | false =>
        have hlength := x.scale_lt_length_shownDigits
        rw [if_neg (by decide), List.nil_append]
        apply ofPlain?_append
        · intro c hc
          exact isDigit_of_mem_shownDigits (List.mem_of_mem_take hc)
        · rw [ne_eq, ← List.length_eq_zero_iff, List.length_take]
          omega
  rw [ofText?, hplain]
  rfl

end Transact.Decimal
