/-
# Dates are read from their texts

The readers of dates take the texts of dates apart as they were put together: a
year with its digits or its sign, and after each dash a number of two digits.
Numbers of a fixed width are taken off the front of anything. A signed year has
as many digits as it needs, so it ends where the digits do, at the dash.
-/

import Transact.Calendar.Reader
import Transact.Proofs.Text.Digits

namespace Transact.Calendar

open Reader

/-! ## The steps of a reader -/

namespace Reader

variable {α β : Type} {reader : Reader α} {chars rest behind : List Char}

/-- Two steps in a row. -/
theorem run_bind_eq {next : α → Reader β} {x : α} {y : β}
    (hfirst : reader.run chars = .ok (x, rest)) (hnext : (next x).run rest = .ok (y, behind)) :
    (reader >>= next).run chars = .ok (y, behind) := by
  rw [StateT.run_bind, hfirst]
  exact hnext

/-- A value that is in its range is let through. -/
theorem run_of_range {p : Prop} [Decidable p] (h : p) (x : α) (fault : Fault) (rest : List Char) :
    (if p then pure x else throw fault : Reader α).run rest = .ok (x, rest) := by
  rw [if_pos h]
  rfl

theorem run_blanks {c : Char} (h : Blank.isBlank c = false) (rest : List Char) :
    blanks.run (c :: rest) = .ok ((), c :: rest) := by
  show Except.ok ((), (c :: rest).dropWhile Blank.isBlank) = _
  rw [List.dropWhile_cons_of_neg (by simp [h])]

theorem run_literal (c : Char) (rest : List Char) :
    (literal c).run (c :: rest) = .ok ((), rest) := by
  show (if c = c then _ else _ : Reader Unit).run (c :: rest) = _
  rw [if_pos rfl]
  rfl

theorem not_isBlank_of_isDigit {c : Char} (h : c.isDigit = true) : Blank.isBlank c = false := by
  have hcode : 48 ≤ c.toNat ∧ c.toNat ≤ 57 := by
    simpa [Char.isDigit, UInt32.le_iff_toNat_le] using h
  have hblank : ¬ Blank.isBlank c = true := by
    simp only [Blank.isBlank, Bool.or_eq_true, Bool.and_eq_true, decide_eq_true_eq, beq_iff_eq]
    omega
  simpa using hblank

/-- Digits are taken up to the limit, or up to what is no digit. -/
theorem run_digitsUpTo {limit : Nat} {digits : List Char} (hdigits : ∀ c ∈ digits, c.isDigit = true)
    (hne : digits ≠ []) (hlimit : digits.length ≤ limit)
    (hend : digits.length = limit ∨ ∀ c ∈ rest.head?, c.isDigit = false) :
    (digitsUpTo limit).run (digits ++ rest) = .ok (digits, rest) := by
  have hrest : (rest.take (limit - digits.length)).takeWhile Char.isDigit = [] := by
    cases hend with
    | inl hlength => simp [hlength]
    | inr hhead =>
        cases rest with
        | nil => simp
        | cons c rest =>
            have hc := hhead c rfl
            cases limit - digits.length with
            | zero => rfl
            | succ count => simp [hc]
  have htaken : ((digits ++ rest).take limit).takeWhile Char.isDigit = digits := by
    rw [List.take_append, List.take_of_length_le hlimit, List.takeWhile_append_of_pos hdigits,
      hrest, List.append_nil]
  have hdropped : (digits ++ rest).drop digits.length = rest := List.drop_left
  obtain ⟨c, others, rfl⟩ := List.exists_cons_of_ne_nil hne
  rw [List.cons_append] at htaken hdropped ⊢
  simp only [digitsUpTo, StateT.run_bind, StateT.run_get, pure_bind, htaken]
  rw [StateT.run_set, hdropped]
  rfl

theorem run_valueOf (digits : List Char) (h : Nat.ofDigitChars 10 digits 0 < 0x8000000000000000)
    (rest : List Char) : (valueOf digits).run rest = .ok (Nat.ofDigitChars 10 digits 0, rest) := by
  have hvalue : digits.foldl (fun n c => n * 10 + (c.toNat - '0'.toNat)) 0 =
      Nat.ofDigitChars 10 digits 0 := by
    simp only [Nat.ofDigitChars_eq_foldl, Nat.mul_comm 10]
  unfold valueOf
  rw [hvalue, if_pos h]
  rfl

theorem run_valueOf_padded {width n : Nat} (h : n < 0x8000000000000000) (rest : List Char) :
    (valueOf (Digits.padded width n)).run rest = .ok (n, rest) := by
  have hvalue := run_valueOf (Digits.padded width n) (by rwa [Digits.ofDigitChars_padded]) rest
  rwa [Digits.ofDigitChars_padded] at hvalue

/-- A number in at most so many digits is read, if it ends with them. -/
theorem run_number {width : Nat} {digits : List Char} (hdigits : ∀ c ∈ digits, c.isDigit = true)
    (hne : digits ≠ []) (hwidth : digits.length ≤ width)
    (hend : digits.length = width ∨ ∀ c ∈ rest.head?, c.isDigit = false)
    (hvalue : Nat.ofDigitChars 10 digits 0 < 0x8000000000000000) :
    (number width).run (digits ++ rest) = .ok (Nat.ofDigitChars 10 digits 0, rest) := by
  have hblanks : blanks.run (digits ++ rest) = .ok ((), digits ++ rest) := by
    obtain ⟨c, others, rfl⟩ := List.exists_cons_of_ne_nil hne
    exact run_blanks (not_isBlank_of_isDigit (hdigits c List.mem_cons_self)) _
  refine run_bind_eq hblanks ?_
  exact run_bind_eq (run_digitsUpTo hdigits hne hwidth hend) (run_valueOf digits hvalue rest)

/-- A number that is written with zeros in front, and fits its width, is read. -/
theorem run_number_padded {width n : Nat} (hwidth : 0 < width) (h : n < 10 ^ width)
    (hword : n < 0x8000000000000000) (rest : List Char) :
    (number width).run (Digits.padded width n ++ rest) = .ok (n, rest) := by
  have hlength := Digits.length_padded hwidth h
  have hne : Digits.padded width n ≠ [] := by
    rw [ne_eq, ← List.length_eq_zero_iff]
    omega
  have hvalue := Digits.ofDigitChars_padded width n
  have hread : (number width).run (Digits.padded width n ++ rest) =
      .ok (Nat.ofDigitChars 10 (Digits.padded width n) 0, rest) := by
    apply run_number (fun c hc => Digits.isDigit_of_mem_padded hc) hne (by omega) (.inl hlength)
    rwa [hvalue]
  rwa [hvalue] at hread

theorem run_numberIn {width low high n : Nat} (hwidth : 0 < width) (h : n < 10 ^ width)
    (hword : n < 0x8000000000000000) (hlow : low ≤ n) (hhigh : n ≤ high) (rest : List Char) :
    (numberIn width low high).run (Digits.padded width n ++ rest) = .ok (n, rest) := by
  exact run_bind_eq (run_number_padded hwidth h hword rest)
    (run_of_range ⟨hlow, hhigh⟩ n .outOfRange rest)

end Reader

/-! ## Dates -/

theorem toList_padded (width n : Nat) : (padded width n).toList = Digits.padded width n :=
  String.toList_ofList

/-- A year in four digits is read as one. -/
theorem run_year_unsigned {n : Nat} (h : n ≤ 9999) (rest : List Char) :
    Reader.year.run (Digits.padded 4 n ++ rest) = .ok ((n : Int), rest) := by
  have hnumber := @run_number_padded 4 n (by decide) (by omega) (by omega) rest
  have hlength := @Digits.length_padded 4 n (by decide) (by omega)
  obtain ⟨c, others, hchars⟩ : ∃ c others, Digits.padded 4 n = c :: others := by
    apply List.exists_cons_of_ne_nil
    rw [ne_eq, ← List.length_eq_zero_iff]
    omega
  have hc : c.isDigit = true := Digits.isDigit_of_mem_padded (hchars ▸ List.mem_cons_self)
  rw [hchars, List.cons_append] at hnumber ⊢
  refine run_bind_eq (run_blanks (not_isBlank_of_isDigit hc) _) ?_
  refine run_bind_eq (StateT.run_get _) ?_
  split
  case h_1 heq => exact absurd (List.cons.inj heq).1 (Digits.ne_of_isDigit hc (by decide))
  case h_2 heq => exact absurd (List.cons.inj heq).1 (Digits.ne_of_isDigit hc (by decide))
  case h_3 =>
    have hrange : -0x80000000 ≤ (n : Int) ∧ (n : Int) < 0x80000000 := by omega
    exact run_bind_eq hnumber (run_bind_eq rfl (run_of_range hrange _ _ _))

/-- A year with a sign is read as one. -/
theorem run_year_signed {n : Nat} (h : n ≤ 262143) (negative : Bool) (rest : List Char) :
    Reader.year.run ((if negative then '-' else '+') :: (Digits.padded 4 n ++ '-' :: rest)) =
      .ok ((if negative then -(n : Int) else n), '-' :: rest) := by
  have hlength := Digits.width_le_length_padded 4 n
  have hdigits : (digitsUpTo (Digits.padded 4 n ++ '-' :: rest).length).run
      (Digits.padded 4 n ++ '-' :: rest) = .ok (Digits.padded 4 n, '-' :: rest) := by
    apply run_digitsUpTo (fun c hc => Digits.isDigit_of_mem_padded hc)
    · rw [ne_eq, ← List.length_eq_zero_iff]
      omega
    · simp
    · right
      intro c hc
      cases hc
      decide
  have hvalue := @run_valueOf_padded 4 n (by omega) ('-' :: rest)
  cases negative with
  | true =>
      refine run_bind_eq (run_blanks (by decide) _) (run_bind_eq (StateT.run_get _) ?_)
      refine run_bind_eq (StateT.run_set _ _) (run_bind_eq hdigits ?_)
      have hrange : -0x80000000 ≤ -(n : Int) ∧ -(n : Int) < 0x80000000 := by omega
      exact run_bind_eq hvalue (run_bind_eq rfl (run_of_range hrange _ _ _))
  | false =>
      refine run_bind_eq (run_blanks (by decide) _) (run_bind_eq (StateT.run_get _) ?_)
      refine run_bind_eq (StateT.run_set _ _) (run_bind_eq hdigits ?_)
      have hrange : -0x80000000 ≤ (n : Int) ∧ (n : Int) < 0x80000000 := by omega
      exact run_bind_eq hvalue (run_bind_eq rfl (run_of_range hrange _ _ _))

/-- The year of a date that the calendar covers is read from its text in front of a dash. -/
theorem run_year {year : Int} (hmin : minYear ≤ year) (hmax : year ≤ maxYear) (rest : List Char) :
    Reader.year.run ((yearText year).toList ++ '-' :: rest) = .ok (year, '-' :: rest) := by
  unfold minYear at hmin
  unfold maxYear at hmax
  unfold yearText
  split
  case isTrue hplain =>
    have hread := @run_year_unsigned year.toNat (by omega) ('-' :: rest)
    rwa [Int.toNat_of_nonneg hplain.1, ← toList_padded] at hread
  case isFalse hplain =>
    have hread := @run_year_signed year.natAbs (by omega) (decide (year < 0)) rest
    by_cases hnegative : year < 0
    · have hvalue : -|year| = year := by
        rw [abs_of_neg hnegative, Int.neg_neg]
      simpa [hnegative, hvalue, toList_padded] using hread
    · have hvalue : |year| = year := abs_of_nonneg (by omega)
      simpa [hnegative, hvalue, toList_padded] using hread

/-- No month is longer than 31 days, so its days have at most two digits. -/
theorem daysIn_le (year : Int) (month : Nat) : daysIn year month ≤ 31 := by
  unfold daysIn
  split_ifs <;> omega

/-- The parts of a day are read from its text in front of anything. -/
theorem run_dateParts {year : Int} {month day : Nat} (h : IsDay year month day)
    (rest : List Char) :
    dateParts.run ((dateText year month day).toList ++ rest) = .ok ((year, month, day), rest) := by
  obtain ⟨hmin, hmax, hmonth, hmonth', hday, hday'⟩ := h
  have hlast := daysIn_le year month
  have htext : (dateText year month day).toList ++ rest =
      (yearText year).toList ++
        '-' :: (Digits.padded 2 month ++ '-' :: (Digits.padded 2 day ++ rest)) := by
    simp [dateText, toList_padded]
  rw [htext]
  refine run_bind_eq (run_year hmin hmax _) ?_
  refine run_bind_eq (run_blanks (by decide) _) (run_bind_eq (run_literal '-' _) ?_)
  refine run_bind_eq (run_numberIn (by decide) (by omega) (by omega) hmonth hmonth' _) ?_
  refine run_bind_eq (run_blanks (by decide) _) (run_bind_eq (run_literal '-' _) ?_)
  exact run_bind_eq (run_numberIn (by decide) (by omega) (by omega) hday (by omega) _) rfl

theorem run_require {α : Type} {value : Option α} {x : α} (h : value = some x) (fault : Fault)
    (rest : List Char) : (require fault value).run rest = .ok (x, rest) := by
  rw [h]
  rfl

/-- A date is read from its text. -/
theorem readDate_toText (date : Date) : readDate date.toText = .ok date := by
  have hparts := run_dateParts date.isDay []
  rw [List.append_nil] at hparts
  have hday : Date.ofParts? date.year date.month date.day = some date := dif_pos date.isDay
  have hread : Reader.date.run date.toText.toList = .ok (date, []) :=
    run_bind_eq hparts (run_bind_eq rfl (run_require hday .outOfRange []))
  rw [readDate, hread]
  rfl

end Transact.Calendar
