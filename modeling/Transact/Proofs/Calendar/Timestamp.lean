/-
# Moments are read from their stored texts

A moment is stored as the date of its day and the time of day, in coordinated
universal time. The time is put together again from its hours, minutes and
seconds; a fraction of 3, 6 or 9 digits is as many nanoseconds as it was made
from. A leap second is stored as second 60, and read as what is behind the last
second of a minute.
-/

import Transact.Proofs.Calendar.Days
import Transact.Proofs.Calendar.Reader

namespace Transact.Calendar

open Reader

/-! ## The parts behind the date -/

theorem run_fraction_padded {width n : Nat} (hwidth : 0 < width) (hlimit : width ≤ 9)
    (h : n < 10 ^ width) (rest : List Char) :
    fraction.run ('.' :: (Digits.padded width n ++ 'Z' :: rest)) =
      .ok (n * 10 ^ (9 - width), 'Z' :: rest) := by
  have hlength := Digits.length_padded hwidth h
  have hsmall : n < 10 ^ 9 := lt_of_lt_of_le h (Nat.pow_le_pow_right (by decide) hlimit)
  have hdigits : (digitsUpTo 9).run (Digits.padded width n ++ 'Z' :: rest) =
      .ok (Digits.padded width n, 'Z' :: rest) := by
    apply run_digitsUpTo (fun c hc => Digits.isDigit_of_mem_padded hc)
    · rw [ne_eq, ← List.length_eq_zero_iff]
      omega
    · omega
    · right
      intro c hc
      cases hc
      decide
  have hvalue := @run_valueOf_padded width n (by omega) ('Z' :: rest)
  refine run_bind_eq (StateT.run_get _) (run_bind_eq (StateT.run_set _ _) ?_)
  refine run_bind_eq hdigits (run_bind_eq hvalue (run_bind_eq (StateT.run_modify _ _) ?_))
  rw [hlength]
  rfl

/-- The digits behind the second are as many nanoseconds as they were made from. -/
theorem run_fraction {nanos : Nat} (h : nanos < 1000000000) (rest : List Char) :
    fraction.run ((fractionText nanos).toList ++ 'Z' :: rest) = .ok (nanos, 'Z' :: rest) := by
  unfold fractionText
  split_ifs with hnone hmillis hmicros
  · rw [hnone]
    rfl
  · have hread := @run_fraction_padded 3 (nanos / 1000000) (by decide) (by decide) (by omega)
      rest
    have hnanos : nanos / 1000000 * 10 ^ (9 - 3) = nanos := by omega
    rw [hnanos] at hread
    simpa [toList_padded] using hread
  · have hread := @run_fraction_padded 6 (nanos / 1000) (by decide) (by decide) (by omega) rest
    have hnanos : nanos / 1000 * 10 ^ (9 - 6) = nanos := by omega
    rw [hnanos] at hread
    simpa [toList_padded] using hread
  · have hread := @run_fraction_padded 9 nanos (by decide) (by decide) h rest
    rw [Nat.sub_self, Nat.pow_zero, Nat.mul_one] at hread
    simpa [toList_padded] using hread

/-- A day and a time of day are read as the moment that they name. -/
theorem run_moment {year : Int} {month day hour minute second nanos : Nat} {result : Timestamp}
    (hday : IsDay year month day) (hhour : hour ≤ 23) (hminute : minute ≤ 59)
    (hsecond : second ≤ 60) (hnanos : nanos < 1000000000)
    (hresult : Timestamp.ofParts?
      (dayNumber year month day * 86400 + hour * 3600 + minute * 60 +
        ((if second = 60 then 59 else second : Nat) : Int))
      (if second = 60 then nanos + 1000000000 else nanos) = some result) :
    Reader.moment.run ((dateText year month day).toList ++ 'T' :: (Digits.padded 2 hour ++
      ':' :: (Digits.padded 2 minute ++ ':' :: (Digits.padded 2 second ++
        ((fractionText nanos).toList ++ ['Z']))))) = .ok (result, []) := by
  have hdate : Date.ofParts? year month day = some ⟨year, month, day, hday⟩ := dif_pos hday
  refine run_bind_eq (run_dateParts hday _) (run_bind_eq (StateT.run_get _) ?_)
  refine run_bind_eq (StateT.run_set _ _) ?_
  refine run_bind_eq
    (run_numberIn (by decide) (by omega) (by omega) (Nat.zero_le _) hhour _) ?_
  refine run_bind_eq (run_blanks (by decide) _) (run_bind_eq (run_literal ':' _) ?_)
  refine run_bind_eq
    (run_numberIn (by decide) (by omega) (by omega) (Nat.zero_le _) hminute _) ?_
  refine run_bind_eq (run_blanks (by decide) _) (run_bind_eq (run_literal ':' _) ?_)
  refine run_bind_eq
    (run_numberIn (by decide) (by omega) (by omega) (Nat.zero_le _) hsecond _) ?_
  refine run_bind_eq (run_fraction hnanos []) ?_
  refine run_bind_eq (run_blanks (by decide) _) ?_
  have hzone : zone.run ['Z'] = .ok (0, []) := rfl
  refine run_bind_eq hzone (run_bind_eq rfl ?_)
  refine run_bind_eq (run_require hdate .outOfRange []) ?_
  rw [if_pos (by decide)]
  by_cases hleap : second = 60
  · simp only [hleap, if_true] at hresult ⊢
    refine run_require (Eq.trans ?_ hresult) .impossible []
    rw [Int.sub_zero]
  · simp only [hleap, if_false] at hresult ⊢
    refine run_require (Eq.trans ?_ hresult) .impossible []
    rw [Int.sub_zero]

/-! ## Moments -/

/-- The number of the day of a moment lies between those of the first and the last day. -/
theorem day_range (moment : Timestamp) : dayNumber minYear 1 1 ≤ moment.seconds / 86400 ∧
    moment.seconds / 86400 ≤ dayNumber maxYear 12 31 := by
  obtain ⟨hmin, hmax, -, -⟩ := moment.isMoment
  unfold minSecond at hmin
  unfold maxSecond at hmax
  constructor
  · omega
  · omega

/-- The text of a moment, with the second and the nanoseconds that it shows. -/
theorem exists_toStored_eq (moment : Timestamp) : ∃ second nanos : Nat,
    second ≤ 60 ∧ nanos < 1000000000 ∧
    ((if second = 60 then 59 else second : Nat) : Int) = moment.seconds % 60 ∧
    (if second = 60 then nanos + 1000000000 else nanos) = moment.nanos ∧
    moment.toStored.toList =
      (dateText (ofDayNumber (moment.seconds / 86400)).1 (ofDayNumber (moment.seconds / 86400)).2.1
        (ofDayNumber (moment.seconds / 86400)).2.2).toList ++
      'T' :: (Digits.padded 2 ((moment.seconds % 86400).toNat / 3600) ++
        ':' :: (Digits.padded 2 ((moment.seconds % 86400).toNat / 60 % 60) ++
          ':' :: (Digits.padded 2 second ++ ((fractionText nanos).toList ++ ['Z'])))) := by
  obtain ⟨-, -, hnanos, hleap⟩ := moment.isMoment
  by_cases hplain : moment.nanos < 1000000000
  · refine ⟨(moment.seconds % 86400).toNat % 60, moment.nanos, by omega, hplain, ?_, ?_, ?_⟩
    · rw [if_neg (by omega)]
      omega
    · rw [if_neg (by omega)]
    · simp [Timestamp.toStored, Timestamp.localText, hplain, toList_padded]
  · have hlast : (moment.seconds % 86400).toNat % 60 = 59 := by omega
    refine ⟨60, moment.nanos - 1000000000, by decide, by omega, ?_, ?_, ?_⟩
    · rw [if_pos rfl]
      omega
    · rw [if_pos rfl]
      omega
    · simp [Timestamp.toStored, Timestamp.localText, hplain, hlast, toList_padded]

/-- A moment is read from its stored text. -/
theorem readTimestamp_toStored (moment : Timestamp) :
    readTimestamp moment.toStored = .ok moment := by
  obtain ⟨hmin, hmax⟩ := day_range moment
  obtain ⟨second, nanos, hsecond, hnanos, hclock, hbehind, htext⟩ := exists_toStored_eq moment
  have hparts : Timestamp.ofParts? moment.seconds moment.nanos = some moment :=
    dif_pos moment.isMoment
  have hseconds : moment.seconds / 86400 * 86400 +
      (((moment.seconds % 86400).toNat / 3600 : Nat) : Int) * 3600 +
      (((moment.seconds % 86400).toNat / 60 % 60 : Nat) : Int) * 60 + moment.seconds % 60 =
        moment.seconds := by
    omega
  have hread : Reader.moment.run moment.toStored.toList = .ok (moment, []) := by
    rw [htext]
    refine run_moment (isDay_ofDayNumber hmin hmax) (by omega) (by omega) hsecond hnanos ?_
    rw [dayNumber_ofDayNumber, hclock, hbehind, hseconds, hparts]
  rw [readTimestamp, hread]
  rfl

end Transact.Calendar
