/-
# Timestamps

A moment is the count of seconds since 1970-01-01T00:00:00 and the nanoseconds
after it. A leap second has no count of its own: it is the last second of a
minute with at least 10⁹ nanoseconds, and shows as second 60.
-/

import Transact.Calendar.Date

namespace Transact

namespace Calendar

/-- The first and the last second that the calendar covers. -/
def minSecond : Int := dayNumber minYear 1 1 * 86400

def maxSecond : Int := dayNumber maxYear 12 31 * 86400 + 86399

/-- Whether seconds and nanoseconds name a moment that the calendar covers. -/
def IsMoment (seconds : Int) (nanos : Nat) : Prop :=
  minSecond ≤ seconds ∧ seconds ≤ maxSecond ∧ nanos < 2000000000 ∧
    (nanos < 1000000000 ∨ seconds % 60 = 59)

instance (seconds : Int) (nanos : Nat) : Decidable (IsMoment seconds nanos) := by
  unfold IsMoment
  infer_instance

/-- The part after the second: none, or 3, 6 or 9 digits, as few as show it exactly. -/
def fractionText (nanos : Nat) : String :=
  if nanos = 0 then ""
  else if nanos % 1000000 = 0 then "." ++ padded 3 (nanos / 1000000)
  else if nanos % 1000 = 0 then "." ++ padded 6 (nanos / 1000)
  else "." ++ padded 9 nanos

end Calendar

/-- A moment in coordinated universal time. -/
structure Timestamp where
  seconds : Int
  nanos : Nat
  isMoment : Calendar.IsMoment seconds nanos := by decide
  deriving DecidableEq

namespace Timestamp

/-- The moment that seconds and nanoseconds name, if there is one. -/
def ofParts? (seconds : Int) (nanos : Nat) : Option Timestamp :=
  if h : Calendar.IsMoment seconds nanos then some ⟨seconds, nanos, h⟩ else none

/-- Date and time of day in digits, with a `T` between them and no zone. -/
def localText (moment : Timestamp) : String :=
  let (year, month, day) := Calendar.ofDayNumber (moment.seconds / 86400)
  let second := (moment.seconds % 86400).toNat
  let (shownSecond, nanos) :=
    if moment.nanos < 1000000000 then (second % 60, moment.nanos)
    else (second % 60 + 1, moment.nanos - 1000000000)
  Calendar.dateText year month day ++ "T" ++ Calendar.padded 2 (second / 3600) ++ ":"
    ++ Calendar.padded 2 (second / 60 % 60) ++ ":" ++ Calendar.padded 2 shownSecond
    ++ Calendar.fractionText nanos

/-- The form shown to people, with the zone as an offset. -/
def toText (moment : Timestamp) : String := moment.localText ++ "+00:00"

/-- The form that is stored, with the zone as `Z`. -/
def toStored (moment : Timestamp) : String := moment.localText ++ "Z"

end Timestamp

end Transact
