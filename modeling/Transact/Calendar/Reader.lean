/-
# Reading dates and moments

Readers of the stored forms. They are lenient about blanks around the parts and
about the zone, but not about the calendar: a day that does not exist, or a
number out of its range, is refused. The fault says what went wrong first,
reading from the left.
-/

import Transact.Calendar.Timestamp
import Transact.Text.Blank

namespace Transact.Calendar

/-- Why a text is no date or moment. -/
inductive Fault where
  | outOfRange
  | impossible
  | invalid
  | tooShort
  | trailing
  deriving DecidableEq, Repr

/-- The wording of a fault. -/
def Fault.message : Fault → String
  | .outOfRange => "input is out of range"
  | .impossible => "no possible date and time matching input"
  | .invalid => "input contains invalid characters"
  | .tooShort => "premature end of input"
  | .trailing => "trailing input"

/-- A step that consumes characters from the left. -/
abbrev Reader (α : Type) := StateT (List Char) (Except Fault) α

namespace Reader

/-- Skip blanks. -/
def blanks : Reader Unit :=
  modify (·.dropWhile Blank.isBlank)

/-- Expect one character. -/
def literal (expected : Char) : Reader Unit := do
  match ← get with
  | [] => throw .tooShort
  | c :: rest => if c = expected then set rest else throw .invalid

/-- The value of a row of digits, which has to fit a signed 64-bit word. -/
def valueOf (digits : List Char) : Reader Nat :=
  let value := digits.foldl (fun n c => n * 10 + (c.toNat - '0'.toNat)) 0
  if value < 0x8000000000000000 then pure value else throw .outOfRange

/-- Between one and `limit` digits. -/
def digitsUpTo (limit : Nat) : Reader (List Char) := do
  let chars ← get
  let digits := (chars.take limit).takeWhile Char.isDigit
  match chars, digits with
  | [], _ => throw .tooShort
  | _, [] => throw .invalid
  | _, _ => set (chars.drop digits.length); pure digits

/-- A number of at most `width` digits, after blanks. -/
def number (width : Nat) : Reader Nat := do
  blanks
  valueOf (← digitsUpTo width)

/-- A number that has to lie between two bounds. -/
def numberIn (width low high : Nat) : Reader Nat := do
  let value ← number width
  if low ≤ value ∧ value ≤ high then pure value else throw .outOfRange

/-- A year: four digits at most, or a sign and any number of digits. -/
def year : Reader Int := do
  blanks
  let value : Int ← match ← get with
    | '-' :: rest => set rest; pure (-((← valueOf (← digitsUpTo rest.length)) : Int))
    | '+' :: rest => set rest; pure ((← valueOf (← digitsUpTo rest.length)) : Int)
    | _ => pure ((← number 4) : Int)
  if -0x80000000 ≤ value ∧ value < 0x80000000 then pure value else throw .outOfRange

/-- Year, month and day. -/
def dateParts : Reader (Int × Nat × Nat) := do
  let year ← year
  blanks
  literal '-'
  let month ← numberIn 2 1 12
  blanks
  literal '-'
  let day ← numberIn 2 1 31
  pure (year, month, day)

/-- The nanoseconds after the point, if there is one; digits past the ninth are dropped. -/
def fraction : Reader Nat := do
  match ← get with
  | '.' :: rest =>
    set rest
    let digits ← digitsUpTo 9
    let value ← valueOf digits
    modify (·.dropWhile Char.isDigit)
    pure (value * Nat.pow 10 (9 - digits.length))
  | _ => pure 0

/-- Two digits, the first of which may be at most `high`. A last character beyond ASCII is as
long as two digits in bytes, so it counts as a wrong one and not as one too few. -/
def twoDigits (high : Char) : Reader Nat := do
  match ← get with
  | first :: second :: rest =>
    if first.isDigit && second.isDigit then
      if first ≤ high then set rest; valueOf [first, second] else throw .outOfRange
    else throw .invalid
  | [single] => throw (if single.toNat < 0x80 then .tooShort else .invalid)
  | [] => throw .tooShort

/-- The seconds by which a zone runs ahead. -/
def zone : Reader Int := do
  let chars ← get
  match chars with
  | [] => throw .tooShort
  | first :: rest =>
    if (chars.take 3).map Char.toUpper = ['U', 'T', 'C'] then
      set (chars.drop 3)
      pure 0
    else if first = 'Z' ∨ first = 'z' then
      set rest
      pure 0
    else if first = '+' ∨ first = '-' ∨ first = '−' then
      set rest
      let hours ← twoDigits '9'
      modify (·.dropWhile fun c => c == ':' || Blank.isBlank c)
      let minutes ← twoDigits '5'
      let seconds : Int := hours * 3600 + minutes * 60
      pure (if first = '+' then seconds else -seconds)
    else throw .invalid

/-- Nothing but blanks may follow. -/
def finish : Reader Unit := do
  blanks
  if (← get).isEmpty then pure () else throw .trailing

/-- A value that has to exist. -/
def require {α : Type} (otherwise : Fault) : Option α → Reader α
  | some value => pure value
  | none => throw otherwise

/-- A whole date. -/
def date : Reader Date := do
  let (year, month, day) ← dateParts
  finish
  require .outOfRange (Date.ofParts? year month day)

/-- A whole moment. Second 60 is the leap second after second 59. -/
def moment : Reader Timestamp := do
  let (year, month, day) ← dateParts
  match ← get with
  | [] => throw .tooShort
  | c :: rest => if c = 'T' ∨ c = 't' ∨ c = ' ' then set rest else throw .invalid
  let hour ← numberIn 2 0 23
  blanks
  literal ':'
  let minute ← numberIn 2 0 59
  blanks
  literal ':'
  let second ← numberIn 2 0 60
  let nanos ← fraction
  blanks
  let ahead ← zone
  finish
  let date ← require .outOfRange (Date.ofParts? year month day)
  if ahead.natAbs < 86400 then pure () else throw .outOfRange
  let (second, nanos) := if second = 60 then (59, nanos + 1000000000) else (second, nanos)
  let days := dayNumber date.year date.month date.day
  let seconds := days * 86400 + hour * 3600 + minute * 60 + second - ahead
  require .impossible (Timestamp.ofParts? seconds nanos)

end Reader

/-- The date that a text names. -/
def readDate (text : String) : Except Fault Date :=
  (Reader.date.run text.toList).map Prod.fst

/-- The moment that a text names. -/
def readTimestamp (text : String) : Except Fault Timestamp :=
  (Reader.moment.run text.toList).map Prod.fst

end Transact.Calendar
