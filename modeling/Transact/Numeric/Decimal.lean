/-
# Decimal numbers

A `Decimal` is a signed magnitude of at most 96 bits over a power of ten of at
most 28, so `1.5` and `1.50` are two decimals of one numeric value. The written
form shows exactly `scale` digits after the point; the reader accepts that form,
digits grouped by underscores, digits beyond the precision (which are rounded by
the first of them, a half away from zero), and an exponent of at most 28 in size.

A zero has no sign where it is written as one; a negative number that an exponent
moves past the last place becomes a zero that keeps it.
-/

import Transact.Bytes

namespace Transact

/-- The number `magnitude / 10 ^ scale`, with a sign. -/
structure Decimal where
  negative : Bool
  magnitude : Nat
  scale : Nat
  magnitude_lt : magnitude < 0x1000000000000000000000000 := by decide
  scale_le : scale ≤ 28 := by decide
  deriving DecidableEq

namespace Decimal

/-- The signed magnitude. -/
def mantissa (x : Decimal) : Int :=
  if x.negative then -(x.magnitude : Int) else x.magnitude

/-- A signed magnitude over a scale, where both are in range. -/
def ofSigned? (negative : Bool) (magnitude scale : Nat) : Option Decimal :=
  if h : magnitude < 0x1000000000000000000000000 ∧ scale ≤ 28 then
    some ⟨negative, magnitude, scale, h.1, h.2⟩
  else none

/-- The same, except that zero takes no sign. -/
def ofParts? (negative : Bool) (magnitude scale : Nat) : Option Decimal :=
  ofSigned? (negative && magnitude != 0) magnitude scale

/-- Whether two decimals denote one number, whatever their scales. -/
def equal (x y : Decimal) : Bool :=
  x.mantissa * Nat.pow 10 y.scale == y.mantissa * Nat.pow 10 x.scale

/-- The decimal in digits, with `scale` of them after the point. -/
def toText (x : Decimal) : String :=
  let digits := Nat.toDigits 10 x.magnitude
  let padded := List.replicate (x.scale + 1 - digits.length) '0' ++ digits
  let whole := padded.length - x.scale
  let sign := if x.negative then "-" else ""
  if x.scale = 0 then sign ++ String.ofList padded
  else sign ++ String.ofList (padded.take whole) ++ "." ++ String.ofList (padded.drop whole)

/-- The value of a decimal digit. -/
def digit? (c : Char) : Option Nat :=
  if c.isDigit then some (c.toNat - '0'.toNat) else none

/-- Round what has been read by the first digit that no longer fits. A carry past 96 bits
costs one place after the point. -/
def round? (negative : Bool) (magnitude scale next : Nat) : Option Decimal :=
  if next < 5 then ofParts? negative magnitude scale
  else if magnitude + 1 < 0x1000000000000000000000000 then ofParts? negative (magnitude + 1) scale
  else if scale = 0 then none
  else ofParts? negative ((magnitude + 1 + 4) / 10) (scale - 1)

/-- Whether what follows the rounding digit may be there: digits, grouped or not. -/
def isDropped (rest : List Char) : Bool :=
  rest.all fun c => c.isDigit || c == '_'

/-- Whether a magnitude of 28 places is short: what its last digit was appended to is below a
tenth of a 64-bit word's range, and by more than 255. -/
def isShort (magnitude : Nat) : Bool :=
  magnitude / 10 < 0x199999999999989A

/-- Read the digits after the sign. Underscores are passed over; behind the last place of a
short number, though, an underscore stands for the rounding digit, and it is a zero. -/
def readDigits (negative afterPoint anyDigit : Bool) (magnitude scale : Nat) :
    List Char → Option Decimal
  | [] => if anyDigit then ofParts? negative magnitude scale else none
  | c :: rest =>
    if c = '.' && !afterPoint then readDigits negative true anyDigit magnitude scale rest
    else if c = '_' && anyDigit then
      if 28 ≤ scale && isShort magnitude then
        if isDropped rest then round? negative magnitude scale 0 else none
      else readDigits negative afterPoint anyDigit magnitude scale rest
    else
      match digit? c with
      | none => none
      | some digit =>
        if scale < 28 && magnitude * 10 + digit < 0x1000000000000000000000000 then
          readDigits negative afterPoint true (magnitude * 10 + digit)
            (if afterPoint then scale + 1 else scale) rest
        else if afterPoint && isDropped rest then round? negative magnitude scale digit
        else none

/-- Read a decimal without exponent. -/
def ofPlain? (text : List Char) : Option Decimal :=
  match text with
  | '-' :: rest => readDigits true false false 0 0 rest
  | '+' :: rest => readDigits false false false 0 0 rest
  | rest => readDigits false false false 0 0 rest

/-- Read an unsigned exponent of at most 32 bits. -/
def readExponent? (text : List Char) : Option Nat :=
  let digits := match text with
    | '+' :: rest => rest
    | rest => rest
  if digits.isEmpty then none
  else match digits.foldlM (fun n c => (digit? c).map (n * 10 + ·)) 0 with
    | some n => if n < 0x100000000 then some n else none
    | none => none

/-- A magnitude without its last places, rounded to the nearest, a half away from zero. -/
def dropPlaces (count magnitude : Nat) : Nat :=
  (2 * magnitude + Nat.pow 10 count) / (2 * Nat.pow 10 count)

/-- Multiply by a power of ten, of at most 28 zeros, by moving the point. To the left, places
beyond the 28th are rounded off; to the right, zeros are added once the places are used up. -/
def shift? (x : Decimal) (toLeft : Bool) (exponent : Nat) : Option Decimal :=
  if 28 < exponent then none
  else if toLeft then
    let scale := x.scale + exponent
    ofSigned? x.negative (dropPlaces (scale - 28) x.magnitude) (Nat.min scale 28)
  else if exponent ≤ x.scale then ofSigned? x.negative x.magnitude (x.scale - exponent)
  else ofSigned? x.negative (x.magnitude * Nat.pow 10 (exponent - x.scale)) 0

/-- Read a decimal with an exponent. -/
def ofScientific? (text : List Char) : Option Decimal :=
  let isMark := fun c : Char => c == 'e' || c == 'E'
  let base := text.takeWhile (!isMark ·)
  match text.dropWhile (!isMark ·) with
  | [] => none
  | _ :: exponent => do
    let x ← ofPlain? base
    match exponent with
    | '-' :: rest => x.shift? true (← readExponent? rest)
    | rest => x.shift? false (← readExponent? rest)

/-- Read a decimal. -/
def ofText? (text : String) : Option Decimal :=
  ofPlain? text.toList <|> ofScientific? text.toList

end Decimal

end Transact
