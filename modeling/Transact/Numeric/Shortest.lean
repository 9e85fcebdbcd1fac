/-
# Shortest decimal digits

Every positive floating-point number owns the interval of reals that round to
it. The digits chosen for a number are the fewest that name a point of that
interval, and of those the nearest to the number. Only a tie between two
nearest points is left open, and is settled by the format that asks.
-/

import Transact.Numeric.Binary

namespace Transact.Shortest

/-- How a tie between two nearest decimals is settled: for the one whose last digit is
even, or for the larger. -/
inductive Tie where
  | toEven
  | upward
  deriving DecidableEq, Repr

/-- The number `0.d₁d₂…dₙ * 10 ^ point`, without zeros at the end. -/
structure Digits where
  digits : List Char
  point : Int
  deriving DecidableEq, Repr

/-- How many decimal digits a number has. -/
def digitCount (n : Nat) : Nat := (Nat.toDigits 10 n).length

/-- The position of the decimal point of a positive fraction: the least `k` with the
fraction below `10 ^ k`. -/
def pointOf (numerator denominator : Nat) : Int :=
  if denominator ≤ numerator then digitCount (numerator / denominator)
  else
    let zeros := digitCount (denominator / numerator) - 1
    if denominator ≤ numerator * Nat.pow 10 zeros then 1 - (zeros : Int) else -(zeros : Int)

/-- The interval of one number: the number and its ends, all over one denominator. -/
structure Interval where
  low : Nat
  value : Nat
  high : Nat
  denominator : Nat
  closed : Bool

namespace Interval

/-- The reals that round to `mantissa * 2 ^ exponent`. Below a power of two the next number
is only half as far away; the ends belong to the interval if the mantissa is even. -/
def ofMantissa (format : Format) (mantissa : Nat) (exponent : Int) : Interval :=
  let narrow := mantissa = Nat.pow 2 format.fractionBits ∧ format.minExponent < exponent
  let (weight, denominator) := Format.scale 1 1 (exponent - 2)
  { low := (4 * mantissa - if narrow then 1 else 2) * weight
    value := 4 * mantissa * weight
    high := (4 * mantissa + 2) * weight
    denominator
    closed := mantissa % 2 = 0 }

/-- Whether `candidate * 10 ^ exponent` lies in the interval, where the exponent is given as
a fraction `unit / per`. -/
def contains (interval : Interval) (candidate unit per : Nat) : Bool :=
  let point := candidate * unit * interval.denominator
  let low := interval.low * per
  let high := interval.high * per
  if interval.closed then low ≤ point && point ≤ high else low < point && point < high

/-- The best decimal with `count` digits, if the interval holds one. -/
def withDigits? (interval : Interval) (tie : Tie) (point : Int) (count : Nat) :
    Option (Nat × Int) :=
  let exponent := point - count
  let (unit, per) : Nat × Nat :=
    match exponent with
    | .ofNat n => (Nat.pow 10 n, 1)
    | .negSucc n => (1, Nat.pow 10 (n + 1))
  let scaled := interval.value * per
  let grid := interval.denominator * unit
  let below := scaled / grid
  let remainder := scaled % grid
  match interval.contains below unit per, interval.contains (below + 1) unit per with
  | false, false => none
  | true, false => some (below, exponent)
  | false, true => some (below + 1, exponent)
  | true, true =>
    let upper :=
      if 2 * remainder < grid then false
      else if grid < 2 * remainder then true
      else match tie with
        | .toEven => below % 2 = 1
        | .upward => true
    some (if upper then below + 1 else below, exponent)

/-- The best decimal with the fewest digits, trying at most `limit` of them. -/
def shortest (interval : Interval) (tie : Tie) (limit : Nat) : Nat × Int :=
  let point := pointOf interval.value interval.denominator
  ((List.range limit).findSome? fun count => interval.withDigits? tie point (count + 1)).getD (0, 0)

end Interval

/-- Drop the zeros at the end of a row of digits. -/
def dropZeros (digits : List Char) : List Char :=
  (digits.reverse.dropWhile (· == '0')).reverse

/-- The shortest digits of a positive number. Seventeen digits tell any two numbers of
either format apart. -/
def digits (format : Format) (tie : Tie) (mantissa : Nat) (exponent : Int) : Digits :=
  let (number, unit) := (Interval.ofMantissa format mantissa exponent).shortest tie 17
  let all := Nat.toDigits 10 number
  { digits := dropZeros all, point := all.length + unit }

/-- Digits in positional notation: zeros fill the places up to the point, and no point is
written after the last digit of a whole number. -/
def Digits.positional (decimal : Digits) : String :=
  let count := decimal.digits.length
  if decimal.point ≤ 0 then
    "0." ++ String.ofList (List.replicate (-decimal.point).toNat '0' ++ decimal.digits)
  else
    let whole := decimal.point.toNat
    if count ≤ whole then
      String.ofList (decimal.digits ++ List.replicate (whole - count) '0')
    else
      String.ofList (decimal.digits.take whole) ++ "." ++ String.ofList (decimal.digits.drop whole)

end Transact.Shortest
