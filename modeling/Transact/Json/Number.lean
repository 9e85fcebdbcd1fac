/-
# The values of JSON numbers

An integer that fits 64 bits, signed or unsigned, stays an integer; every other
number becomes a double. A double is computed from the first digits that fit an
unsigned 64-bit word and a power of ten, with one rounding for the digits and
one for each multiplication or division by a power of ten, so the last bit may
differ from the nearest double. A number too large for a double has no value.
-/

import Transact.Json.Basic
import Transact.Json.Document

namespace Transact

namespace NumberText

/-- The value of a decimal digit. -/
def digitValue (c : Char) : Nat := c.toNat - '0'.toNat

/-- Append digits to a significand while it fits 64 bits; the rest of the digits is returned
from the first that does not fit. -/
def accumulate (significand : Nat) : List Char → Nat × List Char
  | [] => (significand, [])
  | c :: rest =>
    if significand * 10 + digitValue c < 0x10000000000000000 then
      accumulate (significand * 10 + digitValue c) rest
    else (significand, c :: rest)

/-- The digits that count and the power of ten they are scaled by, before the exponent part.
Whole digits that do not fit still count as places, digits after the point do not. -/
def significandOf (text : NumberText) : Nat × Int :=
  let (significand, dropped) := accumulate 0 text.whole
  let fraction := text.fraction.getD []
  let (significand, ignored) := accumulate significand fraction
  (significand, (dropped.length : Int) - (fraction.length - ignored.length : Nat))

/-- Divide by `10 ^ 308` until the exponent comes into the range of doubles; more than three
divisions leave zero. -/
def divideDown : Nat → Binary64 → Int → Binary64 × Int
  | 0, x, exponent => (x, exponent)
  | steps + 1, x, exponent =>
    if -308 ≤ exponent ∨ x.isZero then (x, exponent)
    else divideDown steps (x.div (.ofNat (Nat.pow 10 308))) (exponent + 308)

/-- The double `significand * 10 ^ exponent`, unless it is too large. -/
def scaled? (significand : Nat) (exponent : Int) : Option Binary64 :=
  let (x, exponent) := divideDown 4 (.ofNat significand) exponent
  if x.isZero then some x
  else if 308 < exponent then none
  else if 0 ≤ exponent then
    let product := x.mul (.ofNat (Nat.pow 10 exponent.toNat))
    if product.isInfinite then none else some product
  else some (x.div (.ofNat (Nat.pow 10 (-exponent).toNat)))

/-- The number as a double, unless it is too large. An exponent of more than 31 bits decides
by itself. -/
def toBinary64? (text : NumberText) : Option Binary64 :=
  let (significand, scale) := text.significandOf
  let signed := fun x : Binary64 => if text.negative then x.negate else x
  match text.exponent with
  | none => (scaled? significand scale).map signed
  | some (negative, digits) =>
    let exponent := digits.foldl (fun n c => n * 10 + digitValue c) 0
    if 0x80000000 ≤ exponent then
      if significand ≠ 0 ∧ ¬ negative then none else some (signed (.ofNat 0))
    else (scaled? significand (if negative then scale - exponent else scale + exponent)).map signed

/-- The number as an integer of 64 bits. Zero with a sign is none. -/
def toInteger? (text : NumberText) : Option Int :=
  match text.fraction, text.exponent with
  | none, none =>
    let value := text.whole.foldl (fun n c => n * 10 + digitValue c) 0
    if text.negative then
      if 0 < value ∧ value ≤ 0x8000000000000000 then some (-(value : Int)) else none
    else if value < 0x10000000000000000 then some value else none
  | _, _ => none

/-- The value of a number, unless it is too large. -/
def value? (text : NumberText) : Option JsonNumber :=
  match text.toInteger? with
  | some value => some (.integer value)
  | none => text.toBinary64?.map .float

end NumberText

end Transact
