/-
# Binary floating-point numbers

A `Binary32` or `Binary64` is its bit pattern, so that every value, each NaN
among them, survives storage unchanged. What a pattern denotes is read off by
`Format.classify`, and arithmetic is exact: an operation is computed on
fractions of natural numbers and rounded once, to the nearest value with ties
to an even mantissa.
-/

namespace Transact

/-- An interchange format: the widths of its fraction and exponent fields. -/
structure Format where
  fractionBits : Nat
  exponentBits : Nat
  deriving DecidableEq, Repr

/-- What a bit pattern denotes; a finite number is `mantissa * 2 ^ exponent`. -/
inductive FloatClass where
  | nan
  | infinite (negative : Bool)
  | finite (negative : Bool) (mantissa : Nat) (exponent : Int)
  deriving DecidableEq, Repr

namespace Format

/-- The exponent of the smallest positive number. -/
def minExponent (format : Format) : Int :=
  2 - Nat.pow 2 (format.exponentBits - 1) - format.fractionBits

/-- The pattern of positive infinity. -/
def infinity (format : Format) : Nat :=
  (Nat.pow 2 format.exponentBits - 1) * Nat.pow 2 format.fractionBits

/-- The value of the sign bit. -/
def signWeight (format : Format) : Nat :=
  Nat.pow 2 (format.exponentBits + format.fractionBits)

/-- Read a bit pattern. -/
def classify (format : Format) (bits : Nat) : FloatClass :=
  let negative := decide (format.signWeight ≤ bits)
  let magnitude := bits % format.signWeight
  let field := magnitude / Nat.pow 2 format.fractionBits
  let fraction := magnitude % Nat.pow 2 format.fractionBits
  if format.infinity < magnitude then .nan
  else if magnitude = format.infinity then .infinite negative
  else if field = 0 then .finite negative fraction format.minExponent
  else .finite negative (Nat.pow 2 format.fractionBits + fraction) (format.minExponent + (field - 1 : Nat))

/-- A quotient rounded to the nearest natural number, a half to the even neighbour. -/
def roundDiv (numerator denominator : Nat) : Nat :=
  let quotient := numerator / denominator
  let remainder := numerator % denominator
  if 2 * remainder < denominator then quotient
  else if denominator < 2 * remainder then quotient + 1
  else quotient + quotient % 2

/-- A fraction times a power of two, as a fraction. -/
def scale (numerator denominator : Nat) (exponent : Int) : Nat × Nat :=
  match exponent with
  | .ofNat n => (numerator * Nat.pow 2 n, denominator)
  | .negSucc n => (numerator, denominator * Nat.pow 2 (n + 1))

/-- The pattern of the value nearest to a positive fraction. -/
def roundMagnitude (format : Format) (numerator denominator : Nat) : Nat :=
  let guess : Int := (Nat.log2 numerator : Int) - Nat.log2 denominator - format.fractionBits
  let (top, bottom) := scale numerator denominator (-guess)
  let fitted := if top / bottom < Nat.pow 2 format.fractionBits then guess - 1 else guess
  let exponent := max fitted format.minExponent
  let (top, bottom) := scale numerator denominator (-exponent)
  let bits := (exponent - format.minExponent).toNat * Nat.pow 2 format.fractionBits + roundDiv top bottom
  min bits format.infinity

/-- The pattern of the value nearest to a fraction, with the given sign; zero keeps its sign. -/
def round (format : Format) (negative : Bool) (numerator denominator : Nat) : Nat :=
  let magnitude := if numerator = 0 then 0 else format.roundMagnitude numerator denominator
  if negative then format.signWeight + magnitude else magnitude

end Format

/-- The single-precision format. -/
def binary32 : Format := ⟨23, 8⟩

/-- The double-precision format. -/
def binary64 : Format := ⟨52, 11⟩

/-- A single-precision number, as its bit pattern. -/
structure Binary32 where
  bits : UInt32
  deriving DecidableEq, Repr

/-- A double-precision number, as its bit pattern. -/
structure Binary64 where
  bits : UInt64
  deriving DecidableEq, Repr

namespace FloatClass

/-- Equality of the numbers denoted: the zeros are equal, and a NaN equals nothing. -/
def equal : FloatClass → FloatClass → Bool
  | .infinite first, .infinite second => first == second
  | .finite negative mantissa exponent, .finite negative' mantissa' exponent' =>
    mantissa == mantissa' && (mantissa == 0 || (negative == negative' && exponent == exponent'))
  | _, _ => false

end FloatClass

namespace Binary32

/-- What the pattern denotes. -/
def classify (x : Binary32) : FloatClass := binary32.classify x.bits.toNat

/-- Equality of the numbers denoted. -/
def equal (x y : Binary32) : Bool := x.classify.equal y.classify

end Binary32

namespace Binary64

/-- What the pattern denotes. -/
def classify (x : Binary64) : FloatClass := binary64.classify x.bits.toNat

/-- Equality of the numbers denoted. -/
def equal (x y : Binary64) : Bool := x.classify.equal y.classify

/-- The number nearest to a fraction, with the given sign. -/
def ofFraction (negative : Bool) (numerator denominator : Nat) : Binary64 :=
  ⟨UInt64.ofNat (binary64.round negative numerator denominator)⟩

/-- The number nearest to a natural number. -/
def ofNat (n : Nat) : Binary64 := ofFraction false n 1

/-- The infinity of the given sign. -/
def infinite (negative : Bool) : Binary64 :=
  ⟨UInt64.ofNat (binary64.infinity + if negative then binary64.signWeight else 0)⟩

/-- The quiet NaN without payload. -/
def nan : Binary64 := ⟨0x7FF8000000000000⟩

def one : Binary64 := ⟨0x3FF0000000000000⟩

/-- The number with the other sign. -/
def negate (x : Binary64) : Binary64 := ⟨x.bits ^^^ 0x8000000000000000⟩

def isNaN (x : Binary64) : Bool := x.classify == .nan

def isInfinite (x : Binary64) : Bool :=
  match x.classify with
  | .infinite _ => true
  | _ => false

def isZero (x : Binary64) : Bool :=
  match x.classify with
  | .finite _ 0 _ => true
  | _ => false

/-- The product, rounded once. -/
def mul (x y : Binary64) : Binary64 :=
  match x.classify, y.classify with
  | .nan, _ | _, .nan => nan
  | .infinite _, .finite _ 0 _ | .finite _ 0 _, .infinite _ => nan
  | .infinite negative, .infinite negative'
  | .infinite negative, .finite negative' _ _
  | .finite negative _ _, .infinite negative' => infinite (negative != negative')
  | .finite negative mantissa exponent, .finite negative' mantissa' exponent' =>
    let (numerator, denominator) := Format.scale (mantissa * mantissa') 1 (exponent + exponent')
    ofFraction (negative != negative') numerator denominator

/-- The quotient, rounded once. -/
def div (x y : Binary64) : Binary64 :=
  match x.classify, y.classify with
  | .nan, _ | _, .nan | .infinite _, .infinite _ | .finite _ 0 _, .finite _ 0 _ => nan
  | .infinite negative, .finite negative' _ _
  | .finite negative _ _, .finite negative' 0 _ => infinite (negative != negative')
  | .finite negative _ _, .infinite negative' => ofFraction (negative != negative') 0 1
  | .finite negative mantissa exponent, .finite negative' mantissa' exponent' =>
    let (numerator, denominator) := Format.scale mantissa mantissa' (exponent - exponent')
    ofFraction (negative != negative') numerator denominator

/-- A key that orders all numbers but the NaNs; the two zeros have one key. -/
def orderKey (x : Binary64) : Int :=
  if x.bits < 0x8000000000000000 then x.bits.toNat
  else -((x.bits ^^^ 0x8000000000000000).toNat : Int)

/-- The larger number; a NaN loses against a number. -/
def max (x y : Binary64) : Binary64 :=
  if x.isNaN then y else if y.isNaN then x
  else if x.orderKey < y.orderKey then y else x

/-- The smaller number; a NaN loses against a number. -/
def min (x y : Binary64) : Binary64 :=
  if x.isNaN then y else if y.isNaN then x
  else if y.orderKey < x.orderKey then y else x

/-- The power with a natural exponent, by repeated squaring with a rounding after every
multiplication; `steps` bounds the number of squarings. -/
def powFrom (steps : Nat) (power base : Binary64) (exponent : Nat) : Binary64 :=
  match steps with
  | 0 => power
  | steps + 1 =>
    let power := if exponent % 2 = 1 then power.mul base else power
    if exponent / 2 = 0 then power
    else powFrom steps power (base.mul base) (exponent / 2)

/-- The power with a natural exponent, rounded after every multiplication. -/
def pow (base : Binary64) (exponent : Nat) : Binary64 :=
  powFrom (Nat.log2 exponent + 1) one base exponent

/-- The integer part as a 64-bit word: negative numbers and NaN give zero, and what is too
large gives the largest word. -/
def toUInt64 (x : Binary64) : UInt64 :=
  match x.classify with
  | .nan | .infinite true | .finite true _ _ => 0
  | .infinite false => 0xFFFFFFFFFFFFFFFF
  | .finite false mantissa exponent =>
    let (numerator, denominator) := Format.scale mantissa 1 exponent
    UInt64.ofNat (Nat.min (numerator / denominator) 0xFFFFFFFFFFFFFFFF)

end Binary64

end Transact
