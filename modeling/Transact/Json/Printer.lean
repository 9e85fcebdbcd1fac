/-
# The canonical text of JSON values

No blanks, members in key order, and the shortest digits that read back. A
double always shows that it is one, by a point or an exponent. Strings escape
what a string may not hold as it is, and nothing else.
-/

import Transact.Json.Basic
import Transact.Numeric.Shortest

namespace Transact.Json

/-- Two hexadecimal digits. -/
def hexByte (n : Nat) : List Char :=
  [Nat.digitChar (n / 16 % 16), Nat.digitChar (n % 16)]

/-- One character inside a string. -/
def escape (c : Char) : List Char :=
  if c = '"' then ['\\', '"']
  else if c = '\\' then ['\\', '\\']
  else if c = '\x08' then ['\\', 'b']
  else if c = '\t' then ['\\', 't']
  else if c = '\n' then ['\\', 'n']
  else if c = '\x0c' then ['\\', 'f']
  else if c = '\r' then ['\\', 'r']
  else if c.toNat < 0x20 then ['\\', 'u', '0', '0'] ++ hexByte c.toNat
  else [c]

/-- A string between quotes. -/
def stringText (text : String) : List Char :=
  '"' :: text.toList.flatMap escape ++ ['"']

/-- Digits as the text of a double: positional from `10 ^ -5` up to `10 ^ 16`, with an
exponent outside. -/
def decimalText (decimal : Shortest.Digits) : List Char :=
  let count := decimal.digits.length
  if -5 < decimal.point ∧ decimal.point ≤ 16 then
    let whole := decimal.positional.toList
    if (count : Int) ≤ decimal.point then whole ++ ['.', '0'] else whole
  else
    let exponent := decimal.point - 1
    let sign := if 0 ≤ exponent then ['+'] else ['-']
    let mantissa :=
      match decimal.digits with
      | [] => []
      | [digit] => [digit]
      | digit :: rest => digit :: '.' :: rest
    mantissa ++ 'e' :: sign ++ Nat.toDigits 10 exponent.natAbs

/-- The text of a double. What is not finite has no text of its own and is written as null. -/
def binary64Text (x : Binary64) : List Char :=
  match x.classify with
  | .nan | .infinite _ => ['n', 'u', 'l', 'l']
  | .finite negative mantissa exponent =>
    let magnitude :=
      if mantissa = 0 then ['0', '.', '0']
      else decimalText (Shortest.digits binary64 .toEven mantissa exponent)
    if negative then '-' :: magnitude else magnitude

/-- The text of a number. -/
def numberText : JsonNumber → List Char
  | .integer value =>
    if value < 0 then '-' :: Nat.toDigits 10 value.natAbs else Nat.toDigits 10 value.natAbs
  | .float value => binary64Text value

mutual

/-- The characters of a value's text. -/
def chars : Json → List Char
  | .null => ['n', 'u', 'l', 'l']
  | .bool true => ['t', 'r', 'u', 'e']
  | .bool false => ['f', 'a', 'l', 's', 'e']
  | .number value => numberText value
  | .string text => stringText text
  | .array items => '[' :: itemChars items ++ [']']
  | .object members => '{' :: memberChars members ++ ['}']

/-- Items with commas between them. -/
def itemChars : List Json → List Char
  | [] => []
  | [item] => chars item
  | item :: rest => chars item ++ ',' :: itemChars rest

/-- Members with commas between them. -/
def memberChars : List (String × Json) → List Char
  | [] => []
  | [(key, value)] => stringText key ++ ':' :: chars value
  | (key, value) :: rest => stringText key ++ ':' :: chars value ++ ',' :: memberChars rest

end

/-- The text of a value. -/
def render (value : Json) : String := String.ofList value.chars

end Transact.Json
