/-
# Hexadecimal

Numbers in a fixed count of hexadecimal digits, and byte strings as two digits
per byte.
-/

import Transact.Json.Document

namespace Transact.Hex

/-- The lowest `width` hexadecimal digits of a number. -/
def digits : (width : Nat) → Nat → List Char
  | 0, _ => []
  | width + 1, n => digits width (n / 16) ++ [Nat.digitChar (n % 16)]

/-- The number that hexadecimal digits spell. -/
def number? (text : List Char) : Option Nat :=
  text.foldlM (fun n c => (Token.hexDigit? c).map (n * 16 + ·)) 0

/-- The bytes of a byte string, two digits each. -/
def ofBytes (bytes : Bytes) : List Char := bytes.flatMap fun byte => digits 2 byte.toNat

/-- The byte string that digits spell, two for each byte. -/
def bytes? : List Char → Option Bytes
  | [] => some []
  | high :: low :: rest => do
    let byte ← number? [high, low]
    let bytes ← bytes? rest
    pure (UInt8.ofNat byte :: bytes)
  | [_] => none

end Transact.Hex
