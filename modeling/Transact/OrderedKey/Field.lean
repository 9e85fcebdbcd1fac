/-
# Fields of an ordered key

Keys are written so that their bytes sort the way their values do. Numbers are
written with the most significant byte first, and signed ones with the sign bit
flipped. A byte string has each zero byte followed by a byte of ones and ends
in two zeros, so a string sorts before its extensions whatever comes behind.
-/

import Transact.ByteReader

namespace Transact.OrderedKey

/-- A byte string with its zero bytes marked. -/
def escape (bytes : Bytes) : Bytes :=
  bytes.flatMap fun byte => if byte = 0 then [0, 0xff] else [byte]

/-- What ends a byte string. -/
def terminator : Bytes := [0, 0]

/-- A byte string as a field. -/
def bytesField (bytes : Bytes) : Bytes := escape bytes ++ terminator

/-- A signed number as a field: counted from the least one, it sorts as an unsigned number. -/
def int64Field (value : Int64) : Bytes :=
  Bytes.bigEndian 8 (value.toInt + 0x8000000000000000).toNat

/-- The next `width` bytes of a key. -/
def take (width : Nat) : ByteReader Bytes :=
  ByteReader.take width fun found => .insufficientBytes width found

/-- The next byte of a key. -/
def readByte : ByteReader UInt8
  | byte :: rest => .ok (byte, rest)
  | [] => .error (.insufficientBytes 1 0)

/-- An unsigned number of `width` bytes. -/
def readNat (width : Nat) : ByteReader Nat := do
  return Bytes.ofBigEndian (← take width)

/-- A signed number. -/
def readInt64 : ByteReader Int64 := do
  return Int64.ofInt (Int.ofNat (← readNat 8) - 0x8000000000000000)

/-- A truth value is one byte. -/
def readBool : ByteReader Bool
  | [] => .error (.insufficientBytes 1 0)
  | byte :: rest =>
    if byte = 0 then .ok (false, rest)
    else if byte = 1 then .ok (true, rest)
    else .error (.invalidBoolean byte)

/-- A byte string up to its end, its marks taken out. -/
def readBytes : ByteReader Bytes
  | [] => .error .unterminatedBytes
  | byte :: rest =>
    if byte ≠ 0 then (readBytes rest).map fun (bytes, behind) => (byte :: bytes, behind)
    else
      match rest with
      | [] => .error (.invalidEscape none)
      | next :: rest =>
        if next = 0 then .ok ([], rest)
        else if next = 0xff then (readBytes rest).map fun (bytes, behind) => (0 :: bytes, behind)
        else .error (.invalidEscape (some next))

/-- A text is a byte string that spells it in UTF-8. -/
def readText : ByteReader String := do
  let bytes ← readBytes
  match Utf8.decode bytes with
  | .ok text => return text
  | .error fault => ByteReader.fail (.invalidText fault)

/-- Read a whole key: nothing may be left over. -/
def readWhole {α : Type} (reader : ByteReader α) (bytes : Bytes) : Except InternalFault α :=
  match reader bytes with
  | .ok (value, []) => .ok value
  | .ok (_, rest) => .error (.trailingBytes rest)
  | .error fault => .error fault

end Transact.OrderedKey
