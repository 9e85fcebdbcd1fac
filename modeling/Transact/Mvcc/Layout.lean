/-
# How the versioned store is laid out

The three families of keys differ in their first byte. A version key is the
escaped key followed by the version number, so the versions of one key are
neighbours and ascend. A prefix of keys is laid out without what ends a byte
string, and so it begins the layout of every key that it begins.

The counter holds its number, a marker holds nothing, and a version holds the
value that was written, or that there is none; each is a stored record.
-/

import Transact.Mvcc.Key
import Transact.OrderedKey.Field
import Transact.Record.Field

namespace Transact.Mvcc

open OrderedKey

/-- A number in a key. -/
def versionField (version : UInt64) : Bytes := Bytes.bigEndian 8 version.toNat

namespace Key

/-- The bytes of a key. -/
def encode : Key → Bytes
  | .nextVersion => [0]
  | .active number => 1 :: versionField number
  | .version key number => 2 :: (bytesField key ++ versionField number)

/-- A number in a key, read back. -/
def readVersion : ByteReader UInt64 := do
  return UInt64.ofNat (← readNat 8)

/-- What follows the first byte of a key. -/
def readFamily (family : UInt8) : ByteReader Key :=
  match family with
  | 0 => return .nextVersion
  | 1 => return .active (← readVersion)
  | 2 => do
    let key ← readBytes
    let number ← readVersion
    return .version key number
  | _ => ByteReader.fail (.variantOutOfRange family.toNat 3)

/-- A key from all of its bytes. -/
def decode (bytes : Bytes) : Except InternalFault Key :=
  readWhole (do readFamily (← readByte)) bytes

end Key

/-- What a range of keys may begin with. -/
inductive KeyPrefix where
  | nextVersion
  | active
  | version (start : Bytes)
  deriving DecidableEq, Repr

namespace KeyPrefix

/-- The bytes of a prefix, as if it were a key that ends there. -/
def encode : KeyPrefix → Bytes
  | .nextVersion => [0]
  | .active => [1]
  | .version start => 2 :: bytesField start

end KeyPrefix

/-- What the layouts of all versions of all keys that begin with `start` begin with. -/
def versionPrefix (start : Bytes) : Bytes :=
  (KeyPrefix.version start).encode.dropLast.dropLast

/-! The stored values -/

/-- The counter as it is stored. -/
def encodeCounter (version : UInt64) : Bytes := Bytes.littleEndian 8 version.toNat

/-- The counter read back. -/
def decodeCounter (stored : Bytes) : Except InternalFault UInt64 :=
  (Record.readFront (Record.readNat 8) stored).map UInt64.ofNat

/-- A version as it is stored: a written value, or none for a deletion. -/
def encodeVersion : Option Bytes → Bytes :=
  Record.optionField Record.bytesField

/-- A written value; a shortage is that of a field wherever it shows. -/
def readContent : ByteReader Bytes := do
  let width ← Record.readNat 8
  Record.take width

/-- A version read back. -/
def decodeVersion (stored : Bytes) : Except InternalFault (Option Bytes) :=
  Record.readFront (Record.readOption readContent) stored

end Transact.Mvcc
