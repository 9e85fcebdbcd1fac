/-
# Fields of a stored record

Records are stored one field after the other, without names and without their
types. Numbers have a fixed width and begin with the least significant byte.
Texts, byte strings and lists begin with their length, variants with their
number. A reader stops at the end of what it reads; bytes behind it are not its
concern.
-/

import Transact.ByteReader

namespace Transact.Record

/-- The number of a variant. -/
def variantField (index : Nat) : Bytes := Bytes.littleEndian 4 index

/-- The length of what follows. -/
def lengthField (length : Nat) : Bytes := Bytes.littleEndian 8 length

/-- A byte string with its length in front. -/
def bytesField (bytes : Bytes) : Bytes := lengthField bytes.length ++ bytes

/-- A text as the byte string that spells it. -/
def textField (text : String) : Bytes := bytesField (Utf8.encode text)

/-- A list with its length in front. -/
def listField {α : Type} (field : α → Bytes) (items : List α) : Bytes :=
  lengthField items.length ++ items.flatMap field

/-- A flag in front of what may be missing. -/
def optionField {α : Type} (field : α → Bytes) : Option α → Bytes
  | none => [0]
  | some x => 1 :: field x

/-- The next `width` bytes of a record. -/
def take (width : Nat) : ByteReader Bytes :=
  ByteReader.take width fun _ => .fieldCutOff

/-- The next byte of a record. -/
def readByte : ByteReader UInt8
  | byte :: rest => .ok (byte, rest)
  | [] => .error .fieldCutOff

/-- An unsigned number of `width` bytes. -/
def readNat (width : Nat) : ByteReader Nat := do
  return Bytes.ofLittleEndian (← take width)

/-- A truth value is one byte. -/
def readFlag : ByteReader Bool
  | [] => .error .fieldCutOff
  | byte :: rest =>
    if byte = 0 then .ok (false, rest)
    else if byte = 1 then .ok (true, rest)
    else .error (.invalidFlag byte)

/-- A byte string; a shortage inside it is named differently from one in a field. -/
def readBytes : ByteReader Bytes := do
  let width ← readNat 8
  ByteReader.take width fun _ => .bufferCutOff

/-- A text. -/
def readText : ByteReader String := do
  let bytes ← readBytes
  match Utf8.decode bytes with
  | .ok text => return text
  | .error fault => ByteReader.fail (.invalidString fault)

/-- So many items, one after the other. -/
def readMany {α : Type} (reader : ByteReader α) : Nat → ByteReader (List α)
  | 0 => return []
  | count + 1 => do
    let item ← reader
    let items ← readMany reader count
    return item :: items

/-- A list. -/
def readList {α : Type} (reader : ByteReader α) : ByteReader (List α) := do
  let count ← readNat 8
  readMany reader count

/-- What may be missing. -/
def readOption {α : Type} (reader : ByteReader α) : ByteReader (Option α)
  | [] => .error .fieldCutOff
  | tag :: rest =>
    if tag = 0 then .ok (none, rest)
    else if tag = 1 then (reader rest).map fun (x, rest) => (some x, rest)
    else .error (.invalidTag tag)

/-- The number of a variant, and what it stands for among so many choices. -/
def readVariant {α : Type} (choices : List α) : ByteReader α := do
  let index ← readNat 4
  match choices[index]? with
  | some choice => return choice
  | none => ByteReader.fail (.variantOutOfRange index choices.length)

/-- Read a record from the front of a byte string; bytes behind it are ignored. -/
def readFront {α : Type} (reader : ByteReader α) (bytes : Bytes) : Except InternalFault α :=
  (reader bytes).map Prod.fst

end Transact.Record
