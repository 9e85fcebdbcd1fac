/-
# What a key is made of

An `Item` is a value that may be part of a key: a number, a text, a row of
fields, one of several variants. How a row is declared does not show in the
bytes; its fields are written one after the other. Kinds of values for which no
ordered form exists are items too, and are refused when the key is written.
-/

import Transact.OrderedKey.Field

namespace Transact.OrderedKey

/-- How a row of fields is declared. -/
inductive Grouping where
  | sequence
  | tuple
  | tupleStruct
  | struct
  deriving DecidableEq, Repr

/-- A value that may be part of a key. -/
inductive Item where
  | bool (value : Bool)
  | uint8 (value : UInt8)
  | uint16 (value : UInt16)
  | uint32 (value : UInt32)
  | uint64 (value : UInt64)
  | int64 (value : Int64)
  | text (value : String)
  | bytes (value : Bytes)
  | unit
  | unitStruct
  | newtypeStruct (item : Item)
  | fields (grouping : Grouping) (items : List Item)
  | unitVariant (index : UInt32)
  | newtypeVariant (index : UInt32) (item : Item)
  | tupleVariant (index : UInt32) (items : List Item)
  | unsupported (shape : UnsupportedShape)

/-- The byte that tells variants apart. -/
def variantByte (index : UInt32) : Except InternalFault Bytes :=
  if index < 256 then .ok [index.toUInt8] else .error (.variantTooLarge index.toNat)

mutual

/-- The bytes of an item; the first part that has no ordered form is refused. -/
def Item.encode : Item → Except InternalFault Bytes
  | .bool value => .ok [if value then 1 else 0]
  | .uint8 value => .ok [value]
  | .uint16 value => .ok (Bytes.bigEndian 2 value.toNat)
  | .uint32 value => .ok (Bytes.bigEndian 4 value.toNat)
  | .uint64 value => .ok (Bytes.bigEndian 8 value.toNat)
  | .int64 value => .ok (int64Field value)
  | .text value => .ok (bytesField (Utf8.encode value))
  | .bytes value => .ok (bytesField value)
  | .unit | .unitStruct => .ok []
  | .newtypeStruct item => item.encode
  | .fields _ items => encodeFields items
  | .unitVariant index => variantByte index
  | .newtypeVariant index item => do
    let front ← variantByte index
    let rest ← item.encode
    return front ++ rest
  | .tupleVariant index items => do
    let front ← variantByte index
    let rest ← encodeFields items
    return front ++ rest
  | .unsupported shape => .error (.unsupported shape)

/-- The bytes of a row of fields. -/
def encodeFields : List Item → Except InternalFault Bytes
  | [] => .ok []
  | item :: items => do
    let front ← item.encode
    let rest ← encodeFields items
    return front ++ rest

end

end Transact.OrderedKey
