/-
# Reading keys back

The bytes of a key do not say what they hold, so a key is read by a `Schema`.
Reading takes exactly the bytes that writing an item of the schema produces.
-/

import Transact.OrderedKey.Item

namespace Transact.OrderedKey

mutual

/-- The kind of item that is expected. -/
inductive Schema where
  | bool
  | uint8
  | uint16
  | uint32
  | uint64
  | int64
  | text
  | bytes
  | unit
  | unitStruct
  | newtypeStruct (content : Schema)
  | fields (grouping : Grouping) (contents : List Schema)
  | choice (variants : List Variant)
  | unsupported (shape : UnsupportedShape)

/-- What one variant of a choice holds. -/
inductive Variant where
  | unit
  | newtype (content : Schema)
  | tuple (contents : List Schema)
  | struct

end

mutual

/-- Read an item of a schema from the front of a byte string. -/
def Schema.read : Schema → ByteReader Item
  | .bool => return .bool (← readBool)
  | .uint8 => return .uint8 (← readByte)
  | .uint16 => return .uint16 (UInt16.ofNat (← readNat 2))
  | .uint32 => return .uint32 (UInt32.ofNat (← readNat 4))
  | .uint64 => return .uint64 (UInt64.ofNat (← readNat 8))
  | .int64 => return .int64 (← readInt64)
  | .text => return .text (← readText)
  | .bytes => return .bytes (← readBytes)
  | .unit => return .unit
  | .unitStruct => return .unitStruct
  | .newtypeStruct content => return .newtypeStruct (← content.read)
  | .fields grouping contents => return .fields grouping (← readFields contents)
  | .choice variants => do
    let byte ← readByte
    readVariant byte variants byte.toNat
  | .unsupported shape => ByteReader.fail (.unsupported shape)

/-- Read a row of fields. -/
def readFields : List Schema → ByteReader (List Item)
  | [] => return []
  | content :: contents => do
    let item ← content.read
    let items ← readFields contents
    return item :: items

/-- Read what the variant of number `index` holds, `skip` variants from here. -/
def readVariant (index : UInt8) : List Variant → (skip : Nat) → ByteReader Item
  | [], _ => ByteReader.fail (.unknownVariant index.toNat)
  | variant :: _, 0 => variant.read index
  | _ :: variants, skip + 1 => readVariant index variants skip

/-- Read what a variant holds. -/
def Variant.read (index : UInt8) : Variant → ByteReader Item
  | .unit => return .unitVariant index.toUInt32
  | .newtype content => return .newtypeVariant index.toUInt32 (← content.read)
  | .tuple contents => return .tupleVariant index.toUInt32 (← readFields contents)
  | .struct => ByteReader.fail (.unsupported .structVariant)

end

/-- Read a whole key. -/
def Schema.decode (schema : Schema) (bytes : Bytes) : Except InternalFault Item :=
  readWhole schema.read bytes

end Transact.OrderedKey
