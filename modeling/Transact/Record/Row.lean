/-
# Rows as records

A row is stored as the list of its values, and a value as its variant followed
by what it holds. Decimals, dates and moments are stored as the texts that spell
them. Everything is kept: the scale of a decimal, the bits of a float, the type
of a null.
-/

import Transact.Record.Field

namespace Transact

/-- The values of a row, in column order. -/
abbrev Row := List Value

namespace Record

/-- The place of an element type in the stored format. -/
def elementIndex (element : ElementType) : Nat := ElementType.all.idxOf element

/-- An element type as it is stored. -/
def elementField (element : ElementType) : Bytes := variantField (elementIndex element)

/-- A data type as it is stored. -/
def typeField : DataType → Bytes
  | .scalar element => variantField 0 ++ elementField element
  | .array element => variantField 1 ++ elementField element

/-- The payload of a scalar as it is stored. -/
def payloadField : (type : ElementType) → type.Payload String → Bytes
  | .bool, x => [if x then 1 else 0]
  | .string, x | .json, x => textField x
  | .bytes, x => bytesField x
  | .int64, x => Bytes.littleEndian 8 x.toUInt64.toNat
  | .float32, x => Bytes.littleEndian 4 x.bits.toNat
  | .float64, x => Bytes.littleEndian 8 x.bits.toNat
  | .numeric, x => textField x.toText
  | .date, x => textField x.toText
  | .timestamp, x => textField x.toStored

/-- A scalar as it is stored. -/
def scalarField (scalar : WireScalar) : Bytes :=
  elementField scalar.type ++ payloadField scalar.type scalar.payload

/-- A value as it is stored. -/
def valueField : Value → Bytes
  | .null type => variantField 0 ++ typeField type
  | .scalar scalar => variantField 1 ++ scalarField scalar
  | .array element items =>
    variantField 2 ++ elementField element ++ listField (optionField scalarField) items

/-- A row as it is stored. -/
def rowField (row : Row) : Bytes := listField valueField row

/-- An element type read back. -/
def readElement : ByteReader ElementType := readVariant ElementType.all

/-- A data type read back. -/
def readType : ByteReader DataType := do
  let form ← readVariant [DataType.scalar, DataType.array]
  return form (← readElement)

/-- A value that is stored as a text. -/
def readSpelled {α : Type} (ofText : String → Except InternalFault α) : ByteReader α := do
  let text ← readText
  match ofText text with
  | .ok x => return x
  | .error fault => ByteReader.fail fault

/-- A decimal from the text that spells it. -/
def decimalOf (text : String) : Except InternalFault Decimal :=
  match Decimal.ofText? text with
  | some x => .ok x
  | none => .error (.invalidDecimal text)

/-- A date or moment from the text that spells it. -/
def calendarOf {α : Type} (read : String → Except Calendar.Fault α) (text : String) :
    Except InternalFault α :=
  match read text with
  | .ok x => .ok x
  | .error fault => .error (.invalidCalendar fault)

/-- The payload of a scalar read back. -/
def readPayload : (type : ElementType) → ByteReader (type.Payload String)
  | .bool => readFlag
  | .string | .json => readText
  | .bytes => readBytes
  | .int64 => return (UInt64.ofNat (← readNat 8)).toInt64
  | .float32 => return ⟨UInt32.ofNat (← readNat 4)⟩
  | .float64 => return ⟨UInt64.ofNat (← readNat 8)⟩
  | .numeric => readSpelled decimalOf
  | .date => readSpelled (calendarOf Calendar.readDate)
  | .timestamp => readSpelled (calendarOf Calendar.readTimestamp)

/-- A scalar read back. -/
def readScalar : ByteReader WireScalar := do
  let type ← readElement
  return ⟨type, ← readPayload type⟩

/-- What a value begins with. -/
inductive ValueForm where
  | null
  | scalar
  | array
  deriving DecidableEq, Repr

/-- A value read back. -/
def readValue : ByteReader Value := do
  match ← readVariant [ValueForm.null, .scalar, .array] with
  | .null => return .null (← readType)
  | .scalar => return .scalar (← readScalar)
  | .array =>
    let element ← readElement
    return .array element (← readList (readOption readScalar))

/-- A row from its stored form. -/
def decodeRow (stored : Bytes) : Except InternalFault Row :=
  readFront (readList readValue) stored

end Record

end Transact
