/-
# Rows are read back

What is stored of a value is all of it: the type of a null, the nulls in an
array, the bits of a float, the scale of a decimal. So a stored row is read back
as the very row that was written, and the stored form of a list of values
begins no other one's.

Decimals, dates and moments are stored as texts, and such a text is read as the
value that it spells. There is one exception, the zeros with a sign, which are
read without it. `Spelled` says of a value that it has none of them.
-/

import Transact.Proofs.Calendar.Timestamp
import Transact.Proofs.Numeric.Decimal
import Transact.Proofs.Record.Field
import Transact.Record.Row

namespace Transact.Record

/-! ## What is asked of values -/

/-- A decimal, date or moment is read from the text that spells it; other payloads are not
spelled. -/
def PayloadSpelled : (type : ElementType) → type.Payload String → Prop
  | .numeric, x => Decimal.ofText? x.toText = some x
  | .date, x => Calendar.readDate x.toText = .ok x
  | .timestamp, x => Calendar.readTimestamp x.toStored = .ok x
  | _, _ => True

/-- A scalar that is spelled is read from its text. -/
def ScalarSpelled (scalar : WireScalar) : Prop := PayloadSpelled scalar.type scalar.payload

/-- Whatever is spelled in a value is read from its text. -/
def Spelled : Value → Prop
  | .null _ => True
  | .scalar scalar => ScalarSpelled scalar
  | .array _ items => ∀ scalar, some scalar ∈ items → ScalarSpelled scalar

/-- A row that can be stored: what is spelled in it is read from its text, and its stored form has a
length that can be written. -/
structure Storable (row : Row) : Prop where
  spelled : ∀ value ∈ row, Spelled value
  fits : (rowField row).length < UInt64.size

/-! ## Types and payloads -/

theorem readElement_append (element : ElementType) (rest : Bytes) :
    readElement (elementField element ++ rest) = .ok (element, rest) := by
  have hplace : ElementType.all[elementIndex element]? = some element := by
    cases element <;> rfl
  have hindex : elementIndex element < UInt32.size := by
    cases element <;> decide
  exact readVariant_append hindex hplace rest

theorem readType_append (type : DataType) (rest : Bytes) :
    readType (typeField type ++ rest) = .ok (type, rest) := by
  cases type with
  | scalar element =>
      rw [readType, ByteReader.bind_eq_ok_iff, typeField, List.append_assoc]
      refine ⟨.scalar, _, readVariant_append (by decide) rfl _, ?_⟩
      rw [ByteReader.bind_eq_ok_iff]
      exact ⟨element, rest, readElement_append element rest, rfl⟩
  | array element =>
      rw [readType, ByteReader.bind_eq_ok_iff, typeField, List.append_assoc]
      refine ⟨.array, _, readVariant_append (by decide) rfl _, ?_⟩
      rw [ByteReader.bind_eq_ok_iff]
      exact ⟨element, rest, readElement_append element rest, rfl⟩

/-- What is stored as a text is read as what its text is read as. -/
theorem readsAs_spelled {α : Type} {toText : α → String}
    {ofText : String → Except InternalFault α} {x y : α} (h : ofText (toText x) = .ok y) :
    ReadsAs (fun x => textField (toText x)) (readSpelled ofText) x y := by
  intro hfits rest
  rw [readSpelled, ByteReader.bind_eq_ok_iff]
  refine ⟨toText x, rest, readsBack_text _ hfits rest, ?_⟩
  rw [h]
  rfl

/-- A payload as it is read: zeros have lost their signs. -/
def payloadReadBack : (type : ElementType) → type.Payload String → type.Payload String
  | .numeric, x => Decimal.readBack x
  | _, x => x

theorem readsAs_payload (type : ElementType) (payload : type.Payload String) :
    ReadsAs (payloadField type) (readPayload type) payload (payloadReadBack type payload) := by
  cases type with
  | bool => exact fun _ rest => readFlag_append payload rest
  | string => exact readsBack_text payload
  | json => exact readsBack_text payload
  | bytes => exact readsBack_bytes payload
  | int64 =>
      intro _ rest
      rw [readPayload, ByteReader.bind_eq_ok_iff]
      refine ⟨_, rest, readNat_littleEndian_append payload.toUInt64.toNat_lt rest, ?_⟩
      rw [UInt64.ofNat_toNat, Int64.toInt64_toUInt64]
      rfl
  | float32 =>
      intro _ rest
      rw [readPayload, ByteReader.bind_eq_ok_iff]
      refine ⟨_, rest, readNat_littleEndian_append payload.bits.toNat_lt rest, ?_⟩
      rw [UInt32.ofNat_toNat]
      rfl
  | float64 =>
      intro _ rest
      rw [readPayload, ByteReader.bind_eq_ok_iff]
      refine ⟨_, rest, readNat_littleEndian_append payload.bits.toNat_lt rest, ?_⟩
      rw [UInt64.ofNat_toNat]
      rfl
  | numeric =>
      apply readsAs_spelled
      rw [decimalOf, Decimal.ofText?_toText]
      rfl
  | date =>
      apply readsAs_spelled
      rw [calendarOf, Calendar.readDate_toText]
      rfl
  | timestamp =>
      apply readsAs_spelled
      rw [calendarOf, Calendar.readTimestamp_toStored]
      rfl

/-! ## Scalars, values and rows -/

/-- A scalar as it is read. -/
def scalarReadBack (scalar : WireScalar) : WireScalar :=
  ⟨scalar.type, payloadReadBack scalar.type scalar.payload⟩

theorem readsAs_scalar (scalar : WireScalar) :
    ReadsAs scalarField readScalar scalar (scalarReadBack scalar) := by
  intro hfits rest
  rw [scalarField, List.length_append] at hfits
  rw [readScalar, ByteReader.bind_eq_ok_iff, scalarField, List.append_assoc]
  refine ⟨scalar.type, _, readElement_append _ _, ?_⟩
  rw [ByteReader.bind_eq_ok_iff]
  exact ⟨_, rest, readsAs_payload scalar.type scalar.payload (by omega) rest, rfl⟩

theorem length_optionField_pos {α : Type} (field : α → Bytes) (item : Option α) :
    0 < (optionField field item).length := by
  cases item <;> simp [optionField]

theorem length_valueField_pos (value : Value) : 0 < (valueField value).length := by
  cases value <;> simp only [valueField, List.length_append, length_variantField] <;> omega

/-- A value as it is read. -/
def valueReadBack : Value → Value
  | .null type => .null type
  | .scalar scalar => .scalar (scalarReadBack scalar)
  | .array element items => .array element (items.map (Option.map scalarReadBack))

theorem readsAs_value (value : Value) :
    ReadsAs valueField readValue value (valueReadBack value) := by
  intro hfits rest
  cases value with
  | null type =>
      rw [readValue, ByteReader.bind_eq_ok_iff, valueField, List.append_assoc]
      refine ⟨.null, _, readVariant_append (by decide) rfl _, ?_⟩
      simp only [ByteReader.bind_eq_ok_iff]
      exact ⟨type, rest, readType_append type rest, rfl⟩
  | scalar scalar =>
      rw [valueField, List.length_append] at hfits
      rw [readValue, ByteReader.bind_eq_ok_iff, valueField, List.append_assoc]
      refine ⟨.scalar, _, readVariant_append (by decide) rfl _, ?_⟩
      simp only [ByteReader.bind_eq_ok_iff]
      exact ⟨scalarReadBack scalar, rest, readsAs_scalar scalar (by omega) rest, rfl⟩
  | array element items =>
      have hitems : ReadsAs (listField (optionField scalarField))
          (readList (readOption readScalar)) items (items.map (Option.map scalarReadBack)) := by
        apply readsAs_list (fun item _ => length_optionField_pos _ item)
        intro item _
        exact readsAs_option fun scalar _ => readsAs_scalar scalar
      rw [valueField, List.length_append, List.length_append] at hfits
      rw [readValue, ByteReader.bind_eq_ok_iff, valueField, List.append_assoc, List.append_assoc]
      refine ⟨.array, _, readVariant_append (by decide) rfl _, ?_⟩
      simp only [ByteReader.bind_eq_ok_iff]
      exact ⟨element, _, readElement_append element _, _, rest, hitems (by omega) rest, rfl⟩

/-- A row as it is read. -/
def rowReadBack (row : Row) : Row := row.map valueReadBack

/-- The stored form of a row has a length that can be written. -/
def Fits (row : Row) : Prop := (rowField row).length < UInt64.size

instance (row : Row) : Decidable (Fits row) :=
  inferInstanceAs (Decidable ((rowField row).length < UInt64.size))

/-- A list of values is read, and what is behind it is left. -/
theorem readsAs_row (row : Row) :
    ReadsAs rowField (readList readValue) row (rowReadBack row) :=
  readsAs_list (fun value _ => length_valueField_pos value) fun value _ => readsAs_value value

/-- A row that is stored is read as it was, but for the signs of decimal zeros. -/
theorem decodeRow_rowField_of_fits {row : Row} (h : Fits row) :
    decodeRow (rowField row) = .ok (rowReadBack row) :=
  (readsAs_row row).readFront h

/-! ## Values that are read from their texts -/

theorem scalarReadBack_eq {scalar : WireScalar} (h : ScalarSpelled scalar) :
    scalarReadBack scalar = scalar := by
  obtain ⟨type, payload⟩ := scalar
  cases type with
  | numeric =>
      have hread := Decimal.ofText?_toText payload
      rw [show Decimal.ofText? payload.toText = some payload from h] at hread
      exact congrArg (Scalar.mk ElementType.numeric) (Option.some.inj hread).symm
  | _ => rfl

theorem valueReadBack_eq {value : Value} (h : Spelled value) : valueReadBack value = value := by
  cases value with
  | null type => rfl
  | scalar scalar => exact congrArg Value.scalar (scalarReadBack_eq h)
  | array element items =>
      have hitem : ∀ item ∈ items, item.map scalarReadBack = item := by
        intro item hitem
        cases item with
        | none => rfl
        | some scalar => exact congrArg some (scalarReadBack_eq (h scalar hitem))
      exact congrArg (Value.array element) ((List.map_congr_left hitem).trans (List.map_id _))

theorem rowReadBack_eq {row : Row} (h : ∀ value ∈ row, Spelled value) : rowReadBack row = row :=
  (List.map_congr_left fun value hvalue => valueReadBack_eq (h value hvalue)).trans (List.map_id _)

/-- A list of values is read back, and what is behind it is left. -/
theorem readsBack_row {row : Row} (h : ∀ value ∈ row, Spelled value) :
    ReadsBack rowField (readList readValue) row := by
  have hread := readsAs_row row
  rwa [rowReadBack_eq h] at hread

/-- A row that is stored is read back as it was. -/
theorem decodeRow_rowField {row : Row} (h : Storable row) : decodeRow (rowField row) = .ok row :=
  ReadsAs.readFront (readsBack_row h.spelled) h.fits

/-- Rows are stored alike only if they are one row. -/
theorem rowField_inj {row other : Row} (h : Storable row) (hother : Storable other) :
    rowField row = rowField other ↔ row = other := by
  refine ⟨fun heq => ?_, congrArg rowField⟩
  have hread := decodeRow_rowField h
  rw [heq, decodeRow_rowField hother] at hread
  exact (Except.ok.inj hread).symm

end Transact.Record
