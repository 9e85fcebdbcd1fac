/-
# Items of a schema

A schema says what items a reader expects; here the same is said of items. A row
has one item for each part of its schema, and a variant holds what the schema
lists at its number. Sequences of any length and the kinds without an ordered
form are items of no schema.

Writing an item of a schema fails only for a variant whose number does not fit
one byte, so the items whose numbers fit are written.
-/

import Transact.Call
import Transact.OrderedKey.Schema

namespace Transact.OrderedKey

/-! ## Which items a schema has -/

mutual

/-- An item is of the kind that a schema describes. -/
inductive Item.HasSchema : Item → Schema → Prop where
  | bool (value : Bool) : Item.HasSchema (.bool value) .bool
  | uint8 (value : UInt8) : Item.HasSchema (.uint8 value) .uint8
  | uint16 (value : UInt16) : Item.HasSchema (.uint16 value) .uint16
  | uint32 (value : UInt32) : Item.HasSchema (.uint32 value) .uint32
  | uint64 (value : UInt64) : Item.HasSchema (.uint64 value) .uint64
  | int64 (value : Int64) : Item.HasSchema (.int64 value) .int64
  | text (value : String) : Item.HasSchema (.text value) .text
  | bytes (value : Bytes) : Item.HasSchema (.bytes value) .bytes
  | unit : Item.HasSchema .unit .unit
  | unitStruct : Item.HasSchema .unitStruct .unitStruct
  | newtypeStruct {item : Item} {content : Schema} (hitem : Item.HasSchema item content) :
      Item.HasSchema (.newtypeStruct item) (.newtypeStruct content)
  | fields {grouping : Grouping} {items : List Item} {contents : List Schema}
      (hgrouping : grouping ≠ .sequence) (hitems : FieldsHaveSchemas items contents) :
      Item.HasSchema (.fields grouping items) (.fields grouping contents)
  | unitVariant {index : UInt32} {variants : List Variant}
      (hvariant : variants[index.toNat]? = some .unit) :
      Item.HasSchema (.unitVariant index) (.choice variants)
  | newtypeVariant {index : UInt32} {item : Item} {content : Schema} {variants : List Variant}
      (hvariant : variants[index.toNat]? = some (.newtype content))
      (hitem : Item.HasSchema item content) :
      Item.HasSchema (.newtypeVariant index item) (.choice variants)
  | tupleVariant {index : UInt32} {items : List Item} {contents : List Schema}
      {variants : List Variant} (hvariant : variants[index.toNat]? = some (.tuple contents))
      (hitems : FieldsHaveSchemas items contents) :
      Item.HasSchema (.tupleVariant index items) (.choice variants)

/-- A row has one item for each of its schemas. -/
inductive FieldsHaveSchemas : List Item → List Schema → Prop where
  | nil : FieldsHaveSchemas [] []
  | cons {item : Item} {items : List Item} {content : Schema} {contents : List Schema}
      (hitem : Item.HasSchema item content) (hitems : FieldsHaveSchemas items contents) :
      FieldsHaveSchemas (item :: items) (content :: contents)

end

mutual

/-- Every variant in an item has a number that fits one byte. -/
def Item.IndicesFit : Item → Prop
  | .newtypeStruct item => item.IndicesFit
  | .fields _ items => FieldIndicesFit items
  | .unitVariant index => index < 256
  | .newtypeVariant index item => index < 256 ∧ item.IndicesFit
  | .tupleVariant index items => index < 256 ∧ FieldIndicesFit items
  | _ => True

/-- Every variant in a row has a number that fits one byte. -/
def FieldIndicesFit : List Item → Prop
  | [] => True
  | item :: items => item.IndicesFit ∧ FieldIndicesFit items

end

/-! ## Writing them -/

theorem toNat_toUInt8_of_lt {index : UInt32} (h : index < 256) :
    index.toUInt8.toNat = index.toNat := by
  have hlt : index.toNat < 256 := UInt32.lt_iff_toNat_lt.mp h
  simp [Nat.mod_eq_of_lt hlt]

theorem variantByte_eq_ok_iff {index : UInt32} {bytes : Bytes} :
    variantByte index = .ok bytes ↔ index < 256 ∧ bytes = [index.toUInt8] := by
  by_cases hindex : index < 256
  · simp [variantByte, hindex, eq_comm]
  · simp [variantByte, hindex]

theorem toUInt32_toUInt8_of_lt {index : UInt32} (h : index < 256) :
    index.toUInt8.toUInt32 = index := by
  apply UInt32.toNat_inj.mp
  rw [UInt8.toNat_toUInt32, toNat_toUInt8_of_lt h]

/-- A row is written when its items are, one after the other. -/
theorem encodeFields_cons_eq_ok_iff {item : Item} {items : List Item} {bytes : Bytes} :
    encodeFields (item :: items) = .ok bytes ↔
      ∃ front, item.encode = .ok front ∧ ∃ rest, encodeFields items = .ok rest ∧
        front ++ rest = bytes := by
  simp only [encodeFields, Except.bind_eq_ok_iff, pure, Except.pure, Except.ok.injEq]

theorem encode_newtypeVariant_eq_ok_iff {index : UInt32} {item : Item} {bytes : Bytes} :
    (Item.newtypeVariant index item).encode = .ok bytes ↔
      index < 256 ∧ ∃ rest, item.encode = .ok rest ∧ index.toUInt8 :: rest = bytes := by
  simp only [Item.encode, Except.bind_eq_ok_iff, variantByte_eq_ok_iff, pure, Except.pure,
    Except.ok.injEq]
  grind

theorem encode_tupleVariant_eq_ok_iff {index : UInt32} {items : List Item} {bytes : Bytes} :
    (Item.tupleVariant index items).encode = .ok bytes ↔
      index < 256 ∧ ∃ rest, encodeFields items = .ok rest ∧ index.toUInt8 :: rest = bytes := by
  simp only [Item.encode, Except.bind_eq_ok_iff, variantByte_eq_ok_iff, pure, Except.pure,
    Except.ok.injEq]
  grind

mutual

/-- An item of a schema is written, if its variants have numbers that fit. -/
theorem exists_encode (item : Item) {schema : Schema} (h : item.HasSchema schema)
    (hfit : item.IndicesFit) : ∃ bytes, item.encode = .ok bytes := by
  cases item with
  | newtypeStruct item =>
      cases h with | newtypeStruct hitem =>
      rw [Item.IndicesFit] at hfit
      rw [Item.encode]
      exact exists_encode item hitem hfit
  | fields grouping items =>
      cases h with | fields _ hitems =>
      rw [Item.IndicesFit] at hfit
      rw [Item.encode]
      exact exists_encodeFields items hitems hfit
  | unitVariant index =>
      rw [Item.IndicesFit] at hfit
      exact ⟨_, variantByte_eq_ok_iff.mpr ⟨hfit, rfl⟩⟩
  | newtypeVariant index item =>
      cases h with | newtypeVariant _ hitem =>
      rw [Item.IndicesFit] at hfit
      obtain ⟨rest, hrest⟩ := exists_encode item hitem hfit.2
      exact ⟨_, encode_newtypeVariant_eq_ok_iff.mpr ⟨hfit.1, rest, hrest, rfl⟩⟩
  | tupleVariant index items =>
      cases h with | tupleVariant _ hitems =>
      rw [Item.IndicesFit] at hfit
      obtain ⟨rest, hrest⟩ := exists_encodeFields items hitems hfit.2
      exact ⟨_, encode_tupleVariant_eq_ok_iff.mpr ⟨hfit.1, rest, hrest, rfl⟩⟩
  | unsupported => cases h
  | _ => exact ⟨_, rfl⟩

/-- A row of a schema is written, if its variants have numbers that fit. -/
theorem exists_encodeFields (items : List Item) {schemas : List Schema}
    (h : FieldsHaveSchemas items schemas) (hfit : FieldIndicesFit items) :
    ∃ bytes, encodeFields items = .ok bytes := by
  cases items with
  | nil => exact ⟨[], rfl⟩
  | cons item items =>
      cases h with | cons hitem hitems =>
      rw [FieldIndicesFit] at hfit
      obtain ⟨front, hfront⟩ := exists_encode item hitem hfit.1
      obtain ⟨rest, hrest⟩ := exists_encodeFields items hitems hfit.2
      exact ⟨_, encodeFields_cons_eq_ok_iff.mpr ⟨front, hfront, rest, hrest, rfl⟩⟩

end

end Transact.OrderedKey
