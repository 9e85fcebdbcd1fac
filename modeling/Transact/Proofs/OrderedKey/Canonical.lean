/-
# Only written keys are read

Every place where a reader could be lenient refuses instead: a truth value that
is neither byte, an escape that is none, a number of a variant past the last, a
text that is not UTF-8, bytes behind the key. So a whole key is read exactly when
it is what is written for an item of the schema, and no two byte strings are read
as one item.

The induction is on the schema, as reading is. A variant is read by its place in
the list, so what holds of it is said of every choice that has it at its number.
-/

import Transact.Proofs.OrderedKey.RoundTrip

namespace Transact.OrderedKey

/-! ## Schemas with an ordered form -/

mutual

/-- The schema is built from the shapes that have an ordered form. -/
def Schema.Supported : Schema → Prop
  | .newtypeStruct content => content.Supported
  | .fields grouping contents => grouping ≠ .sequence ∧ AllSupported contents
  | .choice variants => VariantsSupported variants
  | .unsupported _ => False
  | _ => True

/-- All schemas of a row have an ordered form. -/
def AllSupported : List Schema → Prop
  | [] => True
  | content :: contents => content.Supported ∧ AllSupported contents

/-- All variants of a choice hold what has an ordered form. -/
def VariantsSupported : List Variant → Prop
  | [] => True
  | variant :: variants => variant.Supported ∧ VariantsSupported variants

/-- What the variant holds has an ordered form. -/
def Variant.Supported : Variant → Prop
  | .unit => True
  | .newtype content => content.Supported
  | .tuple contents => AllSupported contents
  | .struct => False

end

/-! ## What is read was written -/

theorem toUInt32_lt (index : UInt8) : index.toUInt32 < 256 := by
  rw [UInt32.lt_iff_toNat_lt, UInt8.toNat_toUInt32]
  exact index.toNat_lt

theorem toUInt8_toUInt32 (index : UInt8) : index.toUInt32.toUInt8 = index := by
  apply UInt8.toNat_inj.mp
  rw [toNat_toUInt8_of_lt (toUInt32_lt index), UInt8.toNat_toUInt32]

mutual

/-- What is read off the front is the bytes of an item of the schema. -/
theorem Schema.written_of_read (schema : Schema) (h : schema.Supported) {input rest : Bytes}
    {item : Item} (hread : schema.read input = .ok (item, rest)) :
    item.HasSchema schema ∧ ∃ bytes, item.encode = .ok bytes ∧ input = bytes ++ rest := by
  cases schema with
  | bool =>
      simp only [Schema.read, ByteReader.bind_eq_ok_iff, readBool_eq_ok_iff,
        ByteReader.pure_eq_ok_iff] at hread
      obtain ⟨value, _, rfl, rfl, rfl⟩ := hread
      exact ⟨.bool value, _, rfl, rfl⟩
  | uint8 =>
      simp only [Schema.read, ByteReader.bind_eq_ok_iff, readByte_eq_ok_iff,
        ByteReader.pure_eq_ok_iff] at hread
      obtain ⟨value, _, rfl, rfl, rfl⟩ := hread
      exact ⟨.uint8 value, _, rfl, rfl⟩
  | uint16 =>
      simp only [Schema.read, ByteReader.bind_eq_ok_iff, readNat_eq_ok_iff,
        ByteReader.pure_eq_ok_iff] at hread
      obtain ⟨n, _, ⟨hn, rfl⟩, rfl, rfl⟩ := hread
      refine ⟨.uint16 _, _, rfl, ?_⟩
      rw [UInt16.toNat_ofNat_of_lt' hn]
  | uint32 =>
      simp only [Schema.read, ByteReader.bind_eq_ok_iff, readNat_eq_ok_iff,
        ByteReader.pure_eq_ok_iff] at hread
      obtain ⟨n, _, ⟨hn, rfl⟩, rfl, rfl⟩ := hread
      refine ⟨.uint32 _, _, rfl, ?_⟩
      rw [UInt32.toNat_ofNat_of_lt' hn]
  | uint64 =>
      simp only [Schema.read, ByteReader.bind_eq_ok_iff, readNat_eq_ok_iff,
        ByteReader.pure_eq_ok_iff] at hread
      obtain ⟨n, _, ⟨hn, rfl⟩, rfl, rfl⟩ := hread
      refine ⟨.uint64 _, _, rfl, ?_⟩
      rw [UInt64.toNat_ofNat_of_lt' hn]
  | int64 =>
      simp only [Schema.read, ByteReader.bind_eq_ok_iff, readInt64_eq_ok_iff,
        ByteReader.pure_eq_ok_iff] at hread
      obtain ⟨value, _, rfl, rfl, rfl⟩ := hread
      exact ⟨.int64 value, _, rfl, rfl⟩
  | text =>
      simp only [Schema.read, ByteReader.bind_eq_ok_iff, readText_eq_ok_iff,
        ByteReader.pure_eq_ok_iff] at hread
      obtain ⟨value, _, rfl, rfl, rfl⟩ := hread
      exact ⟨.text value, _, rfl, rfl⟩
  | bytes =>
      simp only [Schema.read, ByteReader.bind_eq_ok_iff, readBytes_eq_ok_iff,
        ByteReader.pure_eq_ok_iff] at hread
      obtain ⟨value, _, rfl, rfl, rfl⟩ := hread
      exact ⟨.bytes value, _, rfl, rfl⟩
  | unit =>
      obtain ⟨rfl, rfl⟩ := ByteReader.pure_eq_ok_iff.mp hread
      exact ⟨.unit, [], rfl, rfl⟩
  | unitStruct =>
      obtain ⟨rfl, rfl⟩ := ByteReader.pure_eq_ok_iff.mp hread
      exact ⟨.unitStruct, [], rfl, rfl⟩
  | newtypeStruct content =>
      rw [Schema.Supported] at h
      rw [Schema.read, ByteReader.bind_eq_ok_iff] at hread
      obtain ⟨held, _, hheld, hpure⟩ := hread
      obtain ⟨rfl, rfl⟩ := ByteReader.pure_eq_ok_iff.mp hpure
      obtain ⟨hschema, bytes, hencode, rfl⟩ := content.written_of_read h hheld
      exact ⟨.newtypeStruct hschema, bytes, hencode, rfl⟩
  | fields grouping contents =>
      rw [Schema.Supported] at h
      rw [Schema.read, ByteReader.bind_eq_ok_iff] at hread
      obtain ⟨items, _, hitems, hpure⟩ := hread
      obtain ⟨rfl, rfl⟩ := ByteReader.pure_eq_ok_iff.mp hpure
      obtain ⟨hschemas, bytes, hencode, rfl⟩ := written_of_readFields contents h.2 hitems
      exact ⟨.fields h.1 hschemas, bytes, hencode, rfl⟩
  | choice variants =>
      rw [Schema.Supported] at h
      rw [Schema.read, ByteReader.bind_eq_ok_iff] at hread
      obtain ⟨index, _, hindex, hvariant⟩ := hread
      obtain rfl := readByte_eq_ok_iff.mp hindex
      obtain ⟨hschema, bytes, hencode, rfl⟩ := written_of_readVariant index variants h hvariant
      exact ⟨hschema variants rfl, _, hencode, rfl⟩
  | unsupported shape => exact absurd h (by rw [Schema.Supported]; exact not_false)

/-- What is read for a row is the bytes of its items, one after the other. -/
theorem written_of_readFields (contents : List Schema) (h : AllSupported contents)
    {input rest : Bytes} {items : List Item}
    (hread : readFields contents input = .ok (items, rest)) :
    FieldsHaveSchemas items contents ∧
      ∃ bytes, encodeFields items = .ok bytes ∧ input = bytes ++ rest := by
  cases contents with
  | nil =>
      obtain ⟨rfl, rfl⟩ := ByteReader.pure_eq_ok_iff.mp hread
      exact ⟨.nil, [], rfl, rfl⟩
  | cons content contents =>
      rw [AllSupported] at h
      rw [readFields, ByteReader.bind_eq_ok_iff] at hread
      obtain ⟨item, _, hitem, hmore⟩ := hread
      rw [ByteReader.bind_eq_ok_iff] at hmore
      obtain ⟨items, _, hitems, hpure⟩ := hmore
      obtain ⟨rfl, rfl⟩ := ByteReader.pure_eq_ok_iff.mp hpure
      obtain ⟨hschema, front, hfront, rfl⟩ := content.written_of_read h.1 hitem
      obtain ⟨hschemas, more, hmore, rfl⟩ := written_of_readFields contents h.2 hitems
      refine ⟨.cons hschema hschemas, front ++ more, ?_, (List.append_assoc _ _ _).symm⟩
      exact encodeFields_cons_eq_ok_iff.mpr ⟨front, hfront, more, hmore, rfl⟩

/-- What is read for the variant of a number is its item's bytes without the number. -/
theorem written_of_readVariant (index : UInt8) (variants : List Variant)
    (h : VariantsSupported variants) {skip : Nat} {input rest : Bytes} {item : Item}
    (hread : readVariant index variants skip input = .ok (item, rest)) :
    (∀ all : List Variant, all[index.toNat]? = variants[skip]? → item.HasSchema (.choice all)) ∧
      ∃ bytes, item.encode = .ok (index :: bytes) ∧ input = bytes ++ rest := by
  cases variants with
  | nil => cases hread
  | cons variant variants =>
      rw [VariantsSupported] at h
      cases skip with
      | zero => exact variant.written_of_read index h.1 hread
      | succ skip => exact written_of_readVariant index variants h.2 hread

/-- What is read for what a variant holds is its item's bytes without the number. -/
theorem Variant.written_of_read (variant : Variant) (index : UInt8) (h : variant.Supported)
    {input rest : Bytes} {item : Item}
    (hread : variant.read index input = .ok (item, rest)) :
    (∀ all : List Variant, all[index.toNat]? = some variant → item.HasSchema (.choice all)) ∧
      ∃ bytes, item.encode = .ok (index :: bytes) ∧ input = bytes ++ rest := by
  have hnumber : index.toUInt32.toNat = index.toNat := UInt8.toNat_toUInt32 index
  cases variant with
  | unit =>
      obtain ⟨rfl, rfl⟩ := ByteReader.pure_eq_ok_iff.mp hread
      refine ⟨fun all hall => .unitVariant (by rw [hnumber, hall]), [], ?_, rfl⟩
      rw [Item.encode, variantByte_eq_ok_iff, toUInt8_toUInt32]
      exact ⟨toUInt32_lt index, rfl⟩
  | newtype content =>
      rw [Variant.Supported] at h
      rw [Variant.read, ByteReader.bind_eq_ok_iff] at hread
      obtain ⟨held, _, hheld, hpure⟩ := hread
      obtain ⟨rfl, rfl⟩ := ByteReader.pure_eq_ok_iff.mp hpure
      obtain ⟨hschema, bytes, hencode, rfl⟩ := content.written_of_read h hheld
      refine ⟨fun all hall => .newtypeVariant (by rw [hnumber, hall]) hschema, bytes, ?_, rfl⟩
      rw [encode_newtypeVariant_eq_ok_iff, toUInt8_toUInt32]
      exact ⟨toUInt32_lt index, bytes, hencode, rfl⟩
  | tuple contents =>
      rw [Variant.Supported] at h
      rw [Variant.read, ByteReader.bind_eq_ok_iff] at hread
      obtain ⟨items, _, hitems, hpure⟩ := hread
      obtain ⟨rfl, rfl⟩ := ByteReader.pure_eq_ok_iff.mp hpure
      obtain ⟨hschemas, bytes, hencode, rfl⟩ := written_of_readFields contents h hitems
      refine ⟨fun all hall => .tupleVariant (by rw [hnumber, hall]) hschemas, bytes, ?_, rfl⟩
      rw [encode_tupleVariant_eq_ok_iff, toUInt8_toUInt32]
      exact ⟨toUInt32_lt index, bytes, hencode, rfl⟩
  | struct => cases hread

end

/-! ## Whole keys -/

/-- A key is read as an item exactly when it is what is written for it. -/
theorem decode_eq_ok_iff {schema : Schema} (h : schema.Supported) {bytes : Bytes} {item : Item} :
    schema.decode bytes = .ok item ↔ item.HasSchema schema ∧ item.encode = .ok bytes := by
  rw [Schema.decode, readWhole_eq_ok_iff]
  constructor
  · intro hread
    obtain ⟨hschema, own, hencode, rfl⟩ := schema.written_of_read h hread
    rw [List.append_nil]
    exact ⟨hschema, hencode⟩
  · rintro ⟨hschema, hencode⟩
    have hread := read_encode_append item hschema hencode []
    rwa [List.append_nil] at hread

/-- A key is read from the bytes that are written for an item of the schema and from no others, and
the item tells these bytes. -/
theorem decode_accepts_written {schema : Schema} (h : schema.Supported) (bytes : Bytes) :
    (∀ item, schema.decode bytes = .ok item ↔
        item.HasSchema schema ∧ item.encode = .ok bytes) ∧
      ∀ item other, schema.decode bytes = .ok item → schema.decode other = .ok item →
        other = bytes := by
  refine ⟨fun item => decode_eq_ok_iff h, fun item other hitem hother => ?_⟩
  have hbytes := ((decode_eq_ok_iff h).mp hitem).2
  have hsame := ((decode_eq_ok_iff h).mp hother).2
  rw [hbytes] at hsame
  exact (Except.ok.inj hsame).symm

/-- A truth value, a variant, a marked zero, a text and a signed number have one spelling each. -/
theorem decode_accepts_written_struct :
    let schema : Schema :=
      .fields .struct [.bool, .choice [.unit, .tuple [.bytes, .text]], .newtypeStruct .int64]
    let bytes : Bytes := [1, 1, 0, 255, 255, 0, 0, 195, 169, 0, 0, 127, 255, 255, 255, 255, 255,
      255, 255]
    let item : Item := .fields .struct [.bool true, .tupleVariant 1 [.bytes [0, 255], .text "é"],
      .newtypeStruct (.int64 (-1))]
    schema.Supported ∧ schema.decode bytes = .ok item ∧ item.HasSchema schema ∧
      item.encode = .ok bytes ∧ ∀ other, schema.decode other = .ok item → other = bytes := by
  intro schema bytes item
  have hsupported : schema.Supported := by
    simp [schema, Schema.Supported, AllSupported, VariantsSupported, Variant.Supported]
  have hdecode : schema.decode bytes = .ok item := by rfl
  obtain ⟨hiff, hunique⟩ := decode_accepts_written hsupported bytes
  obtain ⟨hschema, hencode⟩ := (hiff item).mp hdecode
  exact ⟨hsupported, hdecode, hschema, hencode, fun other => hunique item other hdecode⟩

end Transact.OrderedKey
