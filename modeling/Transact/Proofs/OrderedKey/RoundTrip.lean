/-
# Keys are read back

Reading by its schema undoes writing an item, whatever is behind its bytes: the
reader stops where the item ends. So the bytes of a whole key are read back,
nothing may follow them, and of two items of one schema neither's bytes are the
beginning of the other's.

The bytes do not mark where a field ends, and so the induction reads items with
any bytes behind them.
-/

import Transact.Proofs.OrderedKey.Reader
import Transact.Proofs.OrderedKey.Typing

namespace Transact.OrderedKey

/-! ## Variants -/

/-- The variant with a number is found that many places on. -/
theorem readVariant_eq {variants : List Variant} {skip : Nat} {variant : Variant}
    (h : variants[skip]? = some variant) (index : UInt8) :
    readVariant index variants skip = variant.read index := by
  induction variants generalizing skip with
  | nil => cases h
  | cons first variants ih =>
      cases skip with
      | zero =>
          rw [readVariant, Option.some.inj h]
      | succ skip =>
          rw [readVariant]
          exact ih h

/-- A number that fits one byte is read back from it, and the variant of this number is read. -/
theorem read_choice_cons {variants : List Variant} {variant : Variant} {index : UInt32}
    (hindex : index < 256) (hvariant : variants[index.toNat]? = some variant) (rest : Bytes) :
    (Schema.choice variants).read (index.toUInt8 :: rest) =
      variant.read index.toUInt8 rest := by
  have hnumber : index.toUInt8.toNat = index.toNat := toNat_toUInt8_of_lt hindex
  rw [Schema.read]
  show readVariant index.toUInt8 variants index.toUInt8.toNat rest = _
  rw [readVariant_eq (by rw [hnumber]; exact hvariant)]

/-! ## Whole items -/

mutual

/-- A written item is read back by its schema, and what is behind it is left. -/
theorem read_encode_append (item : Item) {schema : Schema} (h : item.HasSchema schema)
    {bytes : Bytes} (hencode : item.encode = .ok bytes) (rest : Bytes) :
    schema.read (bytes ++ rest) = .ok (item, rest) := by
  cases item with
  | bool value =>
      cases h
      cases hencode
      rw [Schema.read, ByteReader.bind_eq_ok_iff]
      exact ⟨value, rest, readBool_append value rest, rfl⟩
  | uint8 value =>
      cases h
      cases hencode
      rfl
  | uint16 value =>
      cases h
      cases hencode
      rw [Schema.read, ByteReader.bind_eq_ok_iff]
      refine ⟨_, rest, readNat_bigEndian_append value.toNat_lt rest, ?_⟩
      rw [ByteReader.pure_eq_ok_iff, UInt16.ofNat_toNat]
      exact ⟨rfl, rfl⟩
  | uint32 value =>
      cases h
      cases hencode
      rw [Schema.read, ByteReader.bind_eq_ok_iff]
      refine ⟨_, rest, readNat_bigEndian_append value.toNat_lt rest, ?_⟩
      rw [ByteReader.pure_eq_ok_iff, UInt32.ofNat_toNat]
      exact ⟨rfl, rfl⟩
  | uint64 value =>
      cases h
      cases hencode
      rw [Schema.read, ByteReader.bind_eq_ok_iff]
      refine ⟨_, rest, readNat_bigEndian_append value.toNat_lt rest, ?_⟩
      rw [ByteReader.pure_eq_ok_iff, UInt64.ofNat_toNat]
      exact ⟨rfl, rfl⟩
  | int64 value =>
      cases h
      cases hencode
      rw [Schema.read, ByteReader.bind_eq_ok_iff]
      exact ⟨value, rest, readInt64_append value rest, rfl⟩
  | text value =>
      cases h
      cases hencode
      rw [Schema.read, ByteReader.bind_eq_ok_iff]
      exact ⟨value, rest, readText_append value rest, rfl⟩
  | bytes value =>
      cases h
      cases hencode
      rw [Schema.read, ByteReader.bind_eq_ok_iff]
      exact ⟨value, rest, readBytes_bytesField_append value rest, rfl⟩
  | unit =>
      cases h
      cases hencode
      rfl
  | unitStruct =>
      cases h
      cases hencode
      rfl
  | newtypeStruct item =>
      cases h with | newtypeStruct hitem =>
      rw [Item.encode] at hencode
      rw [Schema.read, ByteReader.bind_eq_ok_iff]
      exact ⟨item, rest, read_encode_append item hitem hencode rest, rfl⟩
  | fields grouping items =>
      cases h with | fields _ hitems =>
      rw [Item.encode] at hencode
      rw [Schema.read, ByteReader.bind_eq_ok_iff]
      exact ⟨items, rest, readFields_encodeFields_append items hitems hencode rest, rfl⟩
  | unitVariant index =>
      cases h with | unitVariant hvariant =>
      rw [Item.encode, variantByte_eq_ok_iff] at hencode
      obtain ⟨hindex, rfl⟩ := hencode
      rw [List.singleton_append, read_choice_cons hindex hvariant, Variant.read,
        toUInt32_toUInt8_of_lt hindex]
      rfl
  | newtypeVariant index item =>
      cases h with | newtypeVariant hvariant hitem =>
      obtain ⟨hindex, held, hheld, rfl⟩ := encode_newtypeVariant_eq_ok_iff.mp hencode
      rw [List.cons_append, read_choice_cons hindex hvariant, Variant.read,
        toUInt32_toUInt8_of_lt hindex, ByteReader.bind_eq_ok_iff]
      exact ⟨item, rest, read_encode_append item hitem hheld rest, rfl⟩
  | tupleVariant index items =>
      cases h with | tupleVariant hvariant hitems =>
      obtain ⟨hindex, held, hheld, rfl⟩ := encode_tupleVariant_eq_ok_iff.mp hencode
      rw [List.cons_append, read_choice_cons hindex hvariant, Variant.read,
        toUInt32_toUInt8_of_lt hindex, ByteReader.bind_eq_ok_iff]
      exact ⟨items, rest, readFields_encodeFields_append items hitems hheld rest, rfl⟩
  | unsupported => cases h

/-- A written row is read back field by field. -/
theorem readFields_encodeFields_append (items : List Item) {schemas : List Schema}
    (h : FieldsHaveSchemas items schemas) {bytes : Bytes} (hencode : encodeFields items = .ok bytes)
    (rest : Bytes) : readFields schemas (bytes ++ rest) = .ok (items, rest) := by
  cases items with
  | nil =>
      cases h
      cases hencode
      rfl
  | cons item items =>
      cases h with | cons hitem hitems =>
      obtain ⟨front, hfront, more, hmore, rfl⟩ := encodeFields_cons_eq_ok_iff.mp hencode
      rw [readFields, ByteReader.bind_eq_ok_iff, List.append_assoc]
      refine ⟨item, more ++ rest, read_encode_append item hitem hfront _, ?_⟩
      rw [ByteReader.bind_eq_ok_iff]
      exact ⟨items, rest, readFields_encodeFields_append items hitems hmore rest, rfl⟩

end

/-- Bytes behind a whole key are refused. -/
theorem decode_append_of_read {schema : Schema} {item : Item} {bytes : Bytes}
    (h : ∀ rest, schema.read (bytes ++ rest) = .ok (item, rest)) (rest : Bytes) :
    schema.decode (bytes ++ rest) =
      if rest = [] then .ok item else .error (.trailingBytes rest) := by
  rw [Schema.decode, readWhole, h]
  cases rest with
  | nil => rfl
  | cons => rfl

/-- An item whose variants fit is written, and its bytes are read back: the reader leaves what is
behind them, a whole key admits nothing behind them, and they begin no other item's bytes. -/
theorem exists_encode_read_back {schema : Schema} {item : Item} (h : item.HasSchema schema)
    (hfit : item.IndicesFit) :
    ∃ bytes, item.encode = .ok bytes ∧
      (∀ rest, schema.read (bytes ++ rest) = .ok (item, rest)) ∧
      schema.decode bytes = .ok item ∧
      (∀ rest, rest ≠ [] → schema.decode (bytes ++ rest) = .error (.trailingBytes rest)) ∧
      ∀ other more, other.HasSchema schema → other.encode = .ok more → bytes <+: more →
        other = item ∧ more = bytes := by
  obtain ⟨bytes, hencode⟩ := exists_encode item h hfit
  have hread := read_encode_append item h hencode
  have hdecode := decode_append_of_read hread
  refine ⟨bytes, hencode, hread, by simpa using hdecode [], fun rest hrest => ?_, ?_⟩
  · rw [hdecode, if_neg hrest]
  · rintro other _ hother hmore ⟨rest, rfl⟩
    have hown := read_encode_append other hother hmore []
    rw [List.append_nil, hread rest] at hown
    cases hown
    exact ⟨rfl, List.append_nil bytes⟩

/-- An empty text, zeros in a byte string and the last variant of 256 are read back with more
zeros behind them. -/
theorem exists_encode_read_back_last_variant :
    let variants : List Variant := List.replicate 255 .unit ++ [.tuple [.bytes, .text]]
    let schema : Schema := .fields .tuple [.choice variants, .newtypeStruct .int64]
    let item : Item := .fields .tuple
      [.tupleVariant 255 [.bytes [0, 0, 0xff], .text ""], .newtypeStruct (.int64 (-1))]
    let bytes : Bytes :=
      [255, 0, 255, 0, 255, 255, 0, 0, 0, 0, 127, 255, 255, 255, 255, 255, 255, 255]
    item.HasSchema schema ∧ item.IndicesFit ∧ item.encode = .ok bytes ∧
      schema.read (bytes ++ [0, 0]) = .ok (item, [0, 0]) ∧ schema.decode bytes = .ok item ∧
      schema.decode (bytes ++ [0, 0]) = .error (.trailingBytes [0, 0]) := by
  intro variants schema item bytes
  have hschema : item.HasSchema schema :=
    .fields (by decide) (.cons (.tupleVariant rfl (.cons (.bytes _) (.cons (.text _) .nil)))
      (.cons (.newtypeStruct (.int64 _)) .nil))
  have hfit : item.IndicesFit := by
    simp [item, Item.IndicesFit, FieldIndicesFit]
  have hencode : item.encode = .ok bytes := by rfl
  obtain ⟨own, hown, hread, hdecode, hmore, _⟩ := exists_encode_read_back hschema hfit
  cases hencode.symm.trans hown
  exact ⟨hschema, hfit, hencode, hread [0, 0], hdecode, hmore [0, 0] (by decide)⟩

end Transact.OrderedKey
