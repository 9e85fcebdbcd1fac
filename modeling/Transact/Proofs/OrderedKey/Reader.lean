/-
# What the readers of fields accept

Each field of a key has one spelling. A reader takes the field of a value off the
front, and whatever it takes is the field of the value that it gives: a number
has all its bytes, a truth value is one of two bytes, a byte string has no escape
but the marked zero, and a text is spelled in UTF-8. So a reader's result is known
from what the writer writes, in both directions.
-/

import Transact.Proofs.OrderedKey.Order
import Transact.Proofs.Text.Utf8

namespace Transact

/-- A number that is spelled by some bytes fits them. -/
theorem Bytes.ofBigEndian_lt (bytes : Bytes) :
    ofBigEndian bytes < Nat.pow 256 bytes.length := by
  have hback := ofBigEndian_bigEndian bytes.length (ofBigEndian bytes)
  rw [bigEndian_ofBigEndian] at hback
  rw [hback]
  exact Nat.mod_lt _ (Nat.pow_pos (by decide))

namespace OrderedKey

/-! ## Written fields are read back -/

theorem readBool_append (value : Bool) (rest : Bytes) :
    readBool ([if value then 1 else 0] ++ rest) = .ok (value, rest) := by
  cases value <;> rfl

/-- A number that fits a width is read back. -/
theorem readNat_bigEndian_append {width n : Nat} (hn : n < Nat.pow 256 width) (rest : Bytes) :
    readNat width (Bytes.bigEndian width n ++ rest) = .ok (n, rest) := by
  rw [readNat, ByteReader.bind_eq_ok_iff]
  refine ⟨Bytes.bigEndian width n, rest, ByteReader.take_append (by simp) rest _, ?_⟩
  rw [ByteReader.pure_eq_ok_iff, Bytes.ofBigEndian_bigEndian, Nat.mod_eq_of_lt hn]
  exact ⟨rfl, rfl⟩

theorem readInt64_append (value : Int64) (rest : Bytes) :
    readInt64 (int64Field value ++ rest) = .ok (value, rest) := by
  have hleast := value.le_toInt
  have hgreatest := value.toInt_lt
  have hfits : (value.toInt + 0x8000000000000000).toNat < Nat.pow 256 8 := by
    show _ < 256 ^ 8
    omega
  have hback : Int.ofNat (value.toInt + 0x8000000000000000).toNat - 0x8000000000000000 =
      value.toInt := by
    rw [Int.ofNat_eq_natCast, Int.toNat_of_nonneg (by omega)]
    omega
  rw [readInt64, ByteReader.bind_eq_ok_iff]
  refine ⟨_, rest, readNat_bigEndian_append hfits rest, ?_⟩
  rw [ByteReader.pure_eq_ok_iff, hback, Int64.ofInt_toInt]
  exact ⟨rfl, rfl⟩

theorem readText_append (text : String) (rest : Bytes) :
    readText (bytesField (Utf8.encode text) ++ rest) = .ok (text, rest) := by
  rw [readText, ByteReader.bind_eq_ok_iff]
  refine ⟨Utf8.encode text, rest, readBytes_bytesField_append _ rest, ?_⟩
  simp

/-! ## Only written fields are read -/

theorem readByte_eq_ok_iff {input rest : Bytes} {byte : UInt8} :
    readByte input = .ok (byte, rest) ↔ input = byte :: rest := by
  cases input <;> simp [readByte]

theorem readBool_eq_ok_iff {input rest : Bytes} {value : Bool} :
    readBool input = .ok (value, rest) ↔ input = [if value then 1 else 0] ++ rest := by
  constructor
  · intro h
    cases input with
    | nil => cases h
    | cons byte input =>
        simp only [readBool] at h
        split at h
        · cases h
          simp_all
        · split at h <;> cases h
          simp_all
  · rintro rfl
    exact readBool_append value rest

/-- A number is read from its bytes, all of them. -/
theorem readNat_eq_ok_iff {width n : Nat} {input rest : Bytes} :
    readNat width input = .ok (n, rest) ↔
      n < Nat.pow 256 width ∧ input = Bytes.bigEndian width n ++ rest := by
  constructor
  · intro h
    simp only [readNat, OrderedKey.take, ByteReader.bind_eq_ok_iff, ByteReader.take_eq_ok_iff,
      ByteReader.pure_eq_ok_iff] at h
    obtain ⟨front, _, ⟨rfl, rfl⟩, rfl, rfl⟩ := h
    exact ⟨Bytes.ofBigEndian_lt front, by rw [Bytes.bigEndian_ofBigEndian]⟩
  · rintro ⟨hn, rfl⟩
    exact readNat_bigEndian_append hn rest

/-- A signed number is read from its bytes, counted from the least one. -/
theorem readInt64_eq_ok_iff {input rest : Bytes} {value : Int64} :
    readInt64 input = .ok (value, rest) ↔ input = int64Field value ++ rest := by
  constructor
  · intro h
    simp only [readInt64, ByteReader.bind_eq_ok_iff, readNat_eq_ok_iff,
      ByteReader.pure_eq_ok_iff] at h
    obtain ⟨n, _, ⟨hn, rfl⟩, rfl, rfl⟩ := h
    have hfits : n < 256 ^ 8 := hn
    have hvalue : (Int64.ofInt (Int.ofNat n - 0x8000000000000000)).toInt =
        Int.ofNat n - 0x8000000000000000 := by
      apply Int64.toInt_ofInt_of_le <;> simp only [Int.ofNat_eq_natCast] <;> omega
    rw [int64Field, hvalue, Int.sub_add_cancel, Int.ofNat_eq_natCast, Int.toNat_natCast]
  · rintro rfl
    exact readInt64_append value rest

/-- A byte string is read from its field only. -/
theorem readBytes_eq_ok_iff {input bytes rest : Bytes} :
    readBytes input = .ok (bytes, rest) ↔ input = bytesField bytes ++ rest :=
  ⟨eq_bytesField_of_readBytes, fun h => h ▸ readBytes_bytesField_append bytes rest⟩

theorem readText_eq_ok_iff {input rest : Bytes} {text : String} :
    readText input = .ok (text, rest) ↔ input = bytesField (Utf8.encode text) ++ rest := by
  constructor
  · intro h
    simp only [readText, ByteReader.bind_eq_ok_iff, readBytes_eq_ok_iff] at h
    obtain ⟨bytes, behind, rfl, htext⟩ := h
    cases hdecode : Utf8.decode bytes with
    | error fault =>
        rw [hdecode] at htext
        cases htext
    | ok found =>
        rw [hdecode] at htext
        obtain ⟨rfl, rfl⟩ := ByteReader.pure_eq_ok_iff.mp htext
        rw [Utf8.decode_eq_ok_iff.mp hdecode]
  · rintro rfl
    exact readText_append text rest

/-- A whole key is read when nothing is left. -/
theorem readWhole_eq_ok_iff {α : Type} {reader : ByteReader α} {bytes : Bytes} {value : α} :
    readWhole reader bytes = .ok value ↔ reader bytes = .ok (value, []) := by
  unfold readWhole
  split <;> simp_all

end OrderedKey

end Transact
