/-
# The layout of versioned keys and values

Written keys are read back and nothing else is read, so each entry of the store
belongs to one key. The versions of one key are neighbours and ascend: the
range between two of them holds versions of this key only. The layouts that
begin with a prefix without its end are those of the versions of the keys that
begin with it.

A counter is always read back; a version is, when the length of its value can
be written.
-/

import Transact.Mvcc.Layout
import Transact.Proofs.OrderedKey.Reader
import Transact.Proofs.Record.Field

namespace Transact

namespace Mvcc

open OrderedKey

theorem toNat_lt_pow (version : UInt64) : version.toNat < Nat.pow 256 8 := version.toNat_lt

theorem versionField_lt_iff {left right : UInt64} :
    versionField left < versionField right ↔ left < right := by
  rw [versionField, versionField, Bytes.bigEndian_lt_iff (toNat_lt_pow left) (toNat_lt_pow right),
    UInt64.lt_iff_toNat_lt]

namespace Key

/-- A number is read from its eight bytes, and from nothing else. -/
theorem readVersion_eq_ok_iff {input rest : Bytes} {version : UInt64} :
    readVersion input = .ok (version, rest) ↔ input = versionField version ++ rest := by
  simp only [readVersion, ByteReader.bind_eq_ok_iff, readNat_eq_ok_iff, ByteReader.pure_eq_ok_iff]
  constructor
  · rintro ⟨n, _, ⟨hn, rfl⟩, rfl, rfl⟩
    rw [versionField, UInt64.toNat_ofNat_of_lt' hn]
  · rintro rfl
    exact ⟨version.toNat, rest, ⟨toNat_lt_pow version, rfl⟩, UInt64.ofNat_toNat, rfl⟩

/-- The keys of a family are those whose layout begins with its number. -/
theorem readFamily_eq_ok_iff {family : UInt8} {input : Bytes} {key : Key} :
    readFamily family input = .ok (key, []) ↔ family :: input = key.encode := by
  unfold readFamily
  split
  · rw [ByteReader.pure_eq_ok_iff]
    cases key <;> simp [encode]
  · simp only [ByteReader.bind_eq_ok_iff, ByteReader.pure_eq_ok_iff, readVersion_eq_ok_iff]
    cases key <;> simp [encode]
  · simp only [ByteReader.bind_eq_ok_iff, ByteReader.pure_eq_ok_iff, readVersion_eq_ok_iff,
      readBytes_eq_ok_iff]
    constructor
    · rintro ⟨own, behind, rfl, number, behind, rfl, rfl, rfl⟩
      rw [encode, List.append_nil]
    · intro hkey
      cases key with
      | nextVersion => simp [encode] at hkey
      | active number => simp [encode] at hkey
      | version own number =>
          exact ⟨own, versionField number, (List.cons.inj hkey).2, number, [], by simp, rfl, rfl⟩
  · cases key <;> simp_all [encode, ByteReader.fail]

/-- Written keys are read back, and nothing else is read. -/
theorem decode_eq_ok_iff {bytes : Bytes} {key : Key} :
    decode bytes = .ok key ↔ bytes = key.encode := by
  rw [decode, readWhole_eq_ok_iff, ByteReader.bind_eq_ok_iff]
  cases bytes with
  | nil => cases key <;> simp [OrderedKey.readByte, encode]
  | cons family input =>
      simp only [OrderedKey.readByte, Except.ok.injEq, Prod.mk.injEq, ← readFamily_eq_ok_iff]
      constructor
      · rintro ⟨_, _, ⟨rfl, rfl⟩, hfamily⟩
        exact hfamily
      · intro hfamily
        exact ⟨family, input, ⟨rfl, rfl⟩, hfamily⟩

@[simp] theorem decode_encode (key : Key) : decode key.encode = .ok key :=
  decode_eq_ok_iff.mpr rfl

@[simp] theorem encode_inj {left right : Key} : left.encode = right.encode ↔ left = right := by
  refine ⟨fun h => ?_, congrArg encode⟩
  have hread := congrArg decode h
  rw [decode_encode, decode_encode] at hread
  exact Except.ok.inj hread

/-- Versions sort by their key, and those of one key by their number. -/
theorem encode_version_lt_iff {key other : Bytes} {version bound : UInt64} :
    (Key.version key version).encode < (Key.version other bound).encode ↔
      key < other ∨ key = other ∧ version < bound := by
  simp [encode, bytesField_append_lt_iff, versionField_lt_iff]

/-- Between two versions of a key there are only versions of this key. -/
theorem encode_mem_range_iff {key : Bytes} {least greatest : UInt64} {own : Key} :
    ¬ own.encode < (Key.version key least).encode ∧
        ¬ (Key.version key greatest).encode < own.encode ↔
      ∃ version, own = .version key version ∧ least ≤ version ∧ version ≤ greatest := by
  cases own with
  | nextVersion => simp [encode, List.cons_lt_cons_iff]
  | active version => simp [encode, List.cons_lt_cons_iff]
  | version other version =>
      rw [encode_version_lt_iff, encode_version_lt_iff]
      constructor
      · rintro ⟨hleast, hgreatest⟩
        have hkey : other = key := by
          apply Std.le_antisymm
          · exact Std.not_lt.mp fun h => hgreatest (.inl h)
          · exact Std.not_lt.mp fun h => hleast (.inl h)
        subst hkey
        refine ⟨version, rfl, ?_, ?_⟩
        · exact Std.not_lt.mp fun h => hleast (.inr ⟨rfl, h⟩)
        · exact Std.not_lt.mp fun h => hgreatest (.inr ⟨rfl, h⟩)
      · rintro ⟨_, hown, hleast, hgreatest⟩
        cases hown
        have hirrefl : ¬ key < key := Std.lt_irrefl
        have hleast' := Std.not_lt.mpr hleast
        have hgreatest' := Std.not_lt.mpr hgreatest
        grind

end Key

/-- What begins the layouts of a prefix is its escaped form, without an end. -/
theorem versionPrefix_eq (start : Bytes) : versionPrefix start = 2 :: escape start := by
  simp only [versionPrefix, KeyPrefix.encode, bytesField, terminator]
  rw [show (2 :: (escape start ++ [0, 0])) = ((2 :: escape start) ++ [0]) ++ [0] by simp,
    List.dropLast_concat, List.dropLast_concat]

/-- A layout begins with that of a prefix exactly when it belongs to a version of a key that
begins with the prefix. -/
theorem versionPrefix_prefix_encode_iff (start : Bytes) (own : Key) :
    versionPrefix start <+: own.encode ↔
      ∃ key version, own = .version key version ∧ start <+: key := by
  rw [versionPrefix_eq]
  cases own with
  | nextVersion => simp [Key.encode]
  | active version => simp [Key.encode]
  | version key version => simp [Key.encode, escape_prefix_bytesField_append_iff]

/-- The markers are the keys that begin with their family. -/
theorem active_prefix_encode_iff (own : Key) :
    KeyPrefix.active.encode <+: own.encode ↔ ∃ version, own = .active version := by
  cases own <;> simp [Key.encode, KeyPrefix.encode]

/-- A counter is read back. -/
@[simp] theorem decodeCounter_encodeCounter (version : UInt64) :
    decodeCounter (encodeCounter version) = .ok version := by
  have hread : Record.readNat 8 (encodeCounter version) = .ok (version.toNat, []) := by
    have happend := Record.readNat_littleEndian_append (toNat_lt_pow version) []
    rwa [List.append_nil] at happend
  simp [decodeCounter, Record.readFront, hread, Except.map]

/-- A value whose length can be written is read back, and so is a deletion. -/
theorem decodeVersion_encodeVersion {write : Option Bytes}
    (h : ∀ value, write = some value → value.length < UInt64.size) :
    decodeVersion (encodeVersion write) = .ok write := by
  cases write with
  | none => rfl
  | some value =>
      have hread : readContent (Record.bytesField value) = .ok (value, []) := by
        rw [readContent, ByteReader.bind_eq_ok_iff]
        refine ⟨value.length, value, Record.readNat_lengthField_append (h value rfl) value, ?_⟩
        simp [Record.take, ByteReader.take_eq_ok_iff]
      simp [decodeVersion, encodeVersion, Record.readFront, Record.optionField, Record.readOption,
        hread, Except.map]

end Mvcc

end Transact
