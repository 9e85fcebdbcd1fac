/-
# Byte strings

A byte string is a list of bytes, ordered lexicographically by the order that
lists carry already. Keys, stored values and every written format of the
library are byte strings. The module adds the two fixed-width integer layouts:
most significant byte first, for keys that must sort by value, and least
significant byte first, for stored records.
-/

namespace Transact

/-- A byte string. `<` on it is lexicographic, a proper beginning coming first. -/
abbrev Bytes := List UInt8

namespace Bytes

/-- Byte strings are ordered linearly. -/
instance isLinearOrder : Std.IsLinearOrder Bytes := inferInstance

/-- The strict order of byte strings is that of their order. -/
instance lawfulOrderLT : Std.LawfulOrderLT Bytes := inferInstance

/-- The lowest `width` bytes of a number, least significant first. -/
def littleEndian : (width : Nat) → Nat → Bytes
  | 0, _ => []
  | width + 1, n => UInt8.ofNat n :: littleEndian width (n / 256)

/-- The number that bytes spell, least significant first. -/
def ofLittleEndian : Bytes → Nat
  | [] => 0
  | byte :: rest => byte.toNat + 256 * ofLittleEndian rest

/-- The lowest `width` bytes of a number, most significant first. -/
def bigEndian (width n : Nat) : Bytes :=
  (littleEndian width n).reverse

/-- The number that bytes spell, most significant first. -/
def ofBigEndian (bytes : Bytes) : Nat :=
  ofLittleEndian bytes.reverse

@[simp] theorem length_littleEndian (width n : Nat) :
    (littleEndian width n).length = width := by
  induction width generalizing n with
  | zero => rfl
  | succ width ih => simp [littleEndian, ih]

@[simp] theorem length_bigEndian (width n : Nat) :
    (bigEndian width n).length = width := by
  simp [bigEndian]

/-- Reading back a little-endian field gives the number modulo the field's range. -/
theorem ofLittleEndian_littleEndian (width n : Nat) :
    ofLittleEndian (littleEndian width n) = n % Nat.pow 256 width := by
  induction width generalizing n with
  | zero => simp [littleEndian, ofLittleEndian, Nat.mod_one]
  | succ width ih =>
    have hsplit : n % (256 * Nat.pow 256 width) = n % 256 + 256 * (n / 256 % Nat.pow 256 width) :=
      Nat.mod_mul
    simpa [littleEndian, ofLittleEndian, ih, Nat.pow_succ'] using hsplit.symm

/-- Reading back a big-endian field gives the number modulo the field's range. -/
theorem ofBigEndian_bigEndian (width n : Nat) :
    ofBigEndian (bigEndian width n) = n % Nat.pow 256 width := by
  simp [ofBigEndian, bigEndian, ofLittleEndian_littleEndian]

end Bytes

end Transact
