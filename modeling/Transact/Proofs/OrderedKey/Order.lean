/-
# How the fields of a key sort

Comparing two written fields with anything behind them comes down to comparing
what was written first: big-endian numbers of one width compare as numbers, and
a byte string is told from every other one before its end is passed, whatever
follows. The reader of a byte string accepts exactly what the writer produces.

The last part is about beginnings: a written byte string begins with the
escaped form of another one only if the string itself begins with the other.
-/

import Transact.OrderedKey.Field

namespace Transact

namespace Bytes

/-- Of two strings with fronts of one length, the fronts decide unless they are equal. -/
theorem append_lt_append_iff {left right : Bytes} (h : left.length = right.length)
    (behind after : Bytes) :
    left ++ behind < right ++ after ↔ left < right ∨ left = right ∧ behind < after := by
  induction left generalizing right with
  | nil =>
      cases right with
      | nil => simp
      | cons => simp at h
  | cons byte left ih =>
      cases right with
      | nil => simp at h
      | cons other right =>
          simp only [List.length_cons, Nat.add_right_cancel_iff] at h
          simp only [List.cons_append, List.cons_lt_cons_iff, List.cons.injEq, ih h]
          grind

/-- What lies between two strings that begin alike begins like them. -/
theorem head_of_mem_range {head : UInt8} {least greatest bytes : Bytes}
    (hleast : ¬ bytes < head :: least) (hgreatest : ¬ head :: greatest < bytes) :
    [head] <+: bytes := by
  cases bytes with
  | nil => simp at hleast
  | cons first rest =>
      rw [List.cons_lt_cons_iff] at hleast hgreatest
      have hfirst : head = first := by
        apply Std.le_antisymm
        · exact Std.not_lt.mp fun h => hleast (.inl h)
        · exact Std.not_lt.mp fun h => hgreatest (.inl h)
      simp [hfirst]

theorem bigEndian_succ (width n : Nat) :
    bigEndian (width + 1) n = bigEndian width (n / 256) ++ [UInt8.ofNat n] := by
  simp [bigEndian, littleEndian]

/-- Two numbers that fit a width have different layouts. -/
theorem bigEndian_inj {width m n : Nat} (hm : m < Nat.pow 256 width)
    (hn : n < Nat.pow 256 width) : bigEndian width m = bigEndian width n ↔ m = n := by
  refine ⟨fun h => ?_, congrArg _⟩
  have hread := congrArg ofBigEndian h
  rw [ofBigEndian_bigEndian, ofBigEndian_bigEndian, Nat.mod_eq_of_lt hm,
    Nat.mod_eq_of_lt hn] at hread
  exact hread

theorem bigEndian_lt_iff {width m n : Nat} (hm : m < Nat.pow 256 width)
    (hn : n < Nat.pow 256 width) : bigEndian width m < bigEndian width n ↔ m < n := by
  induction width generalizing m n with
  | zero =>
      simp only [Nat.pow_eq, Nat.pow_zero, Nat.lt_one_iff] at hm hn
      simp [hm, hn, bigEndian, littleEndian]
  | succ width ih =>
      rw [Nat.pow_eq, Nat.pow_succ] at hm hn
      rw [Nat.mul_comm] at hm hn
      have hm' : m / 256 < Nat.pow 256 width := Nat.div_lt_of_lt_mul hm
      have hn' : n / 256 < Nat.pow 256 width := Nat.div_lt_of_lt_mul hn
      have hlast : UInt8.ofNat m < UInt8.ofNat n ↔ m % 256 < n % 256 := by
        simp [UInt8.lt_iff_toNat_lt]
      rw [bigEndian_succ, bigEndian_succ, append_lt_append_iff (by simp), ih hm' hn',
        bigEndian_inj hm' hn', List.cons_lt_cons_iff, hlast]
      simp only [List.not_lt_nil, and_false, or_false]
      omega

/-- What was read from bytes is laid out as these bytes. -/
theorem littleEndian_ofLittleEndian (bytes : Bytes) :
    littleEndian bytes.length (ofLittleEndian bytes) = bytes := by
  induction bytes with
  | nil => rfl
  | cons byte rest ih =>
      have hhead : UInt8.ofNat (byte.toNat + 256 * ofLittleEndian rest) = byte := by
        apply UInt8.toNat_inj.mp
        simp
      have htail : (byte.toNat + 256 * ofLittleEndian rest) / 256 = ofLittleEndian rest := by
        have := byte.toNat_lt
        omega
      simp only [ofLittleEndian, List.length_cons, littleEndian, hhead, htail, ih]

theorem bigEndian_ofBigEndian (bytes : Bytes) :
    bigEndian bytes.length (ofBigEndian bytes) = bytes := by
  have h := littleEndian_ofLittleEndian bytes.reverse
  rw [List.length_reverse] at h
  simp [bigEndian, ofBigEndian, h]

end Bytes

namespace OrderedKey

@[simp] theorem bytesField_nil : bytesField [] = [0, 0] := rfl

theorem bytesField_cons (byte : UInt8) (bytes : Bytes) :
    bytesField (byte :: bytes) =
      (if byte = 0 then [0, 0xff] else [byte]) ++ bytesField bytes := by
  simp [bytesField, escape]

/-- A byte string sorts before its extensions and as its bytes say, whatever is written
behind it; what is behind decides only between equal strings. -/
theorem bytesField_append_lt_iff (left right behind after : Bytes) :
    bytesField left ++ behind < bytesField right ++ after ↔
      left < right ∨ left = right ∧ behind < after := by
  induction left generalizing right with
  | nil =>
      cases right with
      | nil => simp
      | cons other right =>
          rw [bytesField_cons]
          by_cases hother : other = 0
          · simp [hother, List.cons_lt_cons_iff]
          · have hpos : 0 < other := UInt8.pos_iff_ne_zero.mpr hother
            simp [hother, List.cons_lt_cons_iff, hpos]
  | cons byte left ih =>
      cases right with
      | nil =>
          rw [bytesField_cons]
          by_cases hbyte : byte = 0
          · simp [hbyte, List.cons_lt_cons_iff]
          · simp [hbyte, List.cons_lt_cons_iff]
      | cons other right =>
          rw [bytesField_cons, bytesField_cons]
          by_cases hbyte : byte = 0 <;> by_cases hother : other = 0
          · simp [hbyte, hother, ih]
          · have hpos : 0 < other := UInt8.pos_iff_ne_zero.mpr hother
            simp [hbyte, hother, List.cons_lt_cons_iff, hpos]
          · simp [hbyte, hother, List.cons_lt_cons_iff]
          · simp only [hbyte, hother, if_false, List.cons_append, List.nil_append,
              List.cons_lt_cons_iff, ih, List.cons.injEq]
            grind

theorem readBytes_cons_of_ne_zero {byte : UInt8} (h : byte ≠ 0) (rest : Bytes) :
    readBytes (byte :: rest) =
      (readBytes rest).map fun found => (byte :: found.1, found.2) := by
  rw [readBytes.eq_def]
  simp [h]

/-- A written byte string is read back, and what is behind it is left. -/
theorem readBytes_bytesField_append (bytes rest : Bytes) :
    readBytes (bytesField bytes ++ rest) = .ok (bytes, rest) := by
  induction bytes with
  | nil => rfl
  | cons byte bytes ih =>
      rw [bytesField_cons]
      by_cases hbyte : byte = 0
      · simp [hbyte, readBytes, ih, Except.map]
      · simp [hbyte, readBytes_cons_of_ne_zero hbyte, ih, Except.map]

/-- Only written byte strings are read. -/
theorem eq_bytesField_of_readBytes {input bytes rest : Bytes}
    (h : readBytes input = .ok (bytes, rest)) : input = bytesField bytes ++ rest := by
  fun_induction readBytes input generalizing bytes with
  | case1 => cases h
  | case2 byte input hbyte ih =>
      cases hread : readBytes input with
      | error => simp [hread, Except.map] at h
      | ok found =>
          obtain ⟨front, behind⟩ := found
          simp only [hread, Except.map, Except.ok.injEq, Prod.mk.injEq] at h
          obtain ⟨rfl, rfl⟩ := h
          rw [bytesField_cons, if_neg hbyte, ih hread]
          rfl
  | case3 => cases h
  | case4 =>
      cases h
      simp_all
  | case5 byte hbyte input hnext ih =>
      cases hread : readBytes input with
      | error => simp [hread, Except.map] at h
      | ok found =>
          obtain ⟨front, behind⟩ := found
          simp only [hread, Except.map, Except.ok.injEq, Prod.mk.injEq] at h
          obtain ⟨rfl, rfl⟩ := h
          rw [bytesField_cons, if_pos rfl, ih hread]
          simp_all
  | case6 => cases h

/-- A written byte string begins with the escaped form of `start` only if the string begins
with `start`: neither its end nor what is behind it can pass for a part of `start`. -/
theorem escape_prefix_bytesField_append_iff (start bytes rest : Bytes) :
    escape start <+: bytesField bytes ++ rest ↔ start <+: bytes := by
  induction start generalizing bytes with
  | nil => simp [escape]
  | cons byte start ih =>
      have hescape : escape (byte :: start) =
          (if byte = 0 then [0, 0xff] else [byte]) ++ escape start := by
        simp [escape]
      rw [hescape]
      cases bytes with
      | nil => by_cases hbyte : byte = 0 <;> simp [hbyte]
      | cons other bytes =>
          rw [bytesField_cons, List.cons_prefix_cons]
          by_cases hbyte : byte = 0 <;> by_cases hother : other = 0
          · simp [hbyte, hother, ih]
          · simp [hbyte, hother, Ne.symm hother]
          · simp [hbyte, hother]
          · simp [hbyte, hother, ih]

/-- Escaped forms begin with one another as the strings do. -/
theorem escape_prefix_escape_iff (start bytes : Bytes) :
    escape start <+: escape bytes ↔ start <+: bytes := by
  constructor
  · intro hescape
    rw [← escape_prefix_bytesField_append_iff start bytes []]
    refine hescape.trans ?_
    rw [bytesField, List.append_assoc]
    apply List.prefix_append
  · rintro ⟨behind, rfl⟩
    rw [escape, escape, List.flatMap_append]
    apply List.prefix_append

end OrderedKey

end Transact
