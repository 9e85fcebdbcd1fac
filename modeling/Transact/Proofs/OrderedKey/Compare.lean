/-
# Keys sort as their values do

`Item.compare` is the logical order on the items of one schema: numbers by
value, texts and byte strings byte by byte, rows field by field, variants by
number and then by what they hold. Comparing the bytes of two items of a schema
gives the same result.

Written items end nowhere in particular, and the next field follows at once. So
the induction compares items with any bytes behind them: what is behind decides
only between equal items. This is what each field contributes, and rows only put
it together.
-/

import Transact.Proofs.OrderedKey.Order
import Transact.Proofs.OrderedKey.Typing

namespace Transact

namespace Bytes

/-- Strings compare as they are ordered. -/
theorem compare_eq_lt_iff {left right : Bytes} : compare left right = .lt ↔ left < right := by
  induction left generalizing right with
  | nil => cases right <;> simp [List.compare_nil_cons]
  | cons byte left ih =>
      cases right with
      | nil => simp [List.compare_cons_nil]
      | cons other right =>
          rw [List.compare_cons_cons, Ordering.then_eq_lt, ih, List.cons_lt_cons_iff,
            Std.compare_eq_lt, Std.LawfulEqOrd.compare_eq_iff_eq]

/-- A comparison is known from the strict order in both directions. -/
theorem compare_eq_of_lt_iff {left right : Bytes} {order : Ordering}
    (hlt : left < right ↔ order = .lt) (hgt : right < left ↔ order.swap = .lt) :
    compare left right = order := by
  rw [← compare_eq_lt_iff] at hlt hgt
  rw [Std.OrientedOrd.eq_swap] at hgt
  cases order <;> cases hcompare : compare left right <;> simp_all

/-- Of two strings with fronts of one length, the fronts decide unless they are equal. -/
theorem compare_append {left right : Bytes} (h : left.length = right.length)
    (behind after : Bytes) :
    compare (left ++ behind) (right ++ after) =
      (compare left right).then (compare behind after) := by
  induction left generalizing right with
  | nil =>
      cases right with
      | nil => rfl
      | cons => cases h
  | cons byte left ih =>
      cases right with
      | nil => cases h
      | cons other right =>
          simp only [List.cons_append, List.compare_cons_cons, ih (Nat.succ.inj h),
            Ordering.then_assoc]

/-- Numbers that fit a width compare as their layouts do, whatever is behind. -/
theorem compare_bigEndian_append {width m n : Nat} (hm : m < Nat.pow 256 width)
    (hn : n < Nat.pow 256 width) (behind after : Bytes) :
    compare (bigEndian width m ++ behind) (bigEndian width n ++ after) =
      (compare m n).then (compare behind after) := by
  have hnumbers : compare (bigEndian width m) (bigEndian width n) = compare m n := by
    apply compare_eq_of_lt_iff
    · rw [bigEndian_lt_iff hm hn, Nat.compare_eq_lt]
    · rw [bigEndian_lt_iff hn hm, ← Std.OrientedOrd.eq_swap, Nat.compare_eq_lt]
  rw [compare_append (by simp), hnumbers]

end Bytes

namespace OrderedKey

/-! ## The order of values -/

/-- The number of a variant. -/
def Item.index? : Item → Option Nat
  | .unitVariant index | .newtypeVariant index _ | .tupleVariant index _ => some index.toNat
  | _ => none

mutual

/-- How two items of one schema compare as values. Variants that hold different things have
different numbers, and items that hold nothing are equal. -/
def Item.compare : Item → Item → Ordering
  | .bool left, .bool right => Ord.compare left right
  | .uint8 left, .uint8 right => Ord.compare left.toNat right.toNat
  | .uint16 left, .uint16 right => Ord.compare left.toNat right.toNat
  | .uint32 left, .uint32 right => Ord.compare left.toNat right.toNat
  | .uint64 left, .uint64 right => Ord.compare left.toNat right.toNat
  | .int64 left, .int64 right => Ord.compare left.toInt right.toInt
  | .text left, .text right => Ord.compare (Utf8.encode left) (Utf8.encode right)
  | .bytes left, .bytes right => Ord.compare left right
  | .newtypeStruct left, .newtypeStruct right => left.compare right
  | .fields _ left, .fields _ right => compareFields left right
  | .newtypeVariant index left, .newtypeVariant other right =>
    (Ord.compare index.toNat other.toNat).then (left.compare right)
  | .tupleVariant index left, .tupleVariant other right =>
    (Ord.compare index.toNat other.toNat).then (compareFields left right)
  | left, right => Ord.compare left.index? right.index?

/-- How two rows compare: the first field that differs decides. -/
def compareFields : List Item → List Item → Ordering
  | left :: lefts, right :: rights => (left.compare right).then (compareFields lefts rights)
  | [], [] => .eq
  | [], _ :: _ => .lt
  | _ :: _, [] => .gt

end

/-! ## Single fields -/

theorem compare_bool_append (left right : Bool) (behind after : Bytes) :
    compare ([if left then (1 : UInt8) else 0] ++ behind)
        ([if right then (1 : UInt8) else 0] ++ after) =
      (compare left right).then (compare behind after) := by
  rw [Bytes.compare_append (by simp)]
  cases left <;> cases right <;> rfl

theorem compare_byte_append (left right : UInt8) (behind after : Bytes) :
    compare ([left] ++ behind) ([right] ++ after) =
      (compare left.toNat right.toNat).then (compare behind after) := by
  have hbyte : compare left right = compare left.toNat right.toNat := by
    simp only [compare, compareOfLessAndEq, UInt8.lt_iff_toNat_lt, UInt8.toNat_inj]
  rw [List.singleton_append, List.singleton_append, List.compare_cons_cons, hbyte]

/-- Signed numbers are counted from the least one, so they compare as unsigned ones. -/
theorem compare_int64Field_append (left right : Int64) (behind after : Bytes) :
    compare (int64Field left ++ behind) (int64Field right ++ after) =
      (compare left.toInt right.toInt).then (compare behind after) := by
  have hleft := left.le_toInt
  have hleft' := left.toInt_lt
  have hright := right.le_toInt
  have hright' := right.toInt_lt
  have hlt : (left.toInt + 0x8000000000000000).toNat < (right.toInt + 0x8000000000000000).toNat ↔
      left.toInt < right.toInt := by omega
  have heq : (left.toInt + 0x8000000000000000).toNat = (right.toInt + 0x8000000000000000).toNat ↔
      left.toInt = right.toInt := by omega
  have hcounted : compare (left.toInt + 0x8000000000000000).toNat
      (right.toInt + 0x8000000000000000).toNat = compare left.toInt right.toInt := by
    simp only [compare, compareOfLessAndEq, hlt, heq]
  rw [int64Field, int64Field, Bytes.compare_bigEndian_append, hcounted]
  · show _ < 256 ^ 8
    omega
  · show _ < 256 ^ 8
    omega

theorem compare_bytesField_append (left right : Bytes) (behind after : Bytes) :
    compare (bytesField left ++ behind) (bytesField right ++ after) =
      (compare left right).then (compare behind after) := by
  apply Bytes.compare_eq_of_lt_iff
  · rw [bytesField_append_lt_iff, Ordering.then_eq_lt, Bytes.compare_eq_lt_iff,
      Bytes.compare_eq_lt_iff, Std.LawfulEqOrd.compare_eq_iff_eq]
  · rw [bytesField_append_lt_iff, Ordering.swap_then, ← Std.OrientedOrd.eq_swap,
      ← Std.OrientedOrd.eq_swap, Ordering.then_eq_lt, Bytes.compare_eq_lt_iff,
      Bytes.compare_eq_lt_iff, Std.LawfulEqOrd.compare_eq_iff_eq]

/-! ## Variants -/

/-- A written variant begins with its number. -/
theorem encode_choice {variants : List Variant} {item : Item} {bytes : Bytes}
    (h : item.HasSchema (.choice variants)) (hencode : item.encode = .ok bytes) :
    ∃ index : UInt8, item.index? = some index.toNat ∧ ∃ rest, bytes = index :: rest := by
  cases h with
  | unitVariant hvariant =>
      obtain ⟨hindex, rfl⟩ := variantByte_eq_ok_iff.mp (by simpa only [Item.encode] using hencode)
      exact ⟨_, by simp only [Item.index?, toNat_toUInt8_of_lt hindex], [], rfl⟩
  | newtypeVariant hvariant hitem =>
      obtain ⟨hindex, rest, _, rfl⟩ := encode_newtypeVariant_eq_ok_iff.mp hencode
      exact ⟨_, by simp only [Item.index?, toNat_toUInt8_of_lt hindex], rest, rfl⟩
  | tupleVariant hvariant hitems =>
      obtain ⟨hindex, rest, _, rfl⟩ := encode_tupleVariant_eq_ok_iff.mp hencode
      exact ⟨_, by simp only [Item.index?, toNat_toUInt8_of_lt hindex], rest, rfl⟩

theorem then_eq_left {first second : Ordering} (h : first ≠ .eq) : first.then second = first := by
  cases first with
  | lt => rfl
  | eq => exact absurd rfl h
  | gt => rfl

/-- Variants of different numbers compare by their numbers, whatever they hold. -/
theorem compare_of_index? {left right : Item} {index other : Nat}
    (hleft : left.index? = some index) (hright : right.index? = some other)
    (hne : compare index other ≠ .eq) : left.compare right = compare index other := by
  cases left <;> cases hleft <;> cases right <;> cases hright <;>
    simp only [Item.compare, then_eq_left hne] <;> rfl

/-- Variants of one choice compare by their numbers; only for equal numbers does it matter what
they hold. -/
theorem compare_choice_append {variants : List Variant} {left right : Item} {front back : Bytes}
    (hleft : left.HasSchema (.choice variants)) (hright : right.HasSchema (.choice variants))
    (hfront : left.encode = .ok front) (hback : right.encode = .ok back) {behind after : Bytes}
    (hcontent : left.index? = right.index? →
      compare (front.tail ++ behind) (back.tail ++ after) =
        (left.compare right).then (compare behind after)) :
    compare (front ++ behind) (back ++ after) =
      (left.compare right).then (compare behind after) := by
  obtain ⟨index, hindex, front, rfl⟩ := encode_choice hleft hfront
  obtain ⟨other, hother, back, rfl⟩ := encode_choice hright hback
  have hnumbers := compare_byte_append index other (front ++ behind) (back ++ after)
  by_cases heq : index = other
  · subst heq
    have hequal : compare index.toNat index.toNat = .eq := Std.ReflOrd.compare_self
    rw [hequal] at hnumbers
    exact hnumbers.trans (hcontent (hindex.trans hother.symm))
  · have hne : compare index.toNat other.toNat ≠ .eq := by
      simpa [UInt8.toNat_inj] using heq
    rw [compare_of_index? hindex hother hne, then_eq_left hne]
    exact hnumbers.trans (then_eq_left hne)

/-- At one number a choice has one variant. -/
theorem eq_of_index_eq {variants : List Variant} {index other : UInt32} {left right : Variant}
    (hindex : some index.toNat = some other.toNat) (hleft : variants[index.toNat]? = some left)
    (hright : variants[other.toNat]? = some right) : left = right := by
  rw [Option.some.inj hindex] at hleft
  exact Option.some.inj (hleft.symm.trans hright)

/-! ## Whole items -/

mutual

/-- Written items compare as the items do, and what is behind them decides between equal ones. -/
theorem compare_encode_append (left : Item) {right : Item} {schema : Schema}
    (hleft : left.HasSchema schema) (hright : right.HasSchema schema) {front back : Bytes}
    (hfront : left.encode = .ok front) (hback : right.encode = .ok back) (behind after : Bytes) :
    compare (front ++ behind) (back ++ after) =
      (left.compare right).then (compare behind after) := by
  cases left with
  | bool value =>
      cases hleft
      cases hright
      cases hfront
      cases hback
      exact compare_bool_append ..
  | uint8 value =>
      cases hleft
      cases hright
      cases hfront
      cases hback
      exact compare_byte_append ..
  | uint16 value =>
      cases hleft
      cases hright
      cases hfront
      cases hback
      exact Bytes.compare_bigEndian_append value.toNat_lt (UInt16.toNat_lt _) ..
  | uint32 value =>
      cases hleft
      cases hright
      cases hfront
      cases hback
      exact Bytes.compare_bigEndian_append value.toNat_lt (UInt32.toNat_lt _) ..
  | uint64 value =>
      cases hleft
      cases hright
      cases hfront
      cases hback
      exact Bytes.compare_bigEndian_append value.toNat_lt (UInt64.toNat_lt _) ..
  | int64 value =>
      cases hleft
      cases hright
      cases hfront
      cases hback
      exact compare_int64Field_append ..
  | text value =>
      cases hleft
      cases hright
      cases hfront
      cases hback
      exact compare_bytesField_append ..
  | bytes value =>
      cases hleft
      cases hright
      cases hfront
      cases hback
      exact compare_bytesField_append ..
  | unit =>
      cases hleft
      cases hright
      cases hfront
      cases hback
      rfl
  | unitStruct =>
      cases hleft
      cases hright
      cases hfront
      cases hback
      rfl
  | newtypeStruct item =>
      cases hleft with | newtypeStruct hitem =>
      cases hright with | newtypeStruct hother =>
      rw [Item.encode] at hfront hback
      rw [Item.compare]
      exact compare_encode_append item hitem hother hfront hback behind after
  | fields grouping items =>
      cases hleft with | fields _ hitems =>
      cases hright with | fields _ hothers =>
      rw [Item.encode] at hfront hback
      rw [Item.compare]
      exact compare_encodeFields_append items hitems hothers hfront hback behind after
  | unitVariant index =>
      cases hleft with | unitVariant hvariant =>
      apply compare_choice_append (.unitVariant hvariant) hright hfront hback
      intro hindex
      cases hright with
      | unitVariant hother =>
          rw [Item.encode, variantByte_eq_ok_iff] at hfront hback
          have hequal : (Item.unitVariant index).compare (.unitVariant _) = .eq :=
            Std.LawfulEqOrd.compare_eq_iff_eq.mpr hindex
          rw [hfront.2, hback.2, hequal]
          rfl
      | newtypeVariant hother _ | tupleVariant hother _ =>
          cases eq_of_index_eq hindex hvariant hother
  | newtypeVariant index item =>
      cases hleft with | newtypeVariant hvariant hitem =>
      apply compare_choice_append (.newtypeVariant hvariant hitem) hright hfront hback
      intro hindex
      cases hright with
      | newtypeVariant hother hcontent =>
          obtain ⟨_, held, hheld, rfl⟩ := encode_newtypeVariant_eq_ok_iff.mp hfront
          obtain ⟨_, own, hown, rfl⟩ := encode_newtypeVariant_eq_ok_iff.mp hback
          cases eq_of_index_eq hindex hvariant hother
          rw [Item.compare, Std.LawfulEqOrd.compare_eq_iff_eq.mpr (Option.some.inj hindex)]
          exact compare_encode_append item hitem hcontent hheld hown behind after
      | unitVariant hother | tupleVariant hother _ =>
          cases eq_of_index_eq hindex hvariant hother
  | tupleVariant index items =>
      cases hleft with | tupleVariant hvariant hitems =>
      apply compare_choice_append (.tupleVariant hvariant hitems) hright hfront hback
      intro hindex
      cases hright with
      | tupleVariant hother hcontents =>
          obtain ⟨_, held, hheld, rfl⟩ := encode_tupleVariant_eq_ok_iff.mp hfront
          obtain ⟨_, own, hown, rfl⟩ := encode_tupleVariant_eq_ok_iff.mp hback
          cases eq_of_index_eq hindex hvariant hother
          rw [Item.compare, Std.LawfulEqOrd.compare_eq_iff_eq.mpr (Option.some.inj hindex)]
          exact compare_encodeFields_append items hitems hcontents hheld hown behind after
      | unitVariant hother | newtypeVariant hother _ =>
          cases eq_of_index_eq hindex hvariant hother
  | unsupported => cases hleft

theorem compare_encodeFields_append (lefts : List Item) {rights : List Item}
    {schemas : List Schema} (hlefts : FieldsHaveSchemas lefts schemas)
    (hrights : FieldsHaveSchemas rights schemas) {front back : Bytes}
    (hfront : encodeFields lefts = .ok front) (hback : encodeFields rights = .ok back)
    (behind after : Bytes) :
    compare (front ++ behind) (back ++ after) =
      (compareFields lefts rights).then (compare behind after) := by
  cases lefts with
  | nil =>
      cases hlefts
      cases hrights
      cases hfront
      cases hback
      rfl
  | cons left lefts =>
      cases hlefts with | cons hleft hlefts =>
      cases hrights with | cons hright hrights =>
      obtain ⟨first, hfirst, more, hmore, rfl⟩ := encodeFields_cons_eq_ok_iff.mp hfront
      obtain ⟨other, hother, others, hothers, rfl⟩ := encodeFields_cons_eq_ok_iff.mp hback
      rw [List.append_assoc, List.append_assoc,
        compare_encode_append left hleft hright hfirst hother,
        compare_encodeFields_append lefts hlefts hrights hmore hothers, compareFields,
        Ordering.then_assoc]

end

/-- The bytes of two items of one schema compare as the items do. -/
theorem compare_encode {schema : Schema} {left right : Item} {front back : Bytes}
    (hleft : left.HasSchema schema) (hright : right.HasSchema schema)
    (hfront : left.encode = .ok front) (hback : right.encode = .ok back) :
    compare front back = left.compare right := by
  have h := compare_encode_append left hleft hright hfront hback [] []
  rw [List.append_nil, List.append_nil] at h
  exact h.trans Ordering.then_eq

/-- Zeros in a byte string neither end it nor move what follows: the string that goes on is
greater, although the number behind it is less. -/
theorem compare_encode_zeros :
    let schema : Schema := .fields .struct [.text, .choice [.unit, .tuple [.bytes, .int64]]]
    let left : Item := .fields .struct [.text "a", .tupleVariant 1 [.bytes [0, 0xff], .int64 5]]
    let right : Item :=
      .fields .struct [.text "a", .tupleVariant 1 [.bytes [0, 0xff, 0], .int64 (-5)]]
    let front : Bytes := [97, 0, 0, 1, 0, 255, 255, 0, 0, 128, 0, 0, 0, 0, 0, 0, 5]
    let back : Bytes :=
      [97, 0, 0, 1, 0, 255, 255, 0, 255, 0, 0, 127, 255, 255, 255, 255, 255, 255, 251]
    left.HasSchema schema ∧ right.HasSchema schema ∧ left.encode = .ok front ∧
      right.encode = .ok back ∧ compare front back = left.compare right ∧
      left.compare right = .lt := by
  intro schema left right front back
  have hleft : left.HasSchema schema :=
    .fields (by decide) (.cons (.text "a") (.cons (.tupleVariant rfl
      (.cons (.bytes _) (.cons (.int64 _) .nil))) .nil))
  have hright : right.HasSchema schema :=
    .fields (by decide) (.cons (.text "a") (.cons (.tupleVariant rfl
      (.cons (.bytes _) (.cons (.int64 _) .nil))) .nil))
  have hfront : left.encode = .ok front := by rfl
  have hback : right.encode = .ok back := by rfl
  exact ⟨hleft, hright, hfront, hback, compare_encode hleft hright hfront hback, by rfl⟩

end OrderedKey

end Transact
