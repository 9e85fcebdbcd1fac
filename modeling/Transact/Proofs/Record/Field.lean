/-
# Fields are read back

Reading a field undoes writing it, whatever is behind its bytes: the reader
takes the field and stops. So fields in a row are read back one after the other,
and bytes that begin with the fields of two values begin with one value.

What is read may be less than what was written, as where a text spells two
values. Then the reader takes the field as one value, whatever is behind.

A length is written in eight bytes. It is read back when it is below 2⁶⁴, and it
is if the field that it counts is no longer than that, as everything in memory
is: an item takes at least a byte.
-/

import Transact.Proofs.Text.Utf8
import Transact.Record.Field

namespace Transact.Record

variable {α β : Type}

/-- A reader takes the field of a value off the front as another one, and leaves what is behind, if
the field's length can be written. -/
def ReadsAs (field : α → Bytes) (reader : ByteReader β) (x : α) (y : β) : Prop :=
  (field x).length < UInt64.size → ∀ rest, reader (field x ++ rest) = .ok (y, rest)

/-- A reader takes the field of a value off the front and leaves what is behind, if the field's
length can be written. -/
def ReadsBack (field : α → Bytes) (reader : ByteReader α) (x : α) : Prop :=
  (field x).length < UInt64.size → ∀ rest, reader (field x ++ rest) = .ok (x, rest)

/-- Bytes begin with one field only. -/
theorem ReadsBack.append_inj {field : α → Bytes} {reader : ByteReader α} {x y : α}
    (hx : ReadsBack field reader x) (hy : ReadsBack field reader y)
    (hxfits : (field x).length < UInt64.size) (hyfits : (field y).length < UInt64.size)
    {rest others : Bytes} (h : field x ++ rest = field y ++ others) : x = y ∧ rest = others := by
  have hread := hx hxfits rest
  rw [h, hy hyfits others] at hread
  cases hread
  exact ⟨rfl, rfl⟩

theorem ReadsAs.readFront {field : α → Bytes} {reader : ByteReader β} {x : α} {y : β}
    (h : ReadsAs field reader x y) (hfits : (field x).length < UInt64.size) :
    readFront reader (field x) = .ok y := by
  have hread := h hfits []
  rw [List.append_nil] at hread
  rw [Record.readFront, hread]
  rfl

/-! ## Numbers, variants and flags -/

@[simp] theorem length_variantField (index : Nat) : (variantField index).length = 4 := by
  simp [variantField]

@[simp] theorem length_lengthField (length : Nat) : (lengthField length).length = 8 := by
  simp [lengthField]

/-- A number that fits its width is read back. -/
theorem readNat_littleEndian_append {width n : Nat} (hn : n < Nat.pow 256 width) (rest : Bytes) :
    readNat width (Bytes.littleEndian width n ++ rest) = .ok (n, rest) := by
  rw [readNat, ByteReader.bind_eq_ok_iff]
  refine ⟨Bytes.littleEndian width n, rest, ByteReader.take_append (by simp) rest _, ?_⟩
  rw [ByteReader.pure_eq_ok_iff, Bytes.ofLittleEndian_littleEndian, Nat.mod_eq_of_lt hn]
  exact ⟨rfl, rfl⟩

theorem readNat_lengthField_append {length : Nat} (h : length < UInt64.size) (rest : Bytes) :
    readNat 8 (lengthField length ++ rest) = .ok (length, rest) :=
  readNat_littleEndian_append h rest

/-- The number of a variant stands for the choice at its place. -/
theorem readVariant_append {choices : List α} {index : Nat} {choice : α}
    (hindex : index < UInt32.size) (hchoice : choices[index]? = some choice) (rest : Bytes) :
    readVariant choices (variantField index ++ rest) = .ok (choice, rest) := by
  rw [readVariant, ByteReader.bind_eq_ok_iff]
  refine ⟨index, rest, readNat_littleEndian_append hindex rest, ?_⟩
  rw [hchoice]
  rfl

theorem readFlag_append (flag : Bool) (rest : Bytes) :
    readFlag ([if flag then 1 else 0] ++ rest) = .ok (flag, rest) := by
  cases flag <;> rfl

/-! ## Byte strings and texts -/

theorem readsBack_bytes (bytes : Bytes) : ReadsBack bytesField readBytes bytes := by
  intro hfits rest
  have hlength : bytes.length < UInt64.size := by
    simp only [bytesField, List.length_append] at hfits
    omega
  rw [readBytes, ByteReader.bind_eq_ok_iff, bytesField, List.append_assoc]
  exact ⟨bytes.length, _, readNat_lengthField_append hlength _, ByteReader.take_append rfl rest _⟩

theorem readsBack_text (text : String) : ReadsBack textField readText text := by
  intro hfits rest
  rw [readText, ByteReader.bind_eq_ok_iff]
  refine ⟨Utf8.encode text, rest, readsBack_bytes _ hfits rest, ?_⟩
  simp

/-! ## Lists and what may be missing -/

theorem length_le_length_flatMap {field : α → Bytes} {items : List α}
    (h : ∀ x ∈ items, 0 < (field x).length) : items.length ≤ (items.flatMap field).length := by
  induction items with
  | nil => exact Nat.le_refl 0
  | cons x items ih =>
      have hx := h x List.mem_cons_self
      have hitems := ih fun y hy => h y (List.mem_cons_of_mem _ hy)
      simp only [List.flatMap_cons, List.length_append, List.length_cons]
      omega

theorem length_le_length_flatMap_of_mem (field : α → Bytes) {items : List α} {x : α}
    (h : x ∈ items) : (field x).length ≤ (items.flatMap field).length := by
  obtain ⟨front, back, rfl⟩ := List.append_of_mem h
  simp only [List.flatMap_append, List.flatMap_cons, List.length_append]
  omega

theorem readMany_append {field : α → Bytes} {reader : ByteReader β} {f : α → β} {items : List α}
    (h : ∀ x ∈ items, ∀ rest, reader (field x ++ rest) = .ok (f x, rest)) (rest : Bytes) :
    readMany reader items.length (items.flatMap field ++ rest) = .ok (items.map f, rest) := by
  induction items with
  | nil => rfl
  | cons x items ih =>
      have hitems := ih fun y hy => h y (List.mem_cons_of_mem _ hy)
      rw [List.length_cons, readMany, ByteReader.bind_eq_ok_iff, List.flatMap_cons,
        List.append_assoc]
      refine ⟨f x, items.flatMap field ++ rest, h x List.mem_cons_self _, ?_⟩
      rw [ByteReader.bind_eq_ok_iff]
      exact ⟨items.map f, rest, hitems, rfl⟩

/-- A list is read if each of its items is and takes at least a byte. -/
theorem readsAs_list {field : α → Bytes} {reader : ByteReader β} {f : α → β} {items : List α}
    (hitems : ∀ x ∈ items, 0 < (field x).length)
    (h : ∀ x ∈ items, ReadsAs field reader x (f x)) :
    ReadsAs (listField field) (readList reader) items (items.map f) := by
  intro hfits rest
  rw [listField, List.length_append] at hfits
  have hlength : items.length < UInt64.size := by
    have hle := length_le_length_flatMap hitems
    omega
  have hback : ∀ x ∈ items, ∀ rest, reader (field x ++ rest) = .ok (f x, rest) := by
    intro x hx
    have hle := length_le_length_flatMap_of_mem field hx
    exact h x hx (by omega)
  rw [readList, ByteReader.bind_eq_ok_iff, listField, List.append_assoc]
  exact ⟨items.length, _, readNat_lengthField_append hlength _, readMany_append hback rest⟩

theorem readsAs_option {field : α → Bytes} {reader : ByteReader β} {f : α → β} {item : Option α}
    (h : ∀ x, item = some x → ReadsAs field reader x (f x)) :
    ReadsAs (optionField field) (readOption reader) item (item.map f) := by
  intro hfits rest
  cases item with
  | none => rfl
  | some x =>
      rw [optionField, List.length_cons] at hfits
      have hback := h x rfl (by omega) rest
      simp [optionField, readOption, hback, Except.map]

end Transact.Record
