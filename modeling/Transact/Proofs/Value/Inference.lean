/-
# Inferred types

A value can be stored as a type when it is held in the way of the type, alone or in an
array, and every datum in it is of the type's element type. Nothing else is asked.

The inferred type is that of the first datum, and the others are not looked at. That is
enough: no other type can take the value, so if a datum of another type follows, no type
can take it at all. Where there is no datum nothing is inferred, and the value can be
stored as each type that it is held in the way of; which ones these are only the form of
its null tells.
-/

import Transact.Proofs.Value.Target

namespace Transact

/-- A type is known by its form and its element type. -/
theorem DataType.eq_of_element_eq {type other : DataType} (harray : type.isArray = other.isArray)
    (helement : type.element = other.element) : type = other := by
  cases type with
  | scalar element =>
      cases other with
      | scalar own => exact congrArg DataType.scalar helement
      | array own => cases harray
  | array element =>
      cases other with
      | scalar own => cases harray
      | array own => exact congrArg DataType.array helement

namespace Native

variable {native : Native} {type other : DataType}

/-- A value is held in the way of a type, alone or in an array. The untyped null is held in the way
of every type. -/
def HeldAs (native : Native) (type : DataType) : Prop :=
  match native with
  | .null => True
  | .scalar _ | .nullableScalar _ => type.isArray = false
  | .denseArray _ | .nullableArray _ => type.isArray = true

/-! ## What can be stored -/

/-- What is stored is held in the way of the type that it is stored as. -/
theorem StoredAs.heldAs {value : Value} (hstored : native.StoredAs type value) :
    native.HeldAs type := by
  cases hstored with
  | null => trivial
  | _ => rfl

/-- Held in the way of a type, a value has a shape of this type. -/
theorem HeldAs.dataType_shape (hheld : native.HeldAs type) :
    (native.shape type).dataType = type := by
  cases type with
  | scalar element =>
      cases native with
      | denseArray items => cases hheld
      | nullableArray items => cases hheld
      | _ => rfl
  | array element =>
      cases native with
      | scalar datum => cases hheld
      | nullableScalar datum => cases hheld
      | _ => rfl

/-- To have the shape in which it is stored, a value needs data of the element type. -/
theorem hasShape_shape_iff (hnull : native ≠ .null) :
    native.HasShape (native.shape type) ↔ ∀ datum ∈ native.data, datum.type = type.element := by
  cases native with
  | null => exact absurd rfl hnull
  | scalar datum => simp [HasShape, shape, data]
  | nullableScalar datum => simp [HasShape, shape, data]
  | denseArray items => cases items <;> simp [HasShape, shape, data]
  | nullableArray items => cases items <;> simp [HasShape, shape, data, List.reduceOption_mem_iff]

/-- A value can be stored as the types that it is held in the way of and that all of its data
have. -/
theorem exists_encode_iff :
    (∃ value, native.encode type = .ok value) ↔
      native.HeldAs type ∧ ∀ datum ∈ native.data, datum.type = type.element := by
  by_cases hnull : native = .null
  · subst hnull
    simp [encode, HeldAs, data]
  · rw [← hasShape_shape_iff hnull]
    constructor
    · rintro ⟨value, hvalue⟩
      have hstored := storedAs_of_encode hvalue
      exact ⟨hstored.heldAs, hstored.hasShape hnull⟩
    · rintro ⟨hheld, hshape⟩
      have hencode := hshape.exists_encode
      rwa [hheld.dataType_shape] at hencode

/-! ## What is inferred -/

/-- Something is inferred wherever there is a datum. -/
theorem inferType?_eq_none_iff : native.inferType? = none ↔ native.data = [] := by
  cases native with
  | null => simp [inferType?, data]
  | scalar datum => simp [inferType?, data]
  | nullableScalar datum => cases datum <;> simp [inferType?, data]
  | denseArray items => cases items <;> simp [inferType?, data]
  | nullableArray items => cases items <;> simp [inferType?, data, List.reduceOption]

/-- The inferred type has the way in which the value is held and the element type of one of its
data. -/
theorem heldAs_of_inferType? (h : native.inferType? = some type) :
    native ≠ .null ∧ native.HeldAs type ∧ ∃ datum ∈ native.data, datum.type = type.element := by
  cases native with
  | null => cases h
  | scalar datum =>
      cases h
      exact ⟨nofun, rfl, datum, List.mem_singleton_self datum, rfl⟩
  | nullableScalar datum =>
      cases datum with
      | none => cases h
      | some datum =>
          cases h
          exact ⟨nofun, rfl, datum, List.mem_singleton_self datum, rfl⟩
  | denseArray items =>
      cases items with
      | none => cases h
      | some items =>
          obtain ⟨datum, hfirst, rfl⟩ := Option.map_eq_some_iff.mp h
          exact ⟨nofun, rfl, datum, List.mem_of_head? hfirst, rfl⟩
  | nullableArray items =>
      cases items with
      | none => cases h
      | some items =>
          obtain ⟨datum, hfirst, rfl⟩ := Option.map_eq_some_iff.mp h
          obtain ⟨item, hitem, hdatum⟩ := List.exists_of_findSome?_eq_some hfirst
          have hmem : some datum ∈ items := hdatum ▸ hitem
          exact ⟨nofun, rfl, datum, List.reduceOption_mem_iff.mpr hmem, rfl⟩

/-- The way in which a value is held and an element type make one type. -/
theorem HeldAs.eq (hnull : native ≠ .null) (hheld : native.HeldAs type)
    (hother : native.HeldAs other) (helement : type.element = other.element) : type = other := by
  refine DataType.eq_of_element_eq ?_ helement
  cases native with
  | null => exact absurd rfl hnull
  | _ => exact hheld.trans hother.symm

/-- The values without data: the nulls, and the arrays of nothing or of nulls. -/
theorem cases_of_data_eq_nil (h : native.data = []) :
    native = .null ∨ native = .nullableScalar none ∨ native = .denseArray none ∨
      native = .denseArray (some []) ∨ native = .nullableArray none ∨
      ∃ count, native = .nullableArray (some (List.replicate count none)) := by
  cases native with
  | null => simp
  | scalar datum => cases h
  | nullableScalar datum =>
      cases datum with
      | none => simp
      | some datum => cases h
  | denseArray items =>
      cases items with
      | none => simp
      | some items =>
          cases h
          simp
  | nullableArray items =>
      cases items with
      | none => simp
      | some items =>
          have hnone : ∀ item ∈ items, item = none := List.filterMap_eq_nil_iff.mp h
          refine .inr (.inr (.inr (.inr (.inr ⟨items.length, ?_⟩))))
          rw [← List.eq_replicate_of_mem hnone]

/-- The inferred type is the only one that can take the value, and it does if all data have its
element type. Nothing is inferred only where there is no datum: then the untyped null can be stored
as every type, a null scalar as every scalar type, and an array that is absent, empty or of nulls
only as every array type. -/
theorem inferType?_principal (native : Native) :
    (∀ type, native.inferType? = some type →
      (∀ other, (∃ value, native.encode other = .ok value) → other = type) ∧
      ((∃ value, native.encode type = .ok value) ↔
        ∀ datum ∈ native.data, datum.type = type.element)) ∧
    (native.inferType? = none → native.data = [] ∧
      ((native = .null ∧ ∀ type, ∃ value, native.encode type = .ok value) ∨
      (native = .nullableScalar none ∧
        ∀ type, (∃ value, native.encode type = .ok value) ↔ type.isArray = false) ∨
      ((native = .denseArray none ∨ native = .denseArray (some []) ∨
          native = .nullableArray none ∨
          ∃ count, native = .nullableArray (some (List.replicate count none))) ∧
        ∀ type, (∃ value, native.encode type = .ok value) ↔ type.isArray = true))) := by
  constructor
  · intro type htype
    obtain ⟨hnull, hheld, datum, hdatum, helement⟩ := heldAs_of_inferType? htype
    constructor
    · intro other hother
      obtain ⟨hotherHeld, hdata⟩ := exists_encode_iff.mp hother
      exact hotherHeld.eq hnull hheld ((hdata datum hdatum).symm.trans helement)
    · rw [exists_encode_iff, and_iff_right hheld]
  · intro hnone
    have hdata := inferType?_eq_none_iff.mp hnone
    have hencode (type : DataType) :
        (∃ value, native.encode type = .ok value) ↔ native.HeldAs type := by
      simp [exists_encode_iff, hdata]
    refine ⟨hdata, ?_⟩
    simp only [hencode]
    rcases cases_of_data_eq_nil hdata with rfl | rfl | hempty
    · exact .inl ⟨rfl, fun _ => trivial⟩
    · exact .inr (.inl ⟨rfl, fun _ => Iff.rfl⟩)
    · refine .inr (.inr ⟨hempty, fun type => ?_⟩)
      rcases hempty with rfl | rfl | rfl | ⟨count, rfl⟩ <;> rfl

/-- The type of the first datum is inferred, although the array can be stored as no type. -/
example :
    let mixed := Native.nullableArray (some [none, some ⟨.int64, 1⟩, some ⟨.bool, true⟩])
    mixed.inferType? = some (.array .int64) ∧ (mixed.encode (.array .int64)).isOk = false := by
  decide +kernel

end Native

end Transact
