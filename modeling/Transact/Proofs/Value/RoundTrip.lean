/-
# Values are read back as they were stored

Storing a value as a type and reading it in its own shape gives the same value:
the null of a scalar, the null array, the empty array and an array of nulls stay
apart, floats keep their bits and decimals their scale. There are two exceptions,
and both are about the shape and not about the data. The untyped null has no
shape of its own, so it comes back as the null of its type. An array without
nulls of a type that has no dense form cannot be asked for at all.

JSON is stored as a text, and a value is only as good as its text: that a text
is read as the value it was written from is assumed here of each JSON value.
-/

import Mathlib.Data.List.ReduceOption
import Transact.Call
import Transact.Value.Codec

namespace Transact

/-! ## Single data -/

/-- The text that is written for a JSON datum is read as this datum again. -/
def Datum.KeepsJson (datum : Datum) : Prop :=
  ∀ json : Json, datum = ⟨.json, json⟩ → Json.parse? json.render = some json

theorem Datum.encode_eq_ok_iff {element : ElementType} {datum : Datum} {scalar : WireScalar} :
    datum.encode element = .ok scalar ↔
      datum.type = element ∧ datum.mapJson Json.render = scalar := by
  rw [Datum.encode]
  split <;> simp_all

/-- A datum that is stored has the type that it is stored as. -/
theorem Datum.type_of_encode {element : ElementType} {datum : Datum} {scalar : WireScalar}
    (hencode : datum.encode element = .ok scalar) : scalar.type = element := by
  obtain ⟨htype, rfl⟩ := Datum.encode_eq_ok_iff.mp hencode
  rw [Scalar.type_mapJson, htype]

theorem Datum.mapJson?_mapJson_render {datum : Datum} (hjson : datum.KeepsJson) :
    (datum.mapJson Json.render).mapJson? Json.parse? = some datum := by
  obtain ⟨type, payload⟩ := datum
  cases type with
  | json =>
      show (Json.parse? (Json.render payload)).map _ = _
      rw [hjson payload rfl]
      rfl
  | _ => rfl

/-- A stored datum is read back. -/
theorem WireScalar.decode_of_encode {element : ElementType} {datum : Datum} {scalar : WireScalar}
    (hencode : datum.encode element = .ok scalar) (hjson : datum.KeepsJson) :
    scalar.decode = .ok datum := by
  obtain ⟨-, rfl⟩ := Datum.encode_eq_ok_iff.mp hencode
  rw [WireScalar.decode, Datum.mapJson?_mapJson_render hjson]

/-- A datum that is stored in an array is read back at any position. -/
theorem WireScalar.decodeElement_of_encode {element : ElementType} {datum : Datum}
    {scalar : WireScalar} (hencode : datum.encode element = .ok scalar)
    (hjson : datum.KeepsJson) (index : Nat) :
    scalar.decodeElement element index = .ok datum := by
  rw [WireScalar.decodeElement, if_pos (Datum.type_of_encode hencode),
    WireScalar.decode_of_encode hencode hjson]

/-! ## Arrays -/

namespace Value

/-- A stored array without nulls is read back, from any position on. -/
theorem decodeDense_of_encodeItems {element : ElementType} {items : List Datum}
    {stored : List (Option WireScalar)} (hencode : Native.encodeItems element items = .ok stored)
    (hjson : ∀ datum ∈ items, datum.KeepsJson) (index : Nat) :
    decodeDense element index stored = .ok items := by
  induction items generalizing stored index with
  | nil =>
      cases hencode
      rfl
  | cons datum items ih =>
      obtain ⟨scalar, hscalar, hrest⟩ := Except.bind_eq_ok_iff.mp hencode
      obtain ⟨rest, hitems, hstored⟩ := Except.bind_eq_ok_iff.mp hrest
      cases hstored
      have hfirst := WireScalar.decodeElement_of_encode hscalar
        (hjson datum List.mem_cons_self) index
      have hothers := ih hitems (fun other hother => hjson other (List.mem_cons_of_mem _ hother))
        (index + 1)
      rw [decodeDense, Except.bind_eq_ok_iff]
      refine ⟨datum, hfirst, ?_⟩
      rw [Except.bind_eq_ok_iff]
      exact ⟨items, hothers, rfl⟩

/-- A stored array is read back with its nulls, from any position on. -/
theorem decodeNullable_of_encodeNullableItems {element : ElementType}
    {items : List (Option Datum)} {stored : List (Option WireScalar)}
    (hencode : Native.encodeNullableItems element items = .ok stored)
    (hjson : ∀ datum, some datum ∈ items → datum.KeepsJson) (index : Nat) :
    decodeNullable element index stored = .ok items := by
  induction items generalizing stored index with
  | nil =>
      cases hencode
      rfl
  | cons item items ih =>
      have hothers {rest : List (Option WireScalar)}
          (hrest : Native.encodeNullableItems element items = .ok rest) :
          decodeNullable element (index + 1) rest = .ok items :=
        ih hrest (fun other hother => hjson other (List.mem_cons_of_mem _ hother)) (index + 1)
      cases item with
      | none =>
          obtain ⟨rest, hrest, hstored⟩ := Except.bind_eq_ok_iff.mp hencode
          cases hstored
          rw [decodeNullable, Except.bind_eq_ok_iff]
          exact ⟨items, hothers hrest, rfl⟩
      | some datum =>
          obtain ⟨scalar, hscalar, htail⟩ := Except.bind_eq_ok_iff.mp hencode
          obtain ⟨rest, hrest, hstored⟩ := Except.bind_eq_ok_iff.mp htail
          cases hstored
          have hfirst := WireScalar.decodeElement_of_encode hscalar
            (hjson datum List.mem_cons_self) index
          rw [decodeNullable, Except.bind_eq_ok_iff]
          refine ⟨datum, hfirst, ?_⟩
          rw [Except.bind_eq_ok_iff]
          exact ⟨items, hothers hrest, rfl⟩

end Value

/-! ## Whole values -/

namespace Native

/-- The data of a value, without its nulls. -/
def data : Native → List Datum
  | .null => []
  | .scalar datum => [datum]
  | .nullableScalar datum => datum.toList
  | .denseArray items => items.getD []
  | .nullableArray items => (items.getD []).reduceOption

/-- The null of a data type, as it is held in the type's default shape. -/
def nullOf : DataType → Native
  | .scalar _ => .nullableScalar none
  | .array _ => .nullableArray none

/-- The ways to store a value: what is held, as which type, and what travels. -/
inductive StoredAs : Native → DataType → Value → Prop where
  | null (type : DataType) : StoredAs .null type (.null type)
  | scalar {element : ElementType} {datum : Datum} {stored : WireScalar}
      (hstored : datum.encode element = .ok stored) :
      StoredAs (.scalar datum) (.scalar element) (.scalar stored)
  | nullScalar (element : ElementType) :
      StoredAs (.nullableScalar none) (.scalar element) (.null (.scalar element))
  | someScalar {element : ElementType} {datum : Datum} {stored : WireScalar}
      (hstored : datum.encode element = .ok stored) :
      StoredAs (.nullableScalar (some datum)) (.scalar element) (.scalar stored)
  | nullDense (element : ElementType) :
      StoredAs (.denseArray none) (.array element) (.null (.array element))
  | someDense {element : ElementType} {items : List Datum} {stored : List (Option WireScalar)}
      (hstored : encodeItems element items = .ok stored) :
      StoredAs (.denseArray (some items)) (.array element) (.array element stored)
  | nullNullable (element : ElementType) :
      StoredAs (.nullableArray none) (.array element) (.null (.array element))
  | someNullable {element : ElementType} {items : List (Option Datum)}
      {stored : List (Option WireScalar)}
      (hstored : encodeNullableItems element items = .ok stored) :
      StoredAs (.nullableArray (some items)) (.array element) (.array element stored)

/-- There are no other ways to store a value. -/
theorem storedAs_of_encode {native : Native} {type : DataType} {value : Value}
    (hencode : native.encode type = .ok value) : native.StoredAs type value := by
  cases native with
  | null =>
      cases hencode
      apply StoredAs.null
  | scalar datum =>
      cases type with
      | scalar element =>
          obtain ⟨stored, hstored, rfl⟩ := Except.map_eq_ok_iff.mp hencode
          exact .scalar hstored
      | array element => cases hencode
  | nullableScalar datum =>
      cases type with
      | scalar element =>
          cases datum with
          | none =>
              cases hencode
              apply StoredAs.nullScalar
          | some datum =>
              obtain ⟨stored, hstored, rfl⟩ := Except.map_eq_ok_iff.mp hencode
              exact .someScalar hstored
      | array element => cases datum <;> cases hencode
  | denseArray items =>
      cases type with
      | scalar element => cases items <;> cases hencode
      | array element =>
          cases items with
          | none =>
              cases hencode
              apply StoredAs.nullDense
          | some items =>
              obtain ⟨stored, hstored, rfl⟩ := Except.map_eq_ok_iff.mp hencode
              exact .someDense hstored
  | nullableArray items =>
      cases type with
      | scalar element => cases items <;> cases hencode
      | array element =>
          cases items with
          | none =>
              cases hencode
              apply StoredAs.nullNullable
          | some items =>
              obtain ⟨stored, hstored, rfl⟩ := Except.map_eq_ok_iff.mp hencode
              exact .someNullable hstored

/-- What is stored has the type that it is stored as. -/
theorem StoredAs.dataType_eq {native : Native} {type : DataType} {value : Value}
    (hstored : native.StoredAs type value) : value.dataType = type := by
  cases hstored with
  | scalar hscalar => exact congrArg _ (Datum.type_of_encode hscalar)
  | someScalar hscalar => exact congrArg _ (Datum.type_of_encode hscalar)
  | _ => rfl

/-- The shape of a value that is stored as a type is one of this type. -/
theorem StoredAs.dataType_shape {native : Native} {type : DataType} {value : Value}
    (hstored : native.StoredAs type value) : (native.shape type).dataType = type := by
  cases hstored with
  | null => cases type <;> rfl
  | _ => rfl

/-- The untyped null is read back as the null of the type it was stored as. -/
theorem decode_null_shape (type : DataType) :
    (Value.null type).decode (Native.null.shape type) = .ok (nullOf type) := by
  cases type <;>
    simp [Value.decode, Value.dataType, Value.asksTooDense, shape, Shape.default,
      Shape.dataType, nullOf]

/-- An array without nulls of a type that has no dense form is not read back: no shape asks
for it, its own included. -/
theorem StoredAs.decode_noDenseForm {native : Native} {type : DataType} {value : Value}
    (hstored : native.StoredAs type value)
    (hdense : Value.asksTooDense (native.shape type) = true) :
    value.decode (native.shape type) =
      .error (.typeMismatch (.noDenseForm (native.shape type).element)) := by
  have htype : value.dataType = (native.shape type).dataType := by
    rw [hstored.dataType_eq, hstored.dataType_shape]
  unfold Value.decode
  rw [if_neg (not_not_intro htype), if_pos hdense]

/-- Every other value but the untyped null is read back. -/
theorem StoredAs.decode_eq_ok {native : Native} {type : DataType} {value : Value}
    (hstored : native.StoredAs type value) (hnull : native ≠ .null)
    (hdense : Value.asksTooDense (native.shape type) = false)
    (hjson : ∀ datum ∈ native.data, datum.KeepsJson) :
    value.decode (native.shape type) = .ok native := by
  have htype : value.dataType = (native.shape type).dataType := by
    rw [hstored.dataType_eq, hstored.dataType_shape]
  unfold Value.decode
  rw [if_neg (not_not_intro htype), if_neg (by rw [hdense]; decide)]
  cases hstored with
  | null => exact absurd rfl hnull
  | nullScalar => rfl
  | nullDense => rfl
  | nullNullable => rfl
  | scalar hscalar =>
      show (WireScalar.decode _).map _ = _
      rw [WireScalar.decode_of_encode hscalar (hjson _ (List.mem_singleton_self _))]
      rfl
  | someScalar hscalar =>
      show (WireScalar.decode _).map _ = _
      rw [WireScalar.decode_of_encode hscalar (hjson _ (List.mem_singleton_self _))]
      rfl
  | someDense hitems =>
      show (Value.decodeDense _ 0 _).map _ = _
      rw [Value.decodeDense_of_encodeItems hitems hjson]
      rfl
  | someNullable hitems =>
      have hdata := fun datum hmem => hjson datum (List.reduceOption_mem_iff.mpr hmem)
      show (Value.decodeNullable _ 0 _).map _ = _
      rw [Value.decodeNullable_of_encodeNullableItems hitems hdata]
      rfl

/-- A value that was stored as a type has this type. Read in its own shape, the untyped null
is the null of the type, an array without nulls is refused where the type is numeric or JSON,
and everything else is what was stored. -/
theorem decode_shape_of_encode {native : Native} {type : DataType} {value : Value}
    (hencode : native.encode type = .ok value) :
    value.dataType = type ∧
      (native = .null → value.decode (native.shape type) = .ok (nullOf type)) ∧
      (∀ items, native = .denseArray items → type.element = .numeric ∨ type.element = .json →
        value.decode (native.shape type) = .error (.typeMismatch (.noDenseForm type.element))) ∧
      (native ≠ .null →
        (∀ items, native = .denseArray items →
          type.element ≠ .numeric ∧ type.element ≠ .json) →
        (∀ datum ∈ native.data, datum.KeepsJson) →
          value.decode (native.shape type) = .ok native) := by
  have hstored := storedAs_of_encode hencode
  refine ⟨hstored.dataType_eq, ?_, ?_, ?_⟩
  · intro hnull
    subst hnull
    cases hencode
    apply decode_null_shape
  · intro items hitems helement
    subst hitems
    apply hstored.decode_noDenseForm
    show (!type.element.hasDenseArray) = true
    rcases helement with helement | helement <;> rw [helement] <;> rfl
  · intro hnull hdense hjson
    apply hstored.decode_eq_ok hnull _ hjson
    cases native with
    | denseArray items =>
        obtain ⟨hnumeric, hdocument⟩ := hdense items rfl
        show (!type.element.hasDenseArray) = false
        revert hnumeric hdocument
        cases type.element <;> simp [ElementType.hasDenseArray]
    | null => exact absurd rfl hnull
    | _ => rfl

/-- A JSON array with a null of the array and a null of JSON: the two stay apart. -/
theorem decode_shape_of_encode_json_nulls :
    encode (.nullableArray (some [none, some ⟨.json, .null⟩, some ⟨.json, .array [.bool true]⟩]))
        (.array .json) =
      .ok (.array .json [none, some ⟨.json, "null"⟩, some ⟨.json, "[true]"⟩]) ∧
    Value.decode (.array .json [none, some ⟨.json, "null"⟩, some ⟨.json, "[true]"⟩])
        (.nullableArray .json) =
      .ok (.nullableArray
        (some [none, some ⟨.json, .null⟩, some ⟨.json, .array [.bool true]⟩])) := by
  have hencode : encode
      (.nullableArray (some [none, some ⟨.json, .null⟩, some ⟨.json, .array [.bool true]⟩]))
        (.array .json) =
      .ok (.array .json [none, some ⟨.json, "null"⟩, some ⟨.json, "[true]"⟩]) := by
    decide +kernel
  refine ⟨hencode, (decode_shape_of_encode hencode).2.2.2 nofun nofun ?_⟩
  intro datum hdatum json hjson
  subst hjson
  have hmem : json = .null ∨ json = .array [.bool true] := by
    simpa [data] using hdatum
  rcases hmem with rfl | rfl <;> decide +kernel

end Native

end Transact
