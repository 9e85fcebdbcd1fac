/-
# Typed access is exact

A value of one target, put on the wire, is accepted by another target if and only if both
name the same element type, both are scalars or both arrays, and the target has a place for
the nulls that are there. What is accepted goes back on the wire as the same value, and the
target it came from gives the very same value again. A refusal is always a mismatch.

The targets differ only in the shape that they ask for and in what they make of a null
array. So the wire value decides the first through `Value.Fits`, and each target is the
inverse of the way it holds its own values.

That a JSON text is read as the value it was written from is assumed of the JSON in the
value.
-/

import Mathlib.Data.Set.List
import Transact.Proofs.Value.Decode
import Transact.Value.Target

namespace Transact

/-! ## A target takes back what it holds -/

namespace Target

variable {target : Target} {element : ElementType}

/-- An option is given by the answer in it. -/
theorem map_some_eq_ok_iff {α β : Type} {answer : Except Error α} {hold : α → β} {held : β}
    (hanswer : ∀ x, answer = .ok x ↔ hold x = held) {x : Option α} :
    answer.map some = .ok x ↔ x.map hold = some held := by
  rw [Except.map_eq_ok_iff, Option.map_eq_some_iff]
  constructor
  · intro ⟨own, hown, hx⟩
    exact ⟨own, hx.symm, (hanswer own).mp hown⟩
  · intro ⟨own, hx, hown⟩
    exact ⟨own, (hanswer own).mpr hown, hx.symm⟩

theorem payloadOf_eq_ok_iff {datum : Datum} {x : element.Payload Json} :
    payloadOf element datum = .ok x ↔ ⟨element, x⟩ = datum := by
  obtain ⟨type, payload⟩ := datum
  unfold payloadOf
  split
  case isTrue htype =>
    cases htype
    simp [eq_comm]
  case isFalse htype =>
    constructor
    · intro h
      cases h
    · intro h
      cases h
      exact absurd rfl htype

theorem payloadsOf_eq_ok_iff {data : List Datum} {xs : List (element.Payload Json)} :
    payloadsOf element data = .ok xs ↔ xs.map (⟨element, ·⟩) = data := by
  induction data generalizing xs with
  | nil =>
      constructor
      · intro h
        cases h
        rfl
      · intro h
        rw [List.map_eq_nil_iff.mp h]
        rfl
  | cons datum data ih =>
      simp only [payloadsOf, Except.bind_eq_ok_iff, payloadOf_eq_ok_iff, ih]
      constructor
      · intro ⟨x, hx, rest, hrest, hxs⟩
        cases hxs
        rw [List.map_cons, hx, hrest]
      · intro h
        obtain ⟨x, rest, rfl, hx, hrest⟩ := List.map_eq_cons_iff.mp h
        exact ⟨x, hx, rest, hrest, rfl⟩

theorem optionalPayloadOf_eq_ok_iff {datum : Option Datum} {x : Option (element.Payload Json)} :
    optionalPayloadOf element datum = .ok x ↔ x.map (⟨element, ·⟩) = datum := by
  cases datum with
  | none => cases x <;> simp [optionalPayloadOf]
  | some datum => exact map_some_eq_ok_iff fun _ => payloadOf_eq_ok_iff

theorem optionalPayloadsOf_eq_ok_iff {data : List (Option Datum)}
    {xs : List (Option (element.Payload Json))} :
    optionalPayloadsOf element data = .ok xs ↔
      xs.map (fun x => x.map (⟨element, ·⟩)) = data := by
  induction data generalizing xs with
  | nil =>
      constructor
      · intro h
        cases h
        rfl
      · intro h
        rw [List.map_eq_nil_iff.mp h]
        rfl
  | cons item data ih =>
      simp only [optionalPayloadsOf, Except.bind_eq_ok_iff, optionalPayloadOf_eq_ok_iff, ih]
      constructor
      · intro ⟨x, hx, rest, hrest, hxs⟩
        cases hxs
        rw [List.map_cons, hx, hrest]
      · intro h
        obtain ⟨x, rest, rfl, hx, hrest⟩ := List.map_eq_cons_iff.mp h
        exact ⟨x, hx, rest, hrest, rfl⟩

/-- A target takes a native value as the one value of its own that it holds so. -/
theorem ofNative_eq_ok_iff {native : Native} {x : target.Carrier} :
    target.ofNative native = .ok x ↔ target.toNative x = native := by
  obtain ⟨form, element⟩ := target
  cases form with
  | plain =>
      cases native with
      | scalar datum =>
          have hdatum := @payloadOf_eq_ok_iff element datum x
          simpa [ofNative, toNative] using hdatum
      | _ => simp [ofNative, toNative]
  | optional =>
      cases native with
      | nullableScalar datum =>
          have hdatum := @optionalPayloadOf_eq_ok_iff element datum x
          simpa [ofNative, toNative] using hdatum
      | _ => simp [ofNative, toNative]
  | list =>
      cases native with
      | denseArray data =>
          cases data with
          | none => simp [ofNative, toNative]
          | some data =>
              have hdata := @payloadsOf_eq_ok_iff element data x
              simpa [ofNative, toNative] using hdata
      | _ => simp [ofNative, toNative]
  | optionalList =>
      cases native with
      | denseArray data =>
          cases data with
          | none => cases x <;> simp [ofNative, toNative]
          | some data =>
              have hdata :=
                map_some_eq_ok_iff (x := x) fun xs => @payloadsOf_eq_ok_iff element data xs
              simpa [ofNative, toNative] using hdata
      | _ => simp [ofNative, toNative]
  | listOfOptional =>
      cases native with
      | nullableArray data =>
          cases data with
          | none => simp [ofNative, toNative]
          | some data =>
              have hdata := @optionalPayloadsOf_eq_ok_iff element data x
              simpa [ofNative, toNative] using hdata
      | _ => simp [ofNative, toNative]
  | optionalListOfOptional =>
      cases native with
      | nullableArray data =>
          cases data with
          | none => cases x <;> simp [ofNative, toNative]
          | some data =>
              have hdata :=
                map_some_eq_ok_iff (x := x) fun xs => @optionalPayloadsOf_eq_ok_iff element data xs
              simpa [ofNative, toNative] using hdata
      | _ => simp [ofNative, toNative]

theorem onlyMismatches_payloadOf (element : ElementType) (datum : Datum) :
    OnlyMismatches (payloadOf element datum) := by
  unfold payloadOf
  split
  case isTrue htype => exact .ok _
  case isFalse htype => exact .mismatch _

theorem onlyMismatches_payloadsOf (element : ElementType) (data : List Datum) :
    OnlyMismatches (payloadsOf element data) := by
  induction data with
  | nil => exact .ok []
  | cons datum data ih =>
      exact (onlyMismatches_payloadOf element datum).bind fun _ => ih.bind fun _ => .ok _

theorem onlyMismatches_optionalPayloadOf (element : ElementType) (datum : Option Datum) :
    OnlyMismatches (optionalPayloadOf element datum) := by
  cases datum with
  | none => exact .ok none
  | some datum => exact (onlyMismatches_payloadOf element datum).map some

theorem onlyMismatches_optionalPayloadsOf (element : ElementType) (data : List (Option Datum)) :
    OnlyMismatches (optionalPayloadsOf element data) := by
  induction data with
  | nil => exact .ok []
  | cons datum data ih =>
      exact (onlyMismatches_optionalPayloadOf element datum).bind fun _ => ih.bind fun _ => .ok _

theorem onlyMismatches_wrongShape {α : Type} (target : Target) (native : Native) :
    OnlyMismatches (.error (target.wrongShape native) : Except Error α) := by
  unfold wrongShape
  split
  · exact .mismatch _
  · exact .mismatch _
  · exact .mismatch _

theorem onlyMismatches_ofNative (target : Target) (native : Native) :
    OnlyMismatches (target.ofNative native) := by
  unfold ofNative
  split
  · exact onlyMismatches_payloadOf _ _
  · exact onlyMismatches_optionalPayloadOf _ _
  · exact onlyMismatches_payloadsOf _ _
  · exact .ok none
  · exact (onlyMismatches_payloadsOf _ _).map some
  · exact onlyMismatches_optionalPayloadsOf _ _
  · exact .ok none
  · exact (onlyMismatches_optionalPayloadsOf _ _).map some
  · exact onlyMismatches_wrongShape _ _

theorem onlyMismatches_ofValue (target : Target) (value : Value) :
    OnlyMismatches (target.ofValue value) :=
  (Value.onlyMismatches_decode value target.shape).bind (onlyMismatches_ofNative target)

end Target

/-! ## What a target holds can be stored -/

namespace Native

/-- Data of the array's type can be stored in it, nulls among them. -/
theorem exists_encodeNullableItems {element : ElementType} {data : List (Option Datum)}
    (htype : ∀ datum, some datum ∈ data → datum.type = element) :
    ∃ stored, encodeNullableItems element data = .ok stored := by
  induction data with
  | nil => exact ⟨[], rfl⟩
  | cons item data ih =>
      obtain ⟨stored, hstored⟩ := ih fun datum hmem => htype datum (List.mem_cons_of_mem item hmem)
      cases item with
      | none =>
          refine ⟨none :: stored, ?_⟩
          rw [encodeNullableItems, hstored]
          rfl
      | some datum =>
          have hdatum := Datum.encode_eq_ok_iff.mpr ⟨htype datum List.mem_cons_self, rfl⟩
          refine ⟨some (datum.mapJson Json.render) :: stored, ?_⟩
          rw [encodeNullableItems, hdatum, hstored]
          rfl

/-- A native value that has a shape can be stored as the shape's type. -/
theorem HasShape.exists_encode {native : Native} {shape : Shape} (h : native.HasShape shape) :
    ∃ value, native.encode shape.dataType = .ok value := by
  cases native with
  | null => cases h
  | scalar datum =>
      cases shape with
      | scalar element =>
          have hdatum := Datum.encode_eq_ok_iff.mpr ⟨h, rfl⟩
          exact ⟨_, Except.map_eq_ok_iff.mpr ⟨_, hdatum, rfl⟩⟩
      | _ => cases h
  | nullableScalar datum =>
      cases shape with
      | nullableScalar element =>
          cases datum with
          | none => exact ⟨_, rfl⟩
          | some datum =>
              have hdatum := Datum.encode_eq_ok_iff.mpr ⟨h datum rfl, rfl⟩
              exact ⟨_, Except.map_eq_ok_iff.mpr ⟨_, hdatum, rfl⟩⟩
      | _ => cases h
  | denseArray items =>
      cases shape with
      | denseArray element =>
          cases items with
          | none => exact ⟨_, rfl⟩
          | some data =>
              have htype (datum : Datum) (hmem : some datum ∈ data.map some) :
                  datum.type = element :=
                h data rfl datum (by simpa using hmem)
              obtain ⟨stored, hstored⟩ := exists_encodeNullableItems htype
              rw [encodeNullableItems_map_some] at hstored
              exact ⟨_, Except.map_eq_ok_iff.mpr ⟨_, hstored, rfl⟩⟩
      | _ => cases h
  | nullableArray items =>
      cases shape with
      | nullableArray element =>
          cases items with
          | none => exact ⟨_, rfl⟩
          | some data =>
              obtain ⟨stored, hstored⟩ := exists_encodeNullableItems (h data rfl)
              exact ⟨_, Except.map_eq_ok_iff.mpr ⟨_, hstored, rfl⟩⟩
      | _ => cases h

/-- The value as it is held where nulls are admitted. -/
def nullable (type : DataType) : Native → Native
  | .null => nullOf type
  | .scalar datum => .nullableScalar (some datum)
  | .denseArray items => .nullableArray (items.map (·.map some))
  | native => native

namespace StoredAs

variable {native : Native} {type : DataType} {value : Value}

/-- What is stored can be read where nulls are admitted. -/
theorem readAs_default (hstored : native.StoredAs type value)
    (hjson : ∀ datum ∈ native.data, datum.KeepsJson) :
    value.ReadAs (.default type false) (native.nullable type) := by
  cases hstored with
  | null =>
      cases type with
      | scalar element => exact .nullScalar element
      | array element => exact .nullNullable element
  | scalar hscalar =>
      have htype := Datum.type_of_encode hscalar
      cases htype
      exact .someScalar (WireScalar.decode_of_encode hscalar (hjson _ (List.mem_singleton_self _)))
  | nullScalar element => exact .nullScalar element
  | someScalar hscalar =>
      have htype := Datum.type_of_encode hscalar
      cases htype
      exact .someScalar (WireScalar.decode_of_encode hscalar (hjson _ (List.mem_singleton_self _)))
  | nullDense element => exact .nullNullable element
  | someDense hitems =>
      have hread := Value.decodeDense_of_encodeItems hitems hjson 0
      exact .someNullable (Value.decodeNullable_of_decodeDense hread)
  | nullNullable element => exact .nullNullable element
  | someNullable hitems =>
      have hdata := fun datum hmem => hjson datum (List.reduceOption_mem_iff.mpr hmem)
      exact .someNullable (Value.decodeNullable_of_encodeNullableItems hitems hdata 0)

/-- A value is stored alike where nulls are admitted. -/
theorem encode_nullable (hstored : native.StoredAs type value) :
    (native.nullable type).encode type = .ok value := by
  cases hstored with
  | null => cases type <;> rfl
  | scalar hscalar => exact Except.map_eq_ok_iff.mpr ⟨_, hscalar, rfl⟩
  | nullScalar => rfl
  | someScalar hscalar => exact Except.map_eq_ok_iff.mpr ⟨_, hscalar, rfl⟩
  | nullDense => rfl
  | someDense hitems =>
      rw [← encodeNullableItems_map_some] at hitems
      exact Except.map_eq_ok_iff.mpr ⟨_, hitems, rfl⟩
  | nullNullable => rfl
  | someNullable hitems => exact Except.map_eq_ok_iff.mpr ⟨_, hitems, rfl⟩

/-- The JSON that is stored is as it is written. -/
theorem canonical_eq (hstored : native.StoredAs type value)
    (hjson : ∀ datum ∈ native.data, datum.KeepsJson) : value.canonical = value := by
  have hcanonical := (hstored.readAs_default hjson).encode_eq
  rw [hstored.dataType_eq, hstored.encode_nullable] at hcanonical
  exact (Except.ok.inj hcanonical).symm

end StoredAs

end Native

/-! ## From target to target -/

/-- Of a value that can be read at all, a shape asks for the type and for a place for its nulls. -/
theorem Value.Fits.fits_iff {value : Value} {own shape : Shape} (h : value.Fits own) :
    value.Fits shape ↔ value.dataType = shape.dataType ∧
      (∀ element, shape = .denseArray element →
        (element ≠ .numeric ∧ element ≠ .json) ∧ value.NoneNull) ∧
      (∀ element, shape = .scalar element → value.isNull = false) := by
  constructor
  · intro hfits
    refine ⟨hfits.type, ?_, hfits.notNull⟩
    intro element helement
    exact ⟨hfits.dense element helement, hfits.noneNull element helement⟩
  · intro ⟨htype, hdense, hnull⟩
    refine ⟨htype, ?_, hnull, h.elements, ?_, h.parses⟩
    · intro element helement
      exact (hdense element helement).1
    · intro element helement
      exact (hdense element helement).2

/-- Whether a null is held. -/
def Native.isNull : Native → Bool
  | .null | .nullableScalar none | .denseArray none | .nullableArray none => true
  | _ => false

theorem Value.ReadAs.isNull_eq {value : Value} {shape : Shape} {native : Native}
    (h : value.ReadAs shape native) : value.isNull = native.isNull := by
  cases h <;> rfl

namespace Form

/-- Whether the payloads are in a list. -/
def isArray : Form → Bool
  | .plain | .optional => false
  | _ => true

/-- Whether there is no place for a null outside. -/
def refusesNull : Form → Bool
  | .plain | .list | .listOfOptional => true
  | _ => false

end Form

namespace Target

variable {target other : Target} {value : Value} {native : Native}

theorem dataType_shape_eq_iff : target.shape.dataType = other.shape.dataType ↔
    target.element = other.element ∧ target.form.isArray = other.form.isArray := by
  obtain ⟨form, element⟩ := target
  obtain ⟨form', element'⟩ := other
  cases form <;> cases form' <;> simp [shape, Shape.dataType, Form.isArray]

/-- The data of one type are the payloads of that type. -/
theorem exists_payload_iff {element : ElementType} {datum : Datum} :
    (∃ x : element.Payload Json, ⟨element, x⟩ = datum) ↔ datum.type = element := by
  constructor
  · intro ⟨x, hx⟩
    rw [← hx]
  · intro htype
    subst htype
    exact ⟨datum.payload, rfl⟩

theorem exists_payloads_iff {element : ElementType} {data : List Datum} :
    (∃ xs : List (element.Payload Json), xs.map (⟨element, ·⟩) = data) ↔
      ∀ datum ∈ data, datum.type = element := by
  have hrange := Set.ext_iff.mp
    (Set.range_list_map (Scalar.mk element : element.Payload Json → Datum)) data
  exact hrange.trans (forall₂_congr fun datum _ => exists_payload_iff)

/-- An option holds something if what is in it does. -/
theorem exists_map_eq_some_iff {α β : Type} {hold : α → β} {held : β} :
    (∃ x : Option α, x.map hold = some held) ↔ ∃ x, hold x = held := by
  simp [Option.exists]

theorem exists_optionalPayload_iff {element : ElementType} {datum : Option Datum} :
    (∃ x : Option (element.Payload Json), x.map (⟨element, ·⟩) = datum) ↔
      ∀ own, datum = some own → own.type = element := by
  cases datum with
  | none =>
      constructor
      · intro _ own hown
        cases hown
      · intro _
        exact ⟨none, rfl⟩
  | some own =>
      rw [exists_map_eq_some_iff, exists_payload_iff]
      simp

theorem exists_optionalPayloads_iff {element : ElementType} {data : List (Option Datum)} :
    (∃ xs : List (Option (element.Payload Json)),
        xs.map (fun x => x.map (⟨element, ·⟩)) = data) ↔
      ∀ datum, some datum ∈ data → datum.type = element := by
  have hrange := Set.ext_iff.mp
    (Set.range_list_map (Option.map (Scalar.mk element : element.Payload Json → Datum))) data
  have hitems := forall₂_congr fun (item : Option Datum) (_ : item ∈ data) =>
    @exists_optionalPayload_iff element item
  refine hrange.trans (hitems.trans ?_)
  constructor
  · intro h datum hmem
    exact h (some datum) hmem datum rfl
  · intro h item hmem datum hitem
    rw [hitem] at hmem
    exact h datum hmem

/-- A target holds everything of its shape, but for the null it has no place for. -/
theorem exists_toNative_iff : (∃ x, target.toNative x = native) ↔
    native.HasShape target.shape ∧
      (target.form.refusesNull = true → native.isNull = false) := by
  obtain ⟨form, element⟩ := target
  cases form with
  | plain =>
      cases native with
      | scalar datum =>
          have hdatum := @exists_payload_iff element datum
          simpa [toNative, Native.HasShape, shape, Form.refusesNull, Native.isNull] using hdatum
      | _ => simp [toNative, Native.HasShape, shape]
  | optional =>
      cases native with
      | nullableScalar datum =>
          have hdatum := @exists_optionalPayload_iff element datum
          simpa [toNative, Native.HasShape, shape, Form.refusesNull, Native.isNull] using hdatum
      | _ => simp [toNative, Native.HasShape, shape]
  | list =>
      cases native with
      | denseArray data =>
          cases data with
          | none => simp [toNative, Form.refusesNull, Native.isNull]
          | some data =>
              have hdata := @exists_payloads_iff element data
              simpa [toNative, Native.HasShape, shape, Form.refusesNull, Native.isNull] using hdata
      | _ => simp [toNative, Native.HasShape, shape]
  | optionalList =>
      cases native with
      | denseArray data =>
          cases data with
          | none => simp [toNative, Native.HasShape, shape, Form.refusesNull, Native.isNull]
          | some data =>
              have hdata := exists_map_eq_some_iff.trans
                (@exists_payloads_iff element data)
              simpa [toNative, Native.HasShape, shape, Form.refusesNull, Native.isNull] using hdata
      | _ => simp [toNative, Native.HasShape, shape]
  | listOfOptional =>
      cases native with
      | nullableArray data =>
          cases data with
          | none => simp [toNative, Form.refusesNull, Native.isNull]
          | some data =>
              have hdata := @exists_optionalPayloads_iff element data
              simpa [toNative, Native.HasShape, shape, Form.refusesNull, Native.isNull] using hdata
      | _ => simp [toNative, Native.HasShape, shape]
  | optionalListOfOptional =>
      cases native with
      | nullableArray data =>
          cases data with
          | none => simp [toNative, Native.HasShape, shape, Form.refusesNull, Native.isNull]
          | some data =>
              have hdata := exists_map_eq_some_iff.trans
                (@exists_optionalPayloads_iff element data)
              simpa [toNative, Native.HasShape, shape, Form.refusesNull, Native.isNull] using hdata
      | _ => simp [toNative, Native.HasShape, shape]

theorem hasShape_toNative (x : target.Carrier) : (target.toNative x).HasShape target.shape :=
  (exists_toNative_iff.mp ⟨x, rfl⟩).1

theorem exists_toValue (x : target.Carrier) : ∃ value, target.toValue x = .ok value :=
  (hasShape_toNative x).exists_encode

/-- A target accepts a wire value as the one value that it holds as what is read. -/
theorem ofValue_eq_ok_iff {y : target.Carrier} :
    target.ofValue value = .ok y ↔ value.ReadAs target.shape (target.toNative y) := by
  rw [ofValue, Except.bind_eq_ok_iff, ← Value.decode_eq_ok_iff]
  constructor
  · intro ⟨native, hread, hnative⟩
    rw [hread, ofNative_eq_ok_iff.mp hnative]
  · intro hread
    exact ⟨_, hread, ofNative_eq_ok_iff.mpr rfl⟩

/-- A target accepts a wire value if it fits the target's shape, and there is a place for it if
it is null. -/
theorem exists_ofValue_iff : (∃ y, target.ofValue value = .ok y) ↔
    value.Fits target.shape ∧ (target.form.refusesNull = true → value.isNull = false) := by
  constructor
  · intro ⟨y, hy⟩
    have hread := ofValue_eq_ok_iff.mp hy
    refine ⟨hread.fits, ?_⟩
    intro hrefuses
    rw [hread.isNull_eq]
    exact (exists_toNative_iff.mp ⟨y, rfl⟩).2 hrefuses
  · intro ⟨hfits, hnull⟩
    obtain ⟨native, hread⟩ := hfits.exists_readAs
    rw [hread.isNull_eq] at hnull
    obtain ⟨y, hy⟩ := exists_toNative_iff.mpr ⟨hread.hasShape, hnull⟩
    rw [← hy] at hread
    exact ⟨y, ofValue_eq_ok_iff.mpr hread⟩

/-- A target has a place for the nulls of a wire value. Lists without nulls do not exist for
numerics and JSON. -/
def Admits (target : Target) (value : Value) : Prop :=
  match target.form with
  | .plain => value.isNull = false
  | .optional => True
  | .list =>
    (target.element ≠ .numeric ∧ target.element ≠ .json) ∧ value.isNull = false ∧ value.NoneNull
  | .optionalList => (target.element ≠ .numeric ∧ target.element ≠ .json) ∧ value.NoneNull
  | .listOfOptional => value.isNull = false
  | .optionalListOfOptional => True

/-- A value that can be read at all is accepted by the targets of its type that have a place for
its nulls. -/
theorem exists_ofValue_iff_admits {own : Shape} (hfits : value.Fits own) :
    (∃ y, target.ofValue value = .ok y) ↔
      value.dataType = target.shape.dataType ∧ target.Admits value := by
  rw [exists_ofValue_iff, hfits.fits_iff]
  obtain ⟨form, element⟩ := target
  cases form <;> simp [shape, Admits, Form.refusesNull, and_assoc, and_comm, and_left_comm]

theorem toNative_injective : Function.Injective target.toNative := by
  intro x y h
  have hx := ofNative_eq_ok_iff.mpr (rfl : target.toNative x = _)
  rw [ofNative_eq_ok_iff.mpr h.symm] at hx
  exact (Except.ok.inj hx).symm

theorem shape_toNative (x : target.Carrier) :
    (target.toNative x).shape target.shape.dataType = target.shape := by
  obtain ⟨form, element⟩ := target
  cases form <;> rfl

/-- A target that accepts a value of its own gives back what it was. -/
theorem eq_of_ofValue {x y : target.Carrier}
    (hstored : (target.toNative x).StoredAs target.shape.dataType value)
    (hjson : ∀ datum ∈ (target.toNative x).data, datum.KeepsJson)
    (hy : target.ofValue value = .ok y) : y = x := by
  have hread := Value.decode_eq_ok_iff.mpr (ofValue_eq_ok_iff.mp hy)
  rw [← shape_toNative x] at hread
  have hnull : target.toNative x ≠ .null := by
    intro hnull
    have hshape := hasShape_toNative x
    rw [hnull] at hshape
    exact hshape
  have hdense : Value.asksTooDense ((target.toNative x).shape target.shape.dataType) = false := by
    by_contra hdense
    rw [hstored.decode_noDenseForm (by simpa using hdense)] at hread
    cases hread
  rw [hstored.decode_eq_ok hnull hdense hjson] at hread
  exact (toNative_injective (Except.ok.inj hread)).symm

/-- A value of one target goes to every target of its type that has a place for its nulls, and to
no other, and otherwise there is a mismatch. It goes back on the wire as it was, and its own
target, if it accepts it, gives back what it was. -/
theorem ofValue_toValue (target other : Target) (x : target.Carrier)
    (hjson : ∀ datum ∈ (target.toNative x).data, datum.KeepsJson) :
    ∃ value, target.toValue x = .ok value ∧
      ((∃ y, other.ofValue value = .ok y) ↔
        target.element = other.element ∧ target.form.isArray = other.form.isArray ∧
          other.Admits value) ∧
      (∀ error, other.ofValue value = .error error → ∃ fault, error = .typeMismatch fault) ∧
      (∀ y, other.ofValue value = .ok y → other.toValue y = .ok value) ∧
      ∀ y, target.ofValue value = .ok y → y = x := by
  obtain ⟨value, hvalue⟩ := exists_toValue x
  have hstored := Native.storedAs_of_encode hvalue
  have hfits := (hstored.readAs_default hjson).fits
  refine ⟨value, hvalue, ?_, onlyMismatches_ofValue other value, ?_, ?_⟩
  · rw [exists_ofValue_iff_admits hfits, hstored.dataType_eq, dataType_shape_eq_iff, and_assoc]
  · intro y hy
    have hread := ofValue_eq_ok_iff.mp hy
    have hencode := hread.encode_eq
    rw [hstored.canonical_eq hjson, hread.fits.type] at hencode
    exact hencode
  · intro y hy
    exact eq_of_ofValue hstored hjson hy

/-- A JSON list with a null goes to an optional list and back. -/
theorem ofValue_toValue_json : ∃ value y,
    toValue ⟨.listOfOptional, .json⟩ [none, some (.array [.bool true])] = .ok value ∧
      ofValue ⟨.optionalListOfOptional, .json⟩ value = .ok y ∧
      toValue ⟨.optionalListOfOptional, .json⟩ y = .ok value := by
  have hjson : ∀ datum ∈ (toNative ⟨.listOfOptional, .json⟩
      [none, some (.array [.bool true])]).data, datum.KeepsJson := by
    intro datum hdatum json hjson
    subst hjson
    have hmem : json = .array [.bool true] := by
      simpa [toNative, Native.data] using hdatum
    subst hmem
    decide +kernel
  obtain ⟨value, hvalue, haccepts, _, hback, _⟩ :=
    ofValue_toValue ⟨.listOfOptional, .json⟩ ⟨.optionalListOfOptional, .json⟩
      [none, some (.array [.bool true])] hjson
  obtain ⟨y, hy⟩ := haccepts.mpr ⟨rfl, rfl, trivial⟩
  exact ⟨value, y, hvalue, hy, hback y hy⟩

end Target

end Transact
