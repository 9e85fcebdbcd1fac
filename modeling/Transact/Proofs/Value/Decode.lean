/-
# Reading never converts

Whether a wire value can be read in a shape is plain from the two: the types have to
be the same, the shape has to admit the nulls of the value, every element has to be
of the array's type, and every JSON text has to be one. `Value.Fits` says so, and it
is all that is asked. A refusal is always a mismatch.

What is read has exactly the shape that was asked for, and stored as the value's type
it is the value again. Only the spelling of JSON may differ: it is then the one that is
written, whatever blanks or order of members were read.

Both follow from one list of the ways to read a value, which mirrors that of the ways to
store one.
-/

import Transact.Proofs.Value.RoundTrip

namespace Transact

/-- An answer that fails, if it does, with a mismatch. -/
def OnlyMismatches {α : Type} (answer : Except Error α) : Prop :=
  ∀ error, answer = .error error → ∃ fault, error = .typeMismatch fault

namespace OnlyMismatches

variable {α β : Type}

theorem ok (value : α) : OnlyMismatches (.ok value) := by
  intro error herror
  cases herror

theorem mismatch (fault : MismatchFault) :
    OnlyMismatches (.error (.typeMismatch fault) : Except Error α) := by
  intro error herror
  cases herror
  exact ⟨fault, rfl⟩

theorem bind {first : Except Error α} {next : α → Except Error β} (hfirst : OnlyMismatches first)
    (hnext : ∀ value, OnlyMismatches (next value)) : OnlyMismatches (first >>= next) := by
  cases first with
  | ok value => exact hnext value
  | error own =>
      intro error herror
      cases herror
      exact hfirst own rfl

theorem map {answer : Except Error α} (h : OnlyMismatches answer) (f : α → β) :
    OnlyMismatches (answer.map f) := by
  cases answer with
  | ok value => exact ok (f value)
  | error own =>
      intro error herror
      cases herror
      exact h own rfl

end OnlyMismatches

/-! ## Single scalars -/

/-- A JSON text as it would be written; what is no JSON stays as it is. -/
def Json.canonicalText (text : String) : String :=
  match Json.parse? text with
  | some json => json.render
  | none => text

namespace WireScalar

/-- A JSON scalar holds a JSON text. -/
def Parses (scalar : WireScalar) : Prop :=
  ∀ text, scalar = ⟨.json, text⟩ → ∃ json, Json.parse? text = some json

/-- The scalar with its JSON as it would be written. -/
def canonical (scalar : WireScalar) : WireScalar := scalar.mapJson Json.canonicalText

theorem exists_decode_iff {scalar : WireScalar} :
    (∃ datum, scalar.decode = .ok datum) ↔ scalar.Parses := by
  obtain ⟨type, payload⟩ := scalar
  cases type with
  | json =>
      show (∃ datum, decode ⟨.json, payload⟩ = .ok datum) ↔ _
      cases hparse : Json.parse? payload with
      | none => simp [decode, Scalar.mapJson?, Parses, hparse]
      | some json => simp [decode, Scalar.mapJson?, Parses, hparse]
  | _ =>
      constructor
      · intro _ text htext
        cases htext
      · intro _
        exact ⟨_, rfl⟩

theorem onlyMismatches_decode (scalar : WireScalar) : OnlyMismatches scalar.decode := by
  unfold decode
  split
  case h_1 datum _ => exact .ok datum
  case h_2 => exact .mismatch .invalidJson

/-- What is read of a scalar is stored as the scalar, but for the spelling of JSON. -/
theorem encode_of_decode {scalar : WireScalar} {datum : Datum} (h : scalar.decode = .ok datum) :
    datum.encode scalar.type = .ok scalar.canonical := by
  obtain ⟨type, payload⟩ := scalar
  cases type with
  | json =>
      cases hparse : Json.parse? payload with
      | none => simp [decode, Scalar.mapJson?, hparse] at h
      | some json =>
          simp only [decode, Scalar.mapJson?, hparse, Option.map_some, Except.ok.injEq] at h
          subst h
          simp [Datum.encode, canonical, Scalar.mapJson, Json.canonicalText, hparse]
  | _ =>
      cases h
      rfl

theorem decodeElement_eq_ok_iff {element : ElementType} {index : Nat} {scalar : WireScalar}
    {datum : Datum} : scalar.decodeElement element index = .ok datum ↔
      scalar.type = element ∧ scalar.decode = .ok datum := by
  unfold decodeElement
  split
  case isTrue htype => simp [htype]
  case isFalse htype => simp [htype]

theorem onlyMismatches_decodeElement (element : ElementType) (index : Nat) (scalar : WireScalar) :
    OnlyMismatches (scalar.decodeElement element index) := by
  unfold decodeElement
  split
  case isTrue => exact onlyMismatches_decode scalar
  case isFalse => exact .mismatch _

end WireScalar

/-! ## Arrays -/

namespace Value

variable {element : ElementType} {index : Nat} {items : List (Option WireScalar)}

/-- The elements of an array with their JSON as it would be written. -/
def canonicalItems (items : List (Option WireScalar)) : List (Option WireScalar) :=
  items.map (Option.map WireScalar.canonical)

/-- An array is read if every element that is not null is of the array's type and can be read. -/
theorem exists_decodeNullable_iff : (∃ data, decodeNullable element index items = .ok data) ↔
    ∀ scalar, some scalar ∈ items → scalar.type = element ∧ scalar.Parses := by
  induction items generalizing index with
  | nil => simp [decodeNullable]
  | cons item items ih =>
      cases item with
      | none =>
          simp only [decodeNullable, Except.bind_eq_ok_iff, List.mem_cons, reduceCtorEq, false_or]
          rw [← @ih (index + 1)]
          constructor
          · rintro ⟨_, data, hdata, _⟩
            exact ⟨data, hdata⟩
          · rintro ⟨data, hdata⟩
            exact ⟨none :: data, data, hdata, rfl⟩
      | some scalar =>
          simp only [decodeNullable, Except.bind_eq_ok_iff, WireScalar.decodeElement_eq_ok_iff,
            List.mem_cons, Option.some.injEq, forall_eq_or_imp]
          rw [← @ih (index + 1), ← WireScalar.exists_decode_iff]
          constructor
          · rintro ⟨_, datum, ⟨htype, hdatum⟩, data, hdata, _⟩
            exact ⟨⟨htype, datum, hdatum⟩, data, hdata⟩
          · rintro ⟨⟨htype, datum, hdatum⟩, data, hdata⟩
            exact ⟨some datum :: data, datum, ⟨htype, hdatum⟩, data, hdata, rfl⟩

/-- An array is read without nulls if it can be read and there are none. -/
theorem exists_decodeDense_iff : (∃ data, decodeDense element index items = .ok data) ↔
    none ∉ items ∧ ∀ scalar, some scalar ∈ items → scalar.type = element ∧ scalar.Parses := by
  induction items generalizing index with
  | nil => simp [decodeDense]
  | cons item items ih =>
      cases item with
      | none => simp [decodeDense]
      | some scalar =>
          simp only [decodeDense, Except.bind_eq_ok_iff, WireScalar.decodeElement_eq_ok_iff,
            List.mem_cons, Option.some.injEq, reduceCtorEq, false_or, forall_eq_or_imp]
          rw [and_left_comm, ← @ih (index + 1), ← WireScalar.exists_decode_iff]
          constructor
          · rintro ⟨_, datum, ⟨htype, hdatum⟩, data, hdata, _⟩
            exact ⟨⟨htype, datum, hdatum⟩, data, hdata⟩
          · rintro ⟨⟨htype, datum, hdatum⟩, data, hdata⟩
            exact ⟨datum :: data, datum, ⟨htype, hdatum⟩, data, hdata, rfl⟩

theorem onlyMismatches_decodeNullable (element : ElementType) (index : Nat)
    (items : List (Option WireScalar)) : OnlyMismatches (decodeNullable element index items) := by
  induction items generalizing index with
  | nil => exact .ok []
  | cons item items ih =>
      have hrest := ih (index + 1)
      cases item with
      | none => exact hrest.bind fun data => .ok _
      | some scalar =>
          have hfirst := WireScalar.onlyMismatches_decodeElement element index scalar
          exact hfirst.bind fun _ => hrest.bind fun _ => .ok _

theorem onlyMismatches_decodeDense (element : ElementType) (index : Nat)
    (items : List (Option WireScalar)) : OnlyMismatches (decodeDense element index items) := by
  induction items generalizing index with
  | nil => exact .ok []
  | cons item items ih =>
      have hrest := ih (index + 1)
      cases item with
      | none => exact .mismatch _
      | some scalar =>
          have hfirst := WireScalar.onlyMismatches_decodeElement element index scalar
          exact hfirst.bind fun _ => hrest.bind fun _ => .ok _

/-- What is read of an array is stored as the array, but for the spelling of JSON. -/
theorem encodeNullableItems_of_decodeNullable {data : List (Option Datum)}
    (h : decodeNullable element index items = .ok data) :
    Native.encodeNullableItems element data = .ok (canonicalItems items) := by
  induction items generalizing index data with
  | nil =>
      cases h
      rfl
  | cons item items ih =>
      cases item with
      | none =>
          obtain ⟨rest, hrest, hdata⟩ := Except.bind_eq_ok_iff.mp h
          cases hdata
          rw [Native.encodeNullableItems, ih hrest]
          rfl
      | some scalar =>
          obtain ⟨datum, hfirst, hothers⟩ := Except.bind_eq_ok_iff.mp h
          obtain ⟨rest, hrest, hdata⟩ := Except.bind_eq_ok_iff.mp hothers
          cases hdata
          obtain ⟨htype, hdatum⟩ := WireScalar.decodeElement_eq_ok_iff.mp hfirst
          have hencode := WireScalar.encode_of_decode hdatum
          rw [htype] at hencode
          rw [Native.encodeNullableItems, hencode, ih hrest]
          rfl

/-- What is read without nulls is what is read, without nulls. -/
theorem decodeNullable_of_decodeDense {data : List Datum}
    (h : decodeDense element index items = .ok data) :
    decodeNullable element index items = .ok (data.map some) := by
  induction items generalizing index data with
  | nil =>
      cases h
      rfl
  | cons item items ih =>
      cases item with
      | none => cases h
      | some scalar =>
          obtain ⟨datum, hfirst, hothers⟩ := Except.bind_eq_ok_iff.mp h
          obtain ⟨rest, hrest, hdata⟩ := Except.bind_eq_ok_iff.mp hothers
          cases hdata
          rw [decodeNullable, hfirst, Except.bind_eq_ok_iff]
          refine ⟨datum, rfl, ?_⟩
          rw [ih hrest]
          rfl

end Value

namespace Native

/-- Data without nulls are stored as they are among nulls. -/
theorem encodeNullableItems_map_some (element : ElementType) (data : List Datum) :
    encodeNullableItems element (data.map some) = encodeItems element data := by
  induction data with
  | nil => rfl
  | cons datum data ih => rw [List.map_cons, encodeNullableItems, encodeItems, ih]

/-- Data that are stored in an array have the array's type. -/
theorem type_of_encodeNullableItems {element : ElementType} {data : List (Option Datum)}
    {stored : List (Option WireScalar)} (h : encodeNullableItems element data = .ok stored) :
    ∀ datum, some datum ∈ data → datum.type = element := by
  induction data generalizing stored with
  | nil =>
      intro datum hmem
      cases hmem
  | cons item data ih =>
      intro datum hmem
      cases item with
      | none =>
          obtain ⟨rest, hrest, _⟩ := Except.bind_eq_ok_iff.mp h
          rcases List.mem_cons.mp hmem with hfirst | hmem
          · cases hfirst
          · exact ih hrest datum hmem
      | some own =>
          obtain ⟨scalar, hscalar, hothers⟩ := Except.bind_eq_ok_iff.mp h
          obtain ⟨rest, hrest, _⟩ := Except.bind_eq_ok_iff.mp hothers
          rcases List.mem_cons.mp hmem with hfirst | hmem
          · cases hfirst
            exact (Datum.encode_eq_ok_iff.mp hscalar).1
          · exact ih hrest datum hmem

theorem type_of_encodeItems {element : ElementType} {data : List Datum}
    {stored : List (Option WireScalar)} (h : encodeItems element data = .ok stored) :
    ∀ datum ∈ data, datum.type = element := by
  rw [← encodeNullableItems_map_some] at h
  intro datum hmem
  exact type_of_encodeNullableItems h datum (List.mem_map_of_mem hmem)

end Native

/-! ## Whole values -/

theorem ElementType.hasDenseArray_iff {element : ElementType} :
    element.hasDenseArray = true ↔ element ≠ .numeric ∧ element ≠ .json := by
  cases element <;> simp [hasDenseArray]

namespace Value

variable {value : Value} {shape : Shape} {native : Native}

/-- The scalars in a value. -/
def scalars : Value → List WireScalar
  | .null _ => []
  | .scalar x => [x]
  | .array _ items => items.reduceOption

/-- The value with its JSON as it would be written. -/
def canonical : Value → Value
  | .null type => .null type
  | .scalar x => .scalar x.canonical
  | .array element items => .array element (canonicalItems items)

/-- No element of the value is null. -/
def NoneNull (value : Value) : Prop :=
  ∀ element items, value = .array element items → none ∉ items

/-- A value can be held in a shape: it has the shape's type, the shape exists for it, what the shape
does not admit as null is not null, its elements are of its type, and its JSON can be read. -/
structure Fits (value : Value) (shape : Shape) : Prop where
  type : value.dataType = shape.dataType
  dense : ∀ element, shape = .denseArray element → element ≠ .numeric ∧ element ≠ .json
  notNull : ∀ element, shape = .scalar element → value.isNull = false
  elements : ∀ element items scalar, value = .array element items → some scalar ∈ items →
    scalar.type = element
  noneNull : ∀ element, shape = .denseArray element → value.NoneNull
  parses : ∀ scalar ∈ value.scalars, scalar.Parses

end Value

namespace Native

/-- A native value is held in a shape, and all of its data are of the shape's type. -/
def HasShape : Native → Shape → Prop
  | .scalar datum, .scalar element => datum.type = element
  | .nullableScalar datum, .nullableScalar element => ∀ own, datum = some own → own.type = element
  | .denseArray items, .denseArray element =>
    ∀ data, items = some data → ∀ datum ∈ data, datum.type = element
  | .nullableArray items, .nullableArray element =>
    ∀ data, items = some data → ∀ datum, some datum ∈ data → datum.type = element
  | _, _ => False

/-- What is stored, but for the untyped null, has its own shape at the type it is stored as. -/
theorem StoredAs.hasShape {native : Native} {type : DataType} {value : Value}
    (hstored : native.StoredAs type value) (hnull : native ≠ .null) :
    native.HasShape (native.shape type) := by
  cases hstored with
  | null => exact absurd rfl hnull
  | scalar hscalar => exact (Datum.encode_eq_ok_iff.mp hscalar).1
  | nullScalar =>
      intro own hown
      cases hown
  | someScalar hscalar =>
      intro own hown
      cases hown
      exact (Datum.encode_eq_ok_iff.mp hscalar).1
  | nullDense =>
      intro data hdata
      cases hdata
  | someDense hitems =>
      intro data hdata
      cases hdata
      exact type_of_encodeItems hitems
  | nullNullable =>
      intro data hdata
      cases hdata
  | someNullable hitems =>
      intro data hdata
      cases hdata
      exact type_of_encodeNullableItems hitems

end Native

namespace Value

variable {value : Value} {shape : Shape} {native : Native}

/-- The ways to read a value: what travels, in which shape, and what is held then. -/
inductive ReadAs : Value → Shape → Native → Prop where
  | nullScalar (element : ElementType) :
      ReadAs (.null (.scalar element)) (.nullableScalar element) (.nullableScalar none)
  | nullDense {element : ElementType} (hdense : element.hasDenseArray = true) :
      ReadAs (.null (.array element)) (.denseArray element) (.denseArray none)
  | nullNullable (element : ElementType) :
      ReadAs (.null (.array element)) (.nullableArray element) (.nullableArray none)
  | scalar {scalar : WireScalar} {datum : Datum} (hread : scalar.decode = .ok datum) :
      ReadAs (.scalar scalar) (.scalar scalar.type) (.scalar datum)
  | someScalar {scalar : WireScalar} {datum : Datum} (hread : scalar.decode = .ok datum) :
      ReadAs (.scalar scalar) (.nullableScalar scalar.type) (.nullableScalar (some datum))
  | someDense {element : ElementType} {items : List (Option WireScalar)} {data : List Datum}
      (hdense : element.hasDenseArray = true) (hread : decodeDense element 0 items = .ok data) :
      ReadAs (.array element items) (.denseArray element) (.denseArray (some data))
  | someNullable {element : ElementType} {items : List (Option WireScalar)}
      {data : List (Option Datum)} (hread : decodeNullable element 0 items = .ok data) :
      ReadAs (.array element items) (.nullableArray element) (.nullableArray (some data))

/-- There are no other ways to read a value, and these are open. -/
theorem decode_eq_ok_iff : value.decode shape = .ok native ↔ value.ReadAs shape native := by
  constructor
  · intro h
    unfold decode at h
    split at h
    case isTrue => cases h
    case isFalse htype =>
      split at h
      case isTrue => cases h
      case isFalse hdense =>
        have htype := not_not.mp htype
        cases value with
        | null type =>
            cases shape with
            | scalar element => cases h
            | nullableScalar element =>
                cases h
                cases htype
                exact .nullScalar element
            | denseArray element =>
                cases h
                cases htype
                apply ReadAs.nullDense
                simpa [asksTooDense] using hdense
            | nullableArray element =>
                cases h
                cases htype
                exact .nullNullable element
        | scalar scalar =>
            cases shape with
            | scalar element =>
                cases htype
                obtain ⟨datum, hread, rfl⟩ := Except.map_eq_ok_iff.mp h
                exact .scalar hread
            | nullableScalar element =>
                cases htype
                obtain ⟨datum, hread, rfl⟩ := Except.map_eq_ok_iff.mp h
                exact .someScalar hread
            | denseArray element => cases htype
            | nullableArray element => cases htype
        | array own items =>
            cases shape with
            | scalar element => cases htype
            | nullableScalar element => cases htype
            | denseArray element =>
                cases htype
                obtain ⟨data, hread, rfl⟩ := Except.map_eq_ok_iff.mp h
                apply ReadAs.someDense _ hread
                simpa [asksTooDense] using hdense
            | nullableArray element =>
                cases htype
                obtain ⟨data, hread, rfl⟩ := Except.map_eq_ok_iff.mp h
                exact .someNullable hread
  · intro h
    cases h with
    | nullScalar => simp [decode, dataType, Shape.dataType, asksTooDense]
    | nullDense hdense => simp [decode, dataType, Shape.dataType, asksTooDense, hdense]
    | nullNullable => simp [decode, dataType, Shape.dataType, asksTooDense]
    | scalar hread => simp [decode, dataType, Shape.dataType, asksTooDense, hread, Except.map]
    | someScalar hread => simp [decode, dataType, Shape.dataType, asksTooDense, hread, Except.map]
    | someDense hdense hread =>
        simp [decode, dataType, Shape.dataType, asksTooDense, hdense, hread, Except.map]
    | someNullable hread =>
        simp [decode, dataType, Shape.dataType, asksTooDense, hread, Except.map]

/-- A null fits every shape of its type that exists and admits it. -/
theorem fits_null {type : DataType} (htype : type = shape.dataType)
    (hdense : ∀ element, shape = .denseArray element → element.hasDenseArray = true)
    (hscalar : ∀ element, shape ≠ .scalar element) : (Value.null type).Fits shape where
  type := htype
  dense element helement := ElementType.hasDenseArray_iff.mp (hdense element helement)
  notNull element helement := absurd helement (hscalar element)
  elements _ _ _ hvalue := by cases hvalue
  noneNull _ _ _ _ hvalue := by cases hvalue
  parses _ hmem := absurd hmem List.not_mem_nil

/-- A scalar that can be read fits both shapes of scalars. -/
theorem fits_scalar {scalar : WireScalar} (htype : .scalar scalar.type = shape.dataType)
    (hparses : scalar.Parses) : (Value.scalar scalar).Fits shape where
  type := htype
  dense := by
    intro element hshape
    rw [hshape] at htype
    cases htype
  notNull _ _ := rfl
  elements _ _ _ hvalue := by cases hvalue
  noneNull _ _ _ _ hvalue := by cases hvalue
  parses := by
    intro other hmem
    rw [List.mem_singleton.mp hmem]
    exact hparses

/-- An array that can be read fits the shapes of arrays that exist and admit its nulls. -/
theorem fits_array {element : ElementType} {items : List (Option WireScalar)}
    (htype : .array element = shape.dataType)
    (hdense : ∀ own, shape = .denseArray own → own.hasDenseArray = true ∧ none ∉ items)
    (hitems : ∀ scalar, some scalar ∈ items → scalar.type = element ∧ scalar.Parses) :
    (Value.array element items).Fits shape where
  type := htype
  dense own hshape := ElementType.hasDenseArray_iff.mp (hdense own hshape).1
  notNull _ _ := rfl
  elements := by
    intro own others scalar hvalue hmem
    cases hvalue
    exact (hitems scalar hmem).1
  noneNull := by
    intro own hshape other others hvalue
    cases hvalue
    exact (hdense own hshape).2
  parses scalar hmem := (hitems scalar (List.reduceOption_mem_iff.mp hmem)).2

/-- A value that is read fits. -/
theorem ReadAs.fits (h : value.ReadAs shape native) : value.Fits shape := by
  cases h with
  | nullScalar => exact fits_null rfl nofun nofun
  | nullDense hdense =>
      refine fits_null rfl ?_ nofun
      intro own hown
      cases hown
      exact hdense
  | nullNullable => exact fits_null rfl nofun nofun
  | scalar hread => exact fits_scalar rfl (WireScalar.exists_decode_iff.mp ⟨_, hread⟩)
  | someScalar hread => exact fits_scalar rfl (WireScalar.exists_decode_iff.mp ⟨_, hread⟩)
  | someDense hdense hread =>
      obtain ⟨hnone, hitems⟩ := exists_decodeDense_iff.mp ⟨_, hread⟩
      apply fits_array rfl _ hitems
      intro own hown
      cases hown
      exact ⟨hdense, hnone⟩
  | someNullable hread => exact fits_array rfl nofun (exists_decodeNullable_iff.mp ⟨_, hread⟩)

/-- A value that fits is read. -/
theorem Fits.exists_readAs (h : value.Fits shape) : ∃ native, value.ReadAs shape native := by
  obtain ⟨htype, hdense, hnull, helements, hnone, hparses⟩ := h
  cases value with
  | null type =>
      cases shape with
      | scalar element => cases hnull element rfl
      | nullableScalar element =>
          cases htype
          exact ⟨_, .nullScalar element⟩
      | denseArray element =>
          cases htype
          exact ⟨_, .nullDense (ElementType.hasDenseArray_iff.mpr (hdense element rfl))⟩
      | nullableArray element =>
          cases htype
          exact ⟨_, .nullNullable element⟩
  | scalar scalar =>
      obtain ⟨datum, hread⟩ :=
        WireScalar.exists_decode_iff.mpr (hparses scalar (List.mem_singleton_self scalar))
      cases shape with
      | scalar element =>
          cases htype
          exact ⟨_, .scalar hread⟩
      | nullableScalar element =>
          cases htype
          exact ⟨_, .someScalar hread⟩
      | denseArray element => cases htype
      | nullableArray element => cases htype
  | array own items =>
      have hitems (scalar : WireScalar) (hmem : some scalar ∈ items) :
          scalar.type = own ∧ scalar.Parses :=
        ⟨helements own items scalar rfl hmem, hparses scalar (List.reduceOption_mem_iff.mpr hmem)⟩
      cases shape with
      | scalar element => cases htype
      | nullableScalar element => cases htype
      | denseArray element =>
          cases htype
          obtain ⟨data, hread⟩ :=
            exists_decodeDense_iff.mpr ⟨hnone own rfl own items rfl, hitems⟩
          exact ⟨_, .someDense (ElementType.hasDenseArray_iff.mpr (hdense own rfl)) hread⟩
      | nullableArray element =>
          cases htype
          obtain ⟨data, hread⟩ := exists_decodeNullable_iff.mpr hitems
          exact ⟨_, .someNullable hread⟩

/-- A value can be read exactly in the shapes that it fits. -/
theorem exists_decode_iff : (∃ native, value.decode shape = .ok native) ↔ value.Fits shape := by
  constructor
  · intro ⟨native, hread⟩
    exact (decode_eq_ok_iff.mp hread).fits
  · intro hfits
    obtain ⟨native, hread⟩ := hfits.exists_readAs
    exact ⟨native, decode_eq_ok_iff.mpr hread⟩

/-- What is read in a shape is held in it. -/
theorem ReadAs.shape_eq (h : value.ReadAs shape native) :
    native ≠ .null ∧ native.shape value.dataType = shape := by
  cases h <;> exact ⟨nofun, rfl⟩

/-- What is read is stored as the value it was read from, but for the spelling of JSON. -/
theorem ReadAs.encode_eq (h : value.ReadAs shape native) :
    native.encode value.dataType = .ok value.canonical := by
  cases h with
  | nullScalar => rfl
  | nullDense => rfl
  | nullNullable => rfl
  | scalar hread => exact Except.map_eq_ok_iff.mpr ⟨_, WireScalar.encode_of_decode hread, rfl⟩
  | someScalar hread => exact Except.map_eq_ok_iff.mpr ⟨_, WireScalar.encode_of_decode hread, rfl⟩
  | someDense hdense hread =>
      have hitems := encodeNullableItems_of_decodeNullable (decodeNullable_of_decodeDense hread)
      rw [Native.encodeNullableItems_map_some] at hitems
      exact Except.map_eq_ok_iff.mpr ⟨_, hitems, rfl⟩
  | someNullable hread =>
      have hitems := encodeNullableItems_of_decodeNullable hread
      exact Except.map_eq_ok_iff.mpr ⟨_, hitems, rfl⟩

theorem ReadAs.hasShape (h : value.ReadAs shape native) : native.HasShape shape := by
  obtain ⟨hnull, hshape⟩ := h.shape_eq
  rw [← hshape]
  exact (Native.storedAs_of_encode h.encode_eq).hasShape hnull

theorem onlyMismatches_decode (value : Value) (shape : Shape) :
    OnlyMismatches (value.decode shape) := by
  unfold decode
  split
  · exact .mismatch _
  split
  · exact .mismatch _
  split
  · exact .mismatch _
  · exact .ok _
  · exact .ok _
  · exact .ok _
  · exact (WireScalar.onlyMismatches_decode _).map _
  · exact (WireScalar.onlyMismatches_decode _).map _
  · exact (onlyMismatches_decodeDense _ _ _).map _
  · exact (onlyMismatches_decodeNullable _ _ _).map _
  · exact .mismatch _

/-- A value is read in a shape if and only if it fits it, and otherwise there is a mismatch. What is
read is held in the shape and has the shape's type throughout, and storing it as the value's type
gives the value again, its JSON as it is written. -/
theorem decode_never_converts (value : Value) (shape : Shape) :
    ((∃ native, value.decode shape = .ok native) ↔ value.Fits shape) ∧
      (∀ error, value.decode shape = .error error → ∃ fault, error = .typeMismatch fault) ∧
      ∀ native, value.decode shape = .ok native →
        native.HasShape shape ∧ native.shape value.dataType = shape ∧
          native.encode value.dataType = .ok value.canonical := by
  refine ⟨exists_decode_iff, onlyMismatches_decode value shape, ?_⟩
  intro native hread
  have hreadAs := decode_eq_ok_iff.mp hread
  exact ⟨hreadAs.hasShape, hreadAs.shape_eq.2, hreadAs.encode_eq⟩

/-- The blanks of a JSON text are all that is lost. -/
example :
    ((Value.array .json [none, some ⟨.json, "[1,  2 ]"⟩]).decode (.nullableArray .json)).bind
        (·.encode (.array .json)) =
      .ok (.array .json [none, some ⟨.json, "[1,2]"⟩]) := by
  decide +kernel

end Value

end Transact
