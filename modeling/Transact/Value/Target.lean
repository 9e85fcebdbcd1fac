/-
# Typed access

The application reads and binds values as plain types: a payload, or an option,
a list, or a combination of the two. A `Target` names such a type, and its
`Carrier` is the type. Every target has one shape; only the targets with an
option outside accept a null array.
-/

import Transact.Value.Codec

namespace Transact

/-- How payloads are wrapped. -/
inductive Form where
  | plain
  | optional
  | list
  | optionalList
  | listOfOptional
  | optionalListOfOptional
  deriving DecidableEq, Repr

/-- The wrapped type. -/
@[reducible] def Form.Carrier (α : Type) : Form → Type
  | .plain => α
  | .optional => Option α
  | .list => List α
  | .optionalList => Option (List α)
  | .listOfOptional => List (Option α)
  | .optionalListOfOptional => Option (List (Option α))

/-- A plain type that values are read as. -/
structure Target where
  form : Form
  element : ElementType
  deriving DecidableEq, Repr

namespace Target

/-- The type that a target names. -/
@[reducible] def Carrier (target : Target) : Type :=
  target.form.Carrier (target.element.Payload Json)

/-- The shape that values of the target are held in. -/
def shape (target : Target) : Shape :=
  match target.form with
  | .plain => .scalar target.element
  | .optional => .nullableScalar target.element
  | .list | .optionalList => .denseArray target.element
  | .listOfOptional | .optionalListOfOptional => .nullableArray target.element

/-- A value of the target as a native value. -/
def toNative : (target : Target) → target.Carrier → Native
  | ⟨.plain, element⟩, x => .scalar ⟨element, x⟩
  | ⟨.optional, element⟩, x => .nullableScalar (x.map (⟨element, ·⟩))
  | ⟨.list, element⟩, xs => .denseArray (some (xs.map (⟨element, ·⟩)))
  | ⟨.optionalList, element⟩, xs => .denseArray (xs.map fun xs => xs.map (⟨element, ·⟩))
  | ⟨.listOfOptional, element⟩, xs =>
    .nullableArray (some (xs.map fun x => x.map (⟨element, ·⟩)))
  | ⟨.optionalListOfOptional, element⟩, xs =>
    .nullableArray (xs.map fun xs => xs.map fun x => x.map (⟨element, ·⟩))

/-- A value of the target on the wire. -/
def toValue (target : Target) (x : target.Carrier) : Except Error Value :=
  (target.toNative x).encode target.shape.dataType

/-- The payload of a datum that has to be of type `element`. -/
def payloadOf (element : ElementType) (datum : Datum) : Except Error (element.Payload Json) :=
  if h : datum.type = element then .ok (h ▸ datum.payload)
  else .error (.typeMismatch (.datumType element datum.type))

/-- The payloads of a row of data. -/
def payloadsOf (element : ElementType) : List Datum → Except Error (List (element.Payload Json))
  | [] => .ok []
  | datum :: rest => do
    let x ← payloadOf element datum
    let rest ← payloadsOf element rest
    pure (x :: rest)

/-- The payload of a datum that may be missing. -/
def optionalPayloadOf (element : ElementType) :
    Option Datum → Except Error (Option (element.Payload Json))
  | none => .ok none
  | some datum => (payloadOf element datum).map some

/-- The payloads of a row of data, nulls among them. -/
def optionalPayloadsOf (element : ElementType) :
    List (Option Datum) → Except Error (List (Option (element.Payload Json)))
  | [] => .ok []
  | item :: rest => do
    let x ← optionalPayloadOf element item
    let rest ← optionalPayloadsOf element rest
    pure (x :: rest)

/-- A native value that does not have the target's shape. -/
def wrongShape (target : Target) : Native → Error
  | .denseArray none | .nullableArray none => .typeMismatch (.nullTarget target.shape)
  | _ => .typeMismatch (.wrongShape target.shape)

/-- A native value as a value of the target. -/
def ofNative : (target : Target) → Native → Except Error target.Carrier
  | ⟨.plain, element⟩, .scalar datum => payloadOf element datum
  | ⟨.optional, element⟩, .nullableScalar datum => optionalPayloadOf element datum
  | ⟨.list, element⟩, .denseArray (some items) => payloadsOf element items
  | ⟨.optionalList, _⟩, .denseArray none => .ok none
  | ⟨.optionalList, element⟩, .denseArray (some items) => (payloadsOf element items).map some
  | ⟨.listOfOptional, element⟩, .nullableArray (some items) => optionalPayloadsOf element items
  | ⟨.optionalListOfOptional, _⟩, .nullableArray none => .ok none
  | ⟨.optionalListOfOptional, element⟩, .nullableArray (some items) =>
    (optionalPayloadsOf element items).map some
  | target, native => .error (target.wrongShape native)

/-- A wire value as a value of the target. -/
def ofValue (target : Target) (value : Value) : Except Error target.Carrier := do
  target.ofNative (← value.decode target.shape)

end Target

end Transact
