/-
# Storing and reading back values

`Native.encode` stores an application value as a declared type, `Value.decode`
reads a wire value in a requested shape. Neither ever converts between types:
whatever does not fit is a type mismatch. The two are inverse to each other up
to the untyped null and the text of JSON.
-/

import Transact.Error
import Transact.Json.Printer
import Transact.Json.Reader
import Transact.Value.Native

namespace Transact

/-- A datum on the wire, where a scalar of type `element` is due. -/
def Datum.encode (element : ElementType) (datum : Datum) : Except Error WireScalar :=
  if datum.type = element then .ok (datum.mapJson Json.render)
  else .error (.typeMismatch (.unencodable datum.type.name (.scalar element)))

/-- A wire scalar in the application. -/
def WireScalar.decode (scalar : WireScalar) : Except Error Datum :=
  match scalar.mapJson? Json.parse? with
  | some datum => .ok datum
  | none => .error (.typeMismatch .invalidJson)

/-- An element of an array in the application; it has to have the array's type. -/
def WireScalar.decodeElement (array : ElementType) (index : Nat) (scalar : WireScalar) :
    Except Error Datum :=
  if scalar.type = array then WireScalar.decode scalar
  else .error (.typeMismatch (.elementType index array scalar.type))

namespace Native

/-- The data of an array on the wire. -/
def encodeItems (element : ElementType) : List Datum → Except Error (List (Option WireScalar))
  | [] => .ok []
  | datum :: rest => do
    let scalar ← Datum.encode element datum
    let rest ← encodeItems element rest
    pure (some scalar :: rest)

/-- The data of an array on the wire, nulls among them. -/
def encodeNullableItems (element : ElementType) :
    List (Option Datum) → Except Error (List (Option WireScalar))
  | [] => .ok []
  | none :: rest => do
    let rest ← encodeNullableItems element rest
    pure (none :: rest)
  | some datum :: rest => do
    let scalar ← Datum.encode element datum
    let rest ← encodeNullableItems element rest
    pure (some scalar :: rest)

/-- Store a value as a declared type. -/
def encode (native : Native) (type : DataType) : Except Error Value :=
  match native, type with
  | .null, type => .ok (.null type)
  | .scalar datum, .scalar element | .nullableScalar (some datum), .scalar element =>
    (Datum.encode element datum).map .scalar
  | .nullableScalar none, .scalar element => .ok (.null (.scalar element))
  | .denseArray none, .array element | .nullableArray none, .array element =>
    .ok (.null (.array element))
  | .denseArray (some items), .array element => (encodeItems element items).map (.array element)
  | .nullableArray (some items), .array element =>
    (encodeNullableItems element items).map (.array element)
  | native, type => .error (.typeMismatch (.unencodable native.describe type))

end Native

namespace Value

/-- An array, once every element has the array's type. -/
def checkedArray (element : ElementType) (items : List (Option WireScalar)) : Except Error Value :=
  let wrong := items.zipIdx.findSome? fun (item, index) =>
    item.bind fun x => if x.type = element then none else some (index, x.type)
  match wrong with
  | some (index, found) => .error (.typeMismatch (.elementType index element found))
  | none => .ok (.array element items)

/-- The elements of an array from position `index` on, none of which may be null. -/
def decodeDense (element : ElementType) (index : Nat) :
    List (Option WireScalar) → Except Error (List Datum)
  | [] => .ok []
  | none :: _ => .error (.typeMismatch (.elementNull index element))
  | some x :: rest => do
    let datum ← WireScalar.decodeElement element index x
    let rest ← decodeDense element (index + 1) rest
    pure (datum :: rest)

/-- The elements of an array from position `index` on, nulls among them. -/
def decodeNullable (element : ElementType) (index : Nat) :
    List (Option WireScalar) → Except Error (List (Option Datum))
  | [] => .ok []
  | none :: rest => do
    let rest ← decodeNullable element (index + 1) rest
    pure (none :: rest)
  | some x :: rest => do
    let datum ← WireScalar.decodeElement element index x
    let rest ← decodeNullable element (index + 1) rest
    pure (some datum :: rest)

/-- Whether a shape asks for a dense array of a type that has none. -/
def asksTooDense : Shape → Bool
  | .denseArray element => !element.hasDenseArray
  | _ => false

/-- Read a value in a requested shape. -/
def decode (value : Value) (shape : Shape) : Except Error Native :=
  if value.dataType ≠ shape.dataType then
    .error (.typeMismatch (.undecodable value.dataType shape))
  else if asksTooDense shape then .error (.typeMismatch (.noDenseForm shape.element))
  else
    match value, shape with
    | .null _, .scalar element => .error (.typeMismatch (.nullScalar element))
    | .null _, .nullableScalar _ => .ok (.nullableScalar none)
    | .null _, .denseArray _ => .ok (.denseArray none)
    | .null _, .nullableArray _ => .ok (.nullableArray none)
    | .scalar x, .scalar _ => (WireScalar.decode x).map .scalar
    | .scalar x, .nullableScalar _ =>
      (WireScalar.decode x).map fun datum => .nullableScalar (some datum)
    | .array element items, .denseArray _ =>
      (decodeDense element 0 items).map fun items => .denseArray (some items)
    | .array element items, .nullableArray _ =>
      (decodeNullable element 0 items).map fun items => .nullableArray (some items)
    | value, shape => .error (.typeMismatch (.undecodable value.dataType shape))

end Value

end Transact
