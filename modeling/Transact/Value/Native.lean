/-
# Application values

A native value carries the shape it is held in. The untyped null has no shape
of its own and takes whatever type it is stored as. The absent array is the
null array; it is not the empty one.
-/

import Transact.Value.Basic
import Transact.Value.Shape

namespace Transact

/-- A value of the application, tagged with how it is held. -/
inductive Native where
  | null
  | scalar (datum : Datum)
  | nullableScalar (datum : Option Datum)
  | denseArray (items : Option (List Datum))
  | nullableArray (items : Option (List (Option Datum)))
  deriving DecidableEq

namespace Native

/-- The shape that a value comes back in when it is stored as `type`. -/
def shape (native : Native) (type : DataType) : Shape :=
  match native with
  | .null => .default type false
  | .scalar _ => .scalar type.element
  | .nullableScalar _ => .nullableScalar type.element
  | .denseArray _ => .denseArray type.element
  | .nullableArray _ => .nullableArray type.element

/-- The type that the value itself implies: that of its first datum. -/
def inferType? : Native → Option DataType
  | .null | .nullableScalar none | .denseArray none | .nullableArray none => none
  | .scalar datum | .nullableScalar (some datum) => some (.scalar datum.type)
  | .denseArray (some items) => items.head?.map fun datum => .array datum.type
  | .nullableArray (some items) => (items.findSome? id).map fun datum => .array datum.type

/-- A native value as it is named in messages. -/
def describe : Native → String
  | .null => "untyped NULL"
  | .scalar datum => "non-null " ++ datum.type.name
  | .nullableScalar (some datum) => "nullable " ++ datum.type.name
  | .nullableScalar none => "nullable NULL"
  | .denseArray _ => "dense array"
  | .nullableArray _ => "nullable-element array"

/-- Equality as values. -/
def equal : Native → Native → Bool
  | .null, .null => true
  | .scalar x, .scalar y => x.equal Json.equal y
  | .nullableScalar x, .nullableScalar y => Value.equalItem Json.equal x y
  | .denseArray none, .denseArray none => true
  | .denseArray (some xs), .denseArray (some ys) => Value.equalItems (Scalar.equal Json.equal) xs ys
  | .nullableArray none, .nullableArray none => true
  | .nullableArray (some xs), .nullableArray (some ys) =>
    Value.equalItems (Value.equalItem Json.equal) xs ys
  | _, _ => false

end Native

end Transact
