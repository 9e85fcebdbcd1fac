/-
# Shapes

How the application wants to hold a value: a scalar that may or may not be
null, or an array whose elements may or may not be null. Array shapes of both
kinds admit a null array.
-/

import Transact.Value.ElementType

namespace Transact

/-- A representation of values of one data type. -/
inductive Shape where
  | scalar (element : ElementType)
  | nullableScalar (element : ElementType)
  | denseArray (element : ElementType)
  | nullableArray (element : ElementType)
  deriving DecidableEq, Repr

namespace Shape

def element : Shape → ElementType
  | .scalar element | .nullableScalar element | .denseArray element | .nullableArray element =>
    element

/-- The data type whose values have the shape. -/
def dataType : Shape → DataType
  | .scalar element | .nullableScalar element => .scalar element
  | .denseArray element | .nullableArray element => .array element

/-- The shape used where none is named: scalars may be null, and arrays have nullable
elements, unless dense arrays are preferred and the element type admits them. -/
def default (type : DataType) (preferDense : Bool) : Shape :=
  match type with
  | .scalar element => .nullableScalar element
  | .array element =>
    if preferDense && element.hasDenseArray then .denseArray element else .nullableArray element

/-- A shape as it is named in messages. -/
def toText : Shape → String
  | .scalar element => "non-null " ++ element.name
  | .nullableScalar element => "nullable " ++ element.name
  | .denseArray element => "dense ARRAY<" ++ element.name ++ ">"
  | .nullableArray element => "nullable-element ARRAY<" ++ element.name ++ ">"

end Shape

end Transact
