/-
# Wire values

A value always knows its type, even when it is null. A null scalar, a null
array, an empty array and an array of nulls are four different values. The
elements of an array are not checked when the value is written down; reading
checks them.
-/

import Transact.Value.Scalar

namespace Transact

/-- A typed value as it travels. -/
inductive Value where
  | null (type : DataType)
  | scalar (scalar : WireScalar)
  | array (element : ElementType) (items : List (Option WireScalar))
  deriving DecidableEq

namespace Value

/-- The data type of a value. -/
def dataType : Value → DataType
  | .null type => type
  | .scalar x => .scalar x.type
  | .array element _ => .array element

def isNull : Value → Bool
  | .null _ => true
  | _ => false

/-- Equality of two optional elements. -/
def equalItem {ρ : Type} (equalJson : ρ → ρ → Bool) : Option (Scalar ρ) → Option (Scalar ρ) → Bool
  | none, none => true
  | some x, some y => x.equal equalJson y
  | _, _ => false

/-- Equality element by element. -/
def equalItems {α : Type} (equal : α → α → Bool) : List α → List α → Bool
  | [], [] => true
  | x :: xs, y :: ys => equal x y && equalItems equal xs ys
  | _, _ => false

/-- Equality as values. It is coarser than identity on decimals and zeros, and a NaN is not
equal to itself. -/
def equal : Value → Value → Bool
  | .null type, .null type' => type == type'
  | .scalar x, .scalar y => x.equal (· == ·) y
  | .array element items, .array element' items' =>
    element == element' && equalItems (equalItem (· == ·)) items items'
  | _, _ => false

/-- An element as it is shown. -/
def itemText : Option WireScalar → String
  | some x => x.toText
  | none => "NULL"

/-- A value as it is shown in messages. -/
def toText : Value → String
  | .null _ => "NULL"
  | .scalar x => x.toText
  | .array _ items => "[" ++ ", ".intercalate (items.map itemText) ++ "]"

end Value

end Transact
