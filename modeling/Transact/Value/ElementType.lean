/-
# Types of columns and parameters

An element type names one of ten kinds of scalar; a data type is an element
type or an array of it. The order of the element types is part of the stored
format.
-/

import Transact.Calendar.Timestamp
import Transact.Numeric.Binary
import Transact.Numeric.Decimal

namespace Transact

/-- The kind of a scalar. -/
inductive ElementType where
  | bool
  | string
  | bytes
  | int64
  | float32
  | float64
  | numeric
  | date
  | timestamp
  | json
  deriving DecidableEq, Repr

namespace ElementType

/-- All element types, in the order of the stored format. -/
def all : List ElementType :=
  [.bool, .string, .bytes, .int64, .float32, .float64, .numeric, .date, .timestamp, .json]

/-- The name in statements and messages. -/
def name : ElementType → String
  | .bool => "BOOL"
  | .string => "STRING"
  | .bytes => "BYTES"
  | .int64 => "INT64"
  | .float32 => "FLOAT32"
  | .float64 => "FLOAT64"
  | .numeric => "NUMERIC"
  | .date => "DATE"
  | .timestamp => "TIMESTAMP"
  | .json => "JSON"

/-- The element type of a name. -/
def ofName? (name : String) : Option ElementType :=
  all.find? fun type => type.name == name

/-- Whether arrays of the type may be read as arrays without null elements. Numeric and JSON
arrays always keep nullable elements. -/
def hasDenseArray : ElementType → Bool
  | .numeric | .json => false
  | _ => true

/-- What a scalar of the type holds, JSON being held as `ρ`. -/
@[reducible] def Payload (ρ : Type) : ElementType → Type
  | .bool => Bool
  | .string => String
  | .bytes => Bytes
  | .int64 => Int64
  | .float32 => Binary32
  | .float64 => Binary64
  | .numeric => Decimal
  | .date => Date
  | .timestamp => Timestamp
  | .json => ρ

/-- Payloads of one type are compared exactly: floats bit for bit, decimals with their scale. -/
def decideEqPayload {ρ : Type} [DecidableEq ρ] : (type : ElementType) → DecidableEq (type.Payload ρ)
  | .bool => inferInstanceAs (DecidableEq Bool)
  | .string => inferInstanceAs (DecidableEq String)
  | .bytes => inferInstanceAs (DecidableEq Bytes)
  | .int64 => inferInstanceAs (DecidableEq Int64)
  | .float32 => inferInstanceAs (DecidableEq Binary32)
  | .float64 => inferInstanceAs (DecidableEq Binary64)
  | .numeric => inferInstanceAs (DecidableEq Decimal)
  | .date => inferInstanceAs (DecidableEq Date)
  | .timestamp => inferInstanceAs (DecidableEq Timestamp)
  | .json => inferInstanceAs (DecidableEq ρ)

end ElementType

/-- The declared type of a column or parameter. -/
inductive DataType where
  | scalar (element : ElementType)
  | array (element : ElementType)
  deriving DecidableEq, Repr

namespace DataType

/-- The element type. -/
def element : DataType → ElementType
  | .scalar element | .array element => element

def isArray : DataType → Bool
  | .scalar _ => false
  | .array _ => true

/-- The name in statements and messages. -/
def name : DataType → String
  | .scalar element => element.name
  | .array element => "ARRAY<" ++ element.name ++ ">"

/-- The data type of a name. -/
def ofName? (name : String) : Option DataType :=
  (ElementType.all.flatMap fun element => [DataType.scalar element, .array element]).find?
    fun type => type.name == name

end DataType

end Transact
