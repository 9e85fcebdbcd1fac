/-
# Result sets

What a query returns: named and typed columns, and rows of wire values. Rows
that are pushed are checked against the columns.
-/

import Transact.Error
import Transact.Record.Row

namespace Transact

/-- A named column with its declared type. -/
structure Column where
  name : String
  type : DataType
  deriving DecidableEq

/-- The columns and rows that a query returns. -/
structure ResultSet where
  columns : List Column
  rows : List Row
  deriving DecidableEq

namespace ResultSet

/-- A result set without rows. -/
def ofColumns (columns : List Column) : ResultSet := ⟨columns, []⟩

/-- The first column whose value is not of its type, with the type found. -/
def mismatch? (columns : List Column) (row : Row) : Option (Column × DataType) :=
  (columns.zip row).findSome? fun (column, value) =>
    if column.type = value.dataType then none else some (column, value.dataType)

/-- Append a row that fits the columns. -/
def push (result : ResultSet) (row : Row) : Except Error ResultSet :=
  if row.length ≠ result.columns.length then
    .error (.execution (.rowLength row.length result.columns.length))
  else
    match mismatch? result.columns row with
    | some (column, found) => .error (.execution (.columnType column.name column.type found))
    | none => .ok { result with rows := result.rows ++ [row] }

end ResultSet

end Transact
