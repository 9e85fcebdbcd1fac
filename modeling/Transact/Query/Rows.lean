/-
# Reading rows

A cursor over the rows of a result set hands out one row after the other. The
columns of a row are read as native values of their default shape, or as
values of a target; a mismatch then names the column.
-/

import Transact.Query.ResultSet
import Transact.Value.Target

namespace Transact

/-- A row with its columns. Arrays are read as dense ones where that is preferred. -/
structure RowView where
  columns : List Column
  values : Row
  preferDense : Bool
  deriving DecidableEq

namespace RowView

/-- The value of a column. -/
def value (row : RowView) (index : Nat) : Except Error Value :=
  match row.values[index]? with
  | some value => .ok value
  | none => .error (.typeMismatch (.columnIndex index row.values.length))

/-- Name the column in a mismatch. -/
def inColumn {α : Type} (row : RowView) (index : Nat) : Except Error α → Except Error α
  | .error (.typeMismatch fault) =>
    match row.columns[index]? with
    | some column => .error (.typeMismatch (.inColumn column.name fault))
    | none => .error (.typeMismatch fault)
  | outcome => outcome

/-- A column as a value of a target. -/
def get (row : RowView) (target : Target) (index : Nat) : Except Error target.Carrier :=
  match row.value index with
  | .ok value => row.inColumn index (target.ofValue value)
  | .error error => .error error

/-- The first column of a name as a value of a target. -/
def getByName (row : RowView) (target : Target) (name : String) : Except Error target.Carrier :=
  match row.columns.findIdx? (·.name == name) with
  | some index => row.get target index
  | none => .error (.typeMismatch (.columnName name))

/-- A column in its default shape. -/
def native (row : RowView) (index : Nat) : Except Error Native :=
  match row.value index with
  | .ok value => row.inColumn index (value.decode (.default value.dataType row.preferDense))
  | .error error => .error error

end RowView

/-- The rows of a query that have not been handed out yet. -/
structure Rows where
  columns : List Column
  rows : List Row
  preferDense : Bool
  deriving DecidableEq

namespace Rows

/-- A cursor before the first row of a result set. -/
def ofResult (result : ResultSet) (preferDense : Bool) : Rows :=
  ⟨result.columns, result.rows, preferDense⟩

/-- How many rows are left. -/
def length (rows : Rows) : Nat := rows.rows.length

/-- The next row, and the cursor behind it. -/
def next? (rows : Rows) : Option (RowView × Rows) :=
  match rows.rows with
  | [] => none
  | row :: rest => some (⟨rows.columns, row, rows.preferDense⟩, { rows with rows := rest })

/-- The cursor behind the next `count` rows, or at the end. -/
def skip (rows : Rows) (count : Nat) : Rows := { rows with rows := rows.rows.drop count }

/-- The rows that are left. -/
def toList (rows : Rows) : List RowView :=
  rows.rows.map fun row => ⟨rows.columns, row, rows.preferDense⟩

/-- One column of all rows that are left, as values of a target. -/
def column (rows : Rows) (target : Target) (index : Nat) : Except Error (List target.Carrier) :=
  rows.toList.mapM fun row => row.get target index

end Rows

end Transact
