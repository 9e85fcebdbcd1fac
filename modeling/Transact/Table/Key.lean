/-
# Where rows live

All rows of all tables share one key space. A row's key is its table's name and
the values of its primary key, in the layout of stored records; the name alone
is laid out the same way and begins the keys of exactly that table's rows,
because its length comes first.
-/

import Transact.Record.Row

namespace Transact.Table

/-- What the keys of all rows of a table begin with. -/
def tablePrefix (table : String) : Bytes :=
  Record.variantField 0 ++ Record.textField table

/-- The key of a row. -/
def rowKey (table : String) (key : List Value) : Bytes :=
  tablePrefix table ++ Record.listField Record.valueField key

end Transact.Table
