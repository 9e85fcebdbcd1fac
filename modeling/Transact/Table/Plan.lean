/-
# Handlers written as data

A plan is a list of actions, done in order until one fails. Actions read and
write rows whose values come from the statement's parameters; some count
changed rows, some produce rows of a result. As a query the plan yields its
rows, as an update the sum of its counts.
-/

import Transact.Table.Handler
import Transact.Query.ResultSet
import Transact.Statement.Basic

namespace Transact.Table

/-- Where a value comes from: a parameter of the statement, or the plan itself. -/
inductive Operand where
  | named (name : String)
  | positional (position : Nat)
  | literal (value : Value)

/-- A step of a plan. -/
inductive Action where
  | insert (table : String) (key row : List Operand)
  | put (table : String) (key row : List Operand)
  | delete (table : String) (key : List Operand)
  | update (table : String) (key : List Operand) (changes : List (Nat × Operand))
  | get (table : String) (key : List Operand) (columns : Option (List Nat))
  | scan (table : String) (columns : Option (List Nat))
  | row (row : List Operand)
  | namedParam (name : String) (target : Target)
  | positionalParam (position : Nat) (target : Target)
  | count (rows : Int)
  | fail (error : Error)
  | cancel (name : String)

namespace Action

/-- Something that a plan needs is not there. -/
def missing (what : String) : Error := .execution (.missingValue what)

/-- The value of an operand. -/
def operand (statement : Statement) : Operand → Except Error Value
  | .named name => ((statement.value? name).map .ok).getD (.error (missing name))
  | .positional position =>
    ((statement.valueAt? position).map .ok).getD
      (.error (missing (ParamKey.positional position).toText))
  | .literal value => .ok value

/-- The values of a row of operands. -/
def operands (statement : Statement) (row : List Operand) : Except Error Row :=
  row.mapM (operand statement)

/-- The chosen columns of a row. -/
def project (columns : Option (List Nat)) (row : Row) : Except Error Row :=
  match columns with
  | none => .ok row
  | some columns => columns.mapM fun column =>
    (row[column]?.map .ok).getD (.error (missing ("column " ++ toString column)))

/-- A row with some of its columns changed. -/
def change (statement : Statement) (row : Row) : List (Nat × Operand) → Except Error Row
  | [] => .ok row
  | (column, operand) :: rest => do
    let value ← Action.operand statement operand
    if column < row.length then change statement (row.set column value) rest
    else throw (missing ("column " ++ toString column))

/-- Append chosen columns of rows to a result. -/
def pushAll (result : ResultSet) (columns : Option (List Nat)) (rows : List Row) :
    Except Error ResultSet :=
  rows.foldlM (fun result row => do result.push (← project columns row)) result

/-- Do one action: what it produces is appended to the result, and it counts rows. -/
def perform (statement : Statement) (result : ResultSet) :
    Action → Handler (ResultSet × Int)
  | .insert table key values => do
    let key ← operands statement key
    let values ← operands statement values
    Handler.insert table key values
    return (result, 1)
  | .put table key values => do
    let key ← operands statement key
    let values ← operands statement values
    Handler.put table key values
    return (result, 1)
  | .delete table key => do
    let key ← operands statement key
    let existed ← Handler.delete table key
    return (result, if existed then 1 else 0)
  | .update table key changes => do
    let key ← operands statement key
    match ← Handler.get table key with
    | none => return (result, 0)
    | some old =>
      let changed ← change statement old changes
      Handler.put table key changed
      return (result, 1)
  | .get table key columns => do
    let key ← operands statement key
    let found ← Handler.get table key
    return (← pushAll result columns found.toList, 0)
  | .scan table columns => do
    let rows ← Handler.scan table
    return (← pushAll result columns rows, 0)
  | .row values => do
    let values ← operands statement values
    return (← result.push values, 0)
  | .namedParam name target => do
    let _ ← statement.param target name
    return (result, 0)
  | .positionalParam position target => do
    let _ ← statement.paramAt target position
    return (result, 0)
  | .count rows => return (result, rows)
  | .fail error => throw error
  | .cancel name => do
    Handler.cancelNamed name
    return (result, 0)

/-- Do actions in order. -/
def performAll (statement : Statement) : List Action → ResultSet → Int → Handler (ResultSet × Int)
  | [], result, total => return (result, total)
  | action :: rest, result, total => do
    let (result, counted) ← action.perform statement result
    performAll statement rest result (total + counted)

end Action

/-- A plan as the handler of a query with the given columns. -/
def queryOfPlan (columns : List Column) (plan : List Action) (statement : Statement) :
    Handler ResultSet :=
  Prod.fst <$> Action.performAll statement plan (.ofColumns columns) 0

/-- A plan as the handler of an update; it has no columns to produce rows for. -/
def updateOfPlan (plan : List Action) (statement : Statement) : Handler Int :=
  Prod.snd <$> Action.performAll statement plan (.ofColumns []) 0

end Transact.Table
