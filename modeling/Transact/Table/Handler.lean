/-
# Handlers

What a registered statement does: a program that reads and writes rows and may
cancel contexts while it runs. It sees the answer of each call, failures
included, and ends with a result or an error of its own. A row that it writes
is buffered by the transaction it runs in; a handler cannot finish that
transaction.
-/

import Transact.Interaction
import Transact.Session.Context
import Transact.Table.Basic

namespace Transact.Table

/-- What a handler may ask for. -/
inductive Request where
  | get (table : String) (key : List Value)
  | insert (table : String) (key : List Value) (row : Row)
  | put (table : String) (key : List Value) (row : Row)
  | delete (table : String) (key : List Value)
  | scan (table : String)
  | findContext (name : String)
  | cancel (context : Context)

/-- What a handler is answered. -/
@[reducible] def Request.Answer : Request → Type
  | .get .. => Except Error (Option Row)
  | .insert .. | .put .. => Except Error Unit
  | .delete .. => Except Error Bool
  | .scan _ => Except Error (List Row)
  | .findContext _ => Option Context
  | .cancel _ => Unit

/-- What a handler works on: its transaction, and the signals of contexts. -/
abbrev Site := Mvcc.Transaction × Signals

/-- A call on tables leaves the signals alone. -/
def onTables {α : Type} (call : Call Mvcc.Transaction α) (site : Site) : Except Error α × Site :=
  let (result, txn) := call.run site.1
  (result, txn, site.2)

/-- Do what a handler asks for. -/
def perform (store : Store) : (request : Request) → Site → request.Answer × Site
  | .get table key, site => onTables (get store table key) site
  | .insert table key row, site => onTables (insert store table key row) site
  | .put table key row, site => onTables (put table key row) site
  | .delete table key, site => onTables (delete store table key) site
  | .scan table, site => onTables (scan store table) site
  | .findContext name, (txn, signals) => (signals.named.get? name, txn, signals)
  | .cancel context, (txn, signals) => ((), txn, signals.cancel context)

/-- A handler that ends with an `α` or an error; it ends where a part of it fails, unless it
looks at the failure. -/
abbrev Handler := ExceptT Error (Interaction Request Request.Answer)

namespace Handler

/-- Run a handler. -/
def perform {α : Type} (store : Store) (handler : Handler α) : Call Site α :=
  Call.of fun site => Interaction.run (Table.perform store) handler site

/-- Read a row. -/
def get (table : String) (key : List Value) : Handler (Option Row) :=
  Interaction.ask (Request.get table key)

/-- Write a row under a free key. -/
def insert (table : String) (key : List Value) (row : Row) : Handler Unit :=
  Interaction.ask (Request.insert table key row)

/-- Write a row, in place of any other. -/
def put (table : String) (key : List Value) (row : Row) : Handler Unit :=
  Interaction.ask (Request.put table key row)

/-- Remove a row. -/
def delete (table : String) (key : List Value) : Handler Bool :=
  Interaction.ask (Request.delete table key)

/-- Read all rows of a table. -/
def scan (table : String) : Handler (List Row) :=
  Interaction.ask (Request.scan table)

/-- Cancel the context that is registered under a name; without one, nothing happens. -/
def cancelNamed (name : String) : Handler Unit :=
  Interaction.call (Request.findContext name) fun
    | some context => Interaction.call (Request.cancel context) fun () => .done (.ok ())
    | none => .done (.ok ())

end Handler

end Transact.Table
