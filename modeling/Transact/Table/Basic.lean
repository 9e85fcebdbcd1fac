/-
# Tables

Rows by table name and primary key, seen through one transaction: what is read
is tracked for the commit, and what is written stays in the buffer until then.
A row is inserted only where there is none; putting replaces.
-/

import Transact.Mvcc.Transaction
import Transact.Table.Key

namespace Transact.Table

/-- A row from its stored form, if one is stored. -/
def rowOf : Option Bytes → Except Error (Option Row)
  | none => .ok none
  | some stored => (Error.ofInternal (Record.decodeRow stored)).map some

/-- The rows of stored entries, in their order. -/
def rowsOf : List (Bytes × Bytes) → Except Error (List Row)
  | [] => .ok []
  | (_, stored) :: rest => do
    let row ← Error.ofInternal (Record.decodeRow stored)
    let rows ← rowsOf rest
    pure (row :: rows)

/-- The row under a key, if there is one. -/
def get (store : Store) (table : String) (key : List Value) :
    Call Mvcc.Transaction (Option Row) := Call.of fun txn =>
  let (found, txn) := txn.get store (rowKey table key)
  (found >>= rowOf, txn)

/-- Write a row, in place of any other under its key. -/
def put (table : String) (key : List Value) (row : Row) : Call Mvcc.Transaction Unit :=
  Call.of fun txn => (.ok (), txn.set (rowKey table key) (Record.rowField row))

/-- Write a row under a key that is free. -/
def insert (store : Store) (table : String) (key : List Value) (row : Row) :
    Call Mvcc.Transaction Unit := Call.of fun txn =>
  match (get store table key).run txn with
  | (.error error, txn) => (.error error, txn)
  | (.ok (some _), txn) => (.error (.execution (.rowExists key table)), txn)
  | (.ok none, txn) => (put table key row).run txn

/-- Remove the row under a key, and say whether there was one. -/
def delete (store : Store) (table : String) (key : List Value) : Call Mvcc.Transaction Bool :=
  Call.of fun txn =>
    match (get store table key).run txn with
    | (.error error, txn) => (.error error, txn)
    | (.ok none, txn) => (.ok false, txn)
    | (.ok (some _), txn) => (.ok true, txn.delete (rowKey table key))

/-- All rows of a table, in the order of their keys. -/
def scan (store : Store) (table : String) : Call Mvcc.Transaction (List Row) :=
  Call.of fun txn =>
    let (found, txn) := txn.scanPrefix store (tablePrefix table)
    (found >>= rowsOf, txn)

end Transact.Table
