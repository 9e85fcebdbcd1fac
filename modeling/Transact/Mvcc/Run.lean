/-
# Runs of the versioned store

A run is any number of transactions on one store, their steps in any order.
Transactions are numbered as they begin and checkpoints as they are taken. A
transaction leaves the run when it finishes, or when it is dropped: then its
marker stays.
-/

import Transact.Mvcc.Transaction

namespace Transact.Mvcc

/-- A store with the transactions that run on it. -/
structure Run where
  store : Store
  transactions : OrderedMap Nat Transaction
  begun : Nat
  checkpoints : List Writes

namespace Run

/-- An empty store without transactions. -/
def initial : Run := ⟨.empty, .empty, 0, []⟩

/-- A step of a run. -/
inductive Step where
  | begin
  | get (txn : Nat) (key : Bytes)
  | scanPrefix (txn : Nat) (start : Bytes)
  | set (txn : Nat) (key value : Bytes)
  | delete (txn : Nat) (key : Bytes)
  | checkpoint (txn : Nat)
  | restore (txn : Nat) (checkpoint : Nat)
  | commit (txn : Nat)
  | rollback (txn : Nat)
  | drop (txn : Nat)
  deriving DecidableEq, Repr

/-- What a step answers. -/
inductive Answer where
  | begun (txn : Nat) (version : UInt64)
  | value (value : Option Bytes)
  | entries (entries : List (Bytes × Bytes))
  | checkpoint (number : Nat)
  | done
  deriving DecidableEq, Repr

/-- The step names no open transaction, or no checkpoint. -/
def missing : Error := .internal .noTransaction

/-- Put a transaction back after a step. -/
def update (run : Run) (number : Nat) (txn : Transaction) : Run :=
  { run with transactions := run.transactions.insert number txn }

/-- Take a transaction out of the run. -/
def close (run : Run) (number : Nat) : Run :=
  { run with transactions := run.transactions.erase number }

@[simp] theorem get?_update (run : Run) (number other : Nat) (txn : Transaction) :
    (run.update number txn).transactions.get? other =
      if other = number then some txn else run.transactions.get? other :=
  OrderedMap.get?_insert run.transactions number other txn

@[simp] theorem get?_close (run : Run) (number other : Nat) :
    (run.close number).transactions.get? other =
      if other = number then none else run.transactions.get? other :=
  OrderedMap.get?_erase run.transactions number other

/-- Do something with an open transaction. -/
def withOpen (run : Run) (number : Nat) (f : Transaction → Except Error Answer × Run) :
    Except Error Answer × Run :=
  match run.transactions.get? number with
  | some txn => f txn
  | none => (.error missing, run)

/-- Begin a transaction. -/
def begin (run : Run) : Except Error Answer × Run :=
  match Transaction.begin.run run.store with
  | (.ok txn, store) =>
    (.ok (.begun run.begun txn.version),
      { run with store, transactions := run.transactions.insert run.begun txn, begun := run.begun + 1 })
  | (.error error, store) => (.error error, { run with store })

/-- Finish a transaction. -/
def finish (run : Run) (number : Nat) (how : Call Store Unit) : Except Error Answer × Run :=
  let (result, store) := how.run run.store
  (result.map fun () => .done, { run.close number with store })

/-- Perform a step. -/
def step (run : Run) : Step → Except Error Answer × Run
  | .begin => run.begin
  | .get number key => run.withOpen number fun txn =>
    let (result, txn) := txn.get run.store key
    (result.map .value, run.update number txn)
  | .scanPrefix number start => run.withOpen number fun txn =>
    let (result, txn) := txn.scanPrefix run.store start
    (result.map .entries, run.update number txn)
  | .set number key value => run.withOpen number fun txn =>
    (.ok .done, run.update number (txn.set key value))
  | .delete number key => run.withOpen number fun txn =>
    (.ok .done, run.update number (txn.delete key))
  | .checkpoint number => run.withOpen number fun txn =>
    (.ok (.checkpoint run.checkpoints.length),
      { run with checkpoints := run.checkpoints ++ [txn.writes] })
  | .restore number checkpoint => run.withOpen number fun txn =>
    match run.checkpoints[checkpoint]? with
    | some writes => (.ok .done, run.update number (txn.restore writes))
    | none => (.error missing, run)
  | .commit number => run.withOpen number fun txn => run.finish number txn.commit
  | .rollback number => run.withOpen number fun txn => run.finish number txn.rollback
  | .drop number => run.withOpen number fun _ => (.ok .done, run.close number)

/-- Perform steps one after the other. -/
def steps (run : Run) : List Step → List (Except Error Answer) × Run
  | [] => ([], run)
  | step :: rest =>
    let (answer, run) := run.step step
    let (answers, run) := run.steps rest
    (answer :: answers, run)

end Run

end Transact.Mvcc
