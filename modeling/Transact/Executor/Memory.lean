/-
# The database in memory

An executor over the versioned store. It does not understand statements: every
text that is used has a handler, found by its words. Reads run the handlers of
queries, batches those of updates. When a statement of a batch fails, the
transaction's writes go back to what they were before the batch; what the batch
has read stays tracked.
-/

import Transact.Executor.Basic
import Transact.Table.Handler
import Transact.Text.Blank

namespace Transact

open Table (Handler)

/-- A store, with the handlers of the statements that it answers. -/
structure Memory where
  store : Store
  queries : OrderedMap String (Statement → Handler ResultSet)
  updates : OrderedMap String (Statement → Handler Int)

namespace Memory

/-- An empty store without handlers. -/
def empty : Memory := ⟨.empty, .empty, .empty⟩

/-- Register the handler of a query. -/
def withQuery (memory : Memory) (sql : String) (handler : Statement → Handler ResultSet) :
    Memory :=
  { memory with queries := memory.queries.insert (Blank.collapse sql) handler }

/-- Register the handler of an update. -/
def withUpdate (memory : Memory) (sql : String) (handler : Statement → Handler Int) : Memory :=
  { memory with updates := memory.updates.insert (Blank.collapse sql) handler }

/-- The scope of a transaction on the store. -/
abbrev Scope := Mvcc.Transaction

/-- A call on the store alone. -/
def onStore {α : Type} (call : Call Store α) : Call (Environment Memory) α :=
  Call.of fun environment =>
    let (result, store) := call.run environment.backend.store
    (result, { environment with backend := { environment.backend with store } })

/-- Run a handler inside a transaction. -/
def runHandler {α : Type} (handler : Handler α) : Call (Scope × Environment Memory) α :=
  Call.of fun (txn, environment) =>
    let (result, txn, signals) := (handler.perform environment.backend.store).run
      (txn, environment.signals)
    (result, txn, { environment with signals })

/-- The handler of a query, found by the words of its text. -/
def query? (memory : Memory) (statement : Statement) : Except Error (Handler ResultSet) :=
  let sql := Blank.collapse statement.sql
  match memory.queries.get? sql with
  | some handler => .ok (handler statement)
  | none => .error (.execution (.unknownQuery sql))

/-- The handler of an update, found by the words of its text. -/
def update? (memory : Memory) (statement : Statement) : Except Error (Handler Int) :=
  let sql := Blank.collapse statement.sql
  match memory.updates.get? sql with
  | some handler => .ok (handler statement)
  | none =>
    if memory.queries.contains sql then .error (.execution (.isQuery sql))
    else .error (.execution (.unknownStatement sql))

/-- Begin a transaction, unless its context is cancelled. -/
def begin (context : Context) : Call (Environment Memory) Scope := Call.of fun environment =>
  match environment.signals.check context with
  | .error error => (.error error, environment)
  | .ok () => (onStore Mvcc.Transaction.begin).run environment

/-- Run a query, unless its context is cancelled. -/
def read (context : Context) (statement : Statement) :
    Call (Scope × Environment Memory) ResultSet := Call.of fun (txn, environment) =>
  match environment.signals.check context with
  | .error error => (.error error, txn, environment)
  | .ok () =>
    match environment.backend.query? statement with
    | .error error => (.error error, txn, environment)
    | .ok handler => (runHandler handler).run (txn, environment)

/-- Run one statement of a batch, unless the batch's context is cancelled. -/
def execute (context : Context) (statement : Statement) : Call (Scope × Environment Memory) Int :=
  Call.of fun (txn, environment) =>
    match environment.signals.check context with
    | .error error => (.error error, txn, environment)
    | .ok () =>
      match environment.backend.update? statement with
      | .error error => (.error error, txn, environment)
      | .ok handler => (runHandler handler).run (txn, environment)

/-- Run statements until one fails; the failure comes with the place of the statement,
`index` being that of the first. -/
def executeFrom (context : Context) (index : Nat) :
    List Statement → Scope × Environment Memory →
      Except (Nat × Error) (List Int) × Scope × Environment Memory
  | [], site => (.ok [], site)
  | statement :: rest, site =>
    match (execute context statement).run site with
    | (.error error, site) => (.error (index, error), site)
    | (.ok count, site) =>
      match executeFrom context (index + 1) rest site with
      | (.ok counts, site) => (.ok (count :: counts), site)
      | (.error failure, site) => (.error failure, site)

/-- How the failure of a statement shows as that of its batch. -/
def batchError (index : Nat) : Error → Error
  | .cancelled => .cancelled
  | .executionFailed _ fault => .executionFailed (some index) fault
  | other => .executionFailed (some index) (.other other.message)

/-- Run a batch, all or nothing. -/
def executeBatch (context : Context) (statements : List Statement) :
    Call (Scope × Environment Memory) (List Int) := Call.of fun site =>
  match executeFrom context 0 statements site with
  | (.ok counts, site) => (.ok counts, site)
  | (.error (index, error), (txn, environment)) =>
    (.error (batchError index error), txn.restore site.1.writes, environment)

/-- Commit, unless the context is cancelled. -/
def commit (context : Context) (txn : Scope) : Call (Environment Memory) Unit :=
  Call.of fun environment =>
    match environment.signals.check context with
    | .error error => (.error error, ((onStore txn.rollback).run environment).2)
    | .ok () => (onStore txn.commit).run environment

/-- Finish without writing. -/
def abort (txn : Scope) : Call (Environment Memory) Unit := onStore txn.rollback

end Memory

instance : Executor Memory Mvcc.Transaction where
  begin := Memory.begin
  read := Memory.read
  executeBatch := Memory.executeBatch
  commit := Memory.commit
  abort := Memory.abort

end Transact
