/-
# The scripted database

An executor that answers from a script and keeps a log of its calls. Every kind
of call has its own row of replies; when they run out, calls succeed: queries
return nothing, and every statement counts one row. The context of a call is
ignored.
-/

import Transact.Executor.Basic

namespace Transact

/-- How a call is answered: a context may be cancelled first, and then the call fails or
succeeds. Without an outcome it succeeds as usual. -/
structure Reply (α : Type) where
  cancelled : Option String := none
  outcome : Option (Except Error α) := none

/-- A call in the log. -/
inductive LogEntry where
  | begin
  | read (sql : String)
  | batch (statements : Nat)
  | commit
  | abort
  deriving DecidableEq, Repr

/-- The replies that are left, and the calls so far, the last one first. -/
structure Script where
  begins : List (Reply Unit) := []
  reads : List (Reply ResultSet) := []
  batches : List (Reply (List Int)) := []
  commits : List (Reply Unit) := []
  aborts : List (Reply Unit) := []
  log : List LogEntry := []

namespace Script

/-- Note a call. -/
def note (script : Script) (entry : LogEntry) : Script :=
  { script with log := entry :: script.log }

/-- Answer a call by the first of the replies, or as usual where there is none. -/
def answer {α : Type} (replies : List (Reply α)) (usual : α) (signals : Signals) :
    Except Error α × Signals × List (Reply α) :=
  match replies with
  | [] => (.ok usual, signals, [])
  | reply :: rest =>
    (reply.outcome.getD (.ok usual),
      (match reply.cancelled with
        | some name => signals.cancelNamed name
        | none => signals),
      rest)

/-- Begin a transaction. -/
def begin : Call (Environment Script) Unit := Call.of fun ⟨signals, script⟩ =>
  let (result, signals, begins) := answer script.begins () signals
  (result, ⟨signals, { script.note .begin with begins }⟩)

/-- Run a query. -/
def read (statement : Statement) : Call (Unit × Environment Script) ResultSet :=
  Call.of fun (scope, ⟨signals, script⟩) =>
    let (result, signals, reads) := answer script.reads (.ofColumns []) signals
    (result, scope, ⟨signals, { script.note (.read statement.sql) with reads }⟩)

/-- Run a batch. -/
def executeBatch (statements : List Statement) : Call (Unit × Environment Script) (List Int) :=
  Call.of fun (scope, ⟨signals, script⟩) =>
    let (result, signals, batches) := answer script.batches (statements.map fun _ => 1) signals
    (result, scope, ⟨signals, { script.note (.batch statements.length) with batches }⟩)

/-- Commit. -/
def commit : Call (Environment Script) Unit := Call.of fun ⟨signals, script⟩ =>
  let (result, signals, commits) := answer script.commits () signals
  (result, ⟨signals, { script.note .commit with commits }⟩)

/-- Abort. -/
def abort : Call (Environment Script) Unit := Call.of fun ⟨signals, script⟩ =>
  let (result, signals, aborts) := answer script.aborts () signals
  (result, ⟨signals, { script.note .abort with aborts }⟩)

end Script

instance : Executor Script Unit where
  begin _ := Script.begin
  read _ := Script.read
  executeBatch _ := Script.executeBatch
  commit _ _ := Script.commit
  abort _ := Script.abort

end Transact
