/-
# Transactions of a session

A transaction is active until it commits, is aborted, or one of its calls
fails; then it is over for good, and every further call is refused. While it is
active it holds a scope of the executor, and it gives the scope back the moment
it is over. Cancellation is checked before and after every call of the
executor.
-/

import Transact.Executor.Basic
import Transact.Query.Rows
import Transact.Session.Config

namespace Transact

/-- A transaction of a session. -/
structure Transaction (σ : Type) where
  scope : Option σ
  state : Lifecycle
  config : SessionConfig

namespace Transaction

variable {β σ α : Type}

/-- A transaction that has just been opened. -/
def ofScope (scope : σ) (config : SessionConfig) : Transaction σ := ⟨some scope, .active, config⟩

def isActive (txn : Transaction σ) : Bool := txn.state = .active

/-- Fail unless the transaction is active. -/
def ensureActive (txn : Transaction σ) : Except Error Unit :=
  match txn.state with
  | .active => .ok ()
  | state => .error (.alreadyTerminal state)

/-- What a call on a transaction works on. -/
abbrev Site (β σ : Type) := Transaction σ × Environment β

variable [Executor β σ]

/-- Abort the transaction if it holds a scope; how the executor takes it does not matter. -/
def release (site : Site β σ) : Site β σ :=
  match site.1.scope with
  | none => site
  | some scope =>
    ({ site.1 with scope := none, state := .aborted },
      ((Executor.abort scope).run site.2).2)

/-- Fail, and abort the transaction because of it. -/
def abortWith (error : Error) (site : Site β σ) : Except Error α × Site β σ :=
  (.error error, release site)

/-- Have the executor work on the scope, unless the context is cancelled before or by then. -/
def guarded (context : Context) (work : Call (σ × Environment β) α)
    (site : σ × Environment β) : Except Error α × σ × Environment β :=
  match site.2.signals.check context with
  | .error error => (.error error, site)
  | .ok () =>
    match work.run site with
    | (.error error, site) => (.error error, site)
    | (.ok value, site) =>
      match site.2.signals.check context with
      | .error error => (.error error, site)
      | .ok () => (.ok value, site)

/-- Have the executor work for the transaction, which is aborted if that fails. -/
def call (context : Context) (work : Call (σ × Environment β) α) : Call (Site β σ) α :=
  Call.of fun (txn, environment) =>
    match txn.ensureActive with
    | .error error => (.error error, txn, environment)
    | .ok () =>
      match txn.scope with
      | none => (.error (.internal .noScope), txn, environment)
      | some scope =>
        match guarded context work (scope, environment) with
        | (.ok value, scope, environment) =>
          (.ok value, { txn with scope := some scope }, environment)
        | (.error error, scope, environment) =>
          abortWith error ({ txn with scope := some scope }, environment)

/-- Open a transaction, unless the context is cancelled. -/
def openWith (config : SessionConfig) (context : Context) :
    Call (Environment β) (Transaction σ) := Call.of fun environment =>
  match environment.signals.check context with
  | .error error => (.error error, environment)
  | .ok () =>
    match (Executor.begin context).run environment with
    | (.ok scope, environment) => (.ok (ofScope scope config), environment)
    | (.error error, environment) => (.error error, environment)

/-- Run a query. Arrays are read as dense ones where the caller or else the session prefers. -/
def read (context : Context) (statement : Statement) (preferDense : Option Bool) :
    Call (Site β σ) Rows := Call.of fun (txn, environment) =>
  let (result, site) :=
    (call context (Executor.read context statement)).run (txn, environment)
  (result.map fun result => .ofResult result (preferDense.getD txn.config.preferDense), site)

/-- Run statements all or nothing; the executor has to count each of them. -/
def executeBatch (context : Context) (statements : List Statement) :
    Call (Site β σ) (List Int) := Call.of fun site =>
  match (call context (Executor.executeBatch context statements)).run site with
  | (.error error, site) => (.error error, site)
  | (.ok counts, site) =>
    if counts.length = statements.length then (.ok counts, site)
    else abortWith (.internal (.countMismatch counts.length statements.length)) site

/-- Commit. The transaction is over whatever comes of it, and a cancelled context never
commits. -/
def commit (context : Context) : Call (Site β σ) Unit := Call.of fun (txn, environment) =>
  match txn.ensureActive with
  | .error error => (.error error, txn, environment)
  | .ok () =>
    match environment.signals.check context with
    | .error error => abortWith error (txn, environment)
    | .ok () =>
      match txn.scope with
      | none => (.error (.internal .noScope), txn, environment)
      | some scope =>
        match (Executor.commit context scope).run environment with
        | (.ok (), environment) =>
          (.ok (), { txn with scope := none, state := .committed }, environment)
        | (.error error, environment) =>
          (.error error, { txn with scope := none, state := .aborted }, environment)

/-- Abort, discarding every write. -/
def abort : Call (Site β σ) Unit := Call.of fun (txn, environment) =>
  match txn.ensureActive with
  | .error error => (.error error, txn, environment)
  | .ok () =>
    match txn.scope with
    | none => (.error (.internal .noScope), txn, environment)
    | some scope =>
      let (result, environment) := (Executor.abort scope).run environment
      (result, { txn with scope := none, state := .aborted }, environment)

end Transaction

end Transact
