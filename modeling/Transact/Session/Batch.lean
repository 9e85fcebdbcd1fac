/-
# Batches

An ordered group of statements that takes effect all or nothing. It collects
statements until it is submitted, once. Whatever is done to it after that
aborts its transaction, and so does a submission that fails.
-/

import Transact.Session.Transaction

namespace Transact

/-- A group of statements, and whether it has been submitted. -/
structure Batch where
  statements : List Statement
  submitted : Bool
  deriving DecidableEq

namespace Batch

/-- A batch without statements. -/
def empty : Batch := ⟨[], false⟩

variable {β σ : Type}

/-- What a call on a batch works on. -/
abbrev Site (β σ : Type) := Batch × Transaction.Site β σ

variable [Executor β σ]

/-- Fail, and abort the batch's transaction because of it. -/
def abortWith {α : Type} (error : Error) (site : Site β σ) : Except Error α × Site β σ :=
  (.error error, site.1, Transaction.release site.2)

/-- Add a statement. -/
def append (statement : Statement) : Call (Site β σ) Unit := Call.of fun (batch, site) =>
  if batch.submitted then abortWith (.construction .appendAfterSubmit) (batch, site)
  else (.ok (), { batch with statements := batch.statements ++ [statement] }, site)

/-- Submit the batch: one count for each statement. Without statements the executor is not
asked. -/
def submit (context : Context) : Call (Site β σ) (List Int) := Call.of fun (batch, site) =>
  if batch.submitted then abortWith (.construction .submittedTwice) (batch, site)
  else
    match site.1.ensureActive with
    | .error error => (.error error, batch, site)
    | .ok () =>
      let batch := { batch with submitted := true }
      match site.2.signals.check context with
      | .error error => abortWith error (batch, site)
      | .ok () =>
        if batch.statements.isEmpty then (.ok [], batch, site)
        else
          let (result, site) := (Transaction.executeBatch context batch.statements).run site
          (result, batch, site)

/-- The sum of counts. -/
def total (counts : List Int) : Int := counts.foldr (· + ·) 0

/-- Submit the batch; its counts have to add up to what is expected. -/
def submitExpecting (context : Context) (expected : Int) : Call (Site β σ) (List Int) :=
  Call.of fun site =>
    match (submit context).run site with
    | (.error error, site) => (.error error, site)
    | (.ok counts, site) =>
      if total counts = expected then (.ok counts, site)
      else abortWith (.rowCountMismatch expected (total counts)) site

end Batch

end Transact
