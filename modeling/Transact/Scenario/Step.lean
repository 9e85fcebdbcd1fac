/-
# Scenarios

A scenario is a client written as data: steps that name their transactions and
contexts. Steps answer or fail, and a scenario goes on after a failure; inside
the attempts of a transaction that is run again, a failed step ends the attempt,
unless the step is tolerated.
-/

import Transact.Session.World

namespace Transact.Scenario

/-- A step on a batch. A statement that could not be made fails its step. -/
inductive BatchStep where
  | append (statement : Except Error Statement)
  | submit
  | submitExpecting (expected : Int)

/-- A step of a scenario on a database `β`; direct access to the database answers a `ρ`. In an
attempt, the attempt's own transaction is named `self`. -/
inductive Step (β ρ : Type) where
  | newContext (name : String)
  | childContext (parent name : String)
  | copyContext (source name : String)
  | cancel (context : String)
  | check (context : String)
  | isCancelled (context : String)
  | sleep (context : String) (milliseconds : UInt64)
  | openTransaction (txn context : String)
  | read (txn context : String) (statement : Except Error Statement) (preferDense : Option Bool)
  | batch (txn context : String) (strict : Bool) (steps : List BatchStep)
  | commit (txn context : String)
  | abort (txn : String)
  | inspect (txn : String)
  | drop (txn : String)
  | access (look : β → ρ) (edit : β → β)
  | fail (error : Error)
  | tolerate (step : Step β ρ)
  | run (context : String) (policy : Option RetryPolicy) (attempts : List (List (Step β ρ)))

/-- What a step on a batch came to, and the batch after it. Submitting answers counts. -/
structure BatchAnswer where
  result : Except Error (Option (List Int))
  batch : Batch

/-- What a step answers. -/
inductive Answer (ρ : Type) where
  | done
  | flag (value : Bool)
  | state (state : Lifecycle) (config : SessionConfig)
  | rows (rows : Rows)
  | batch (steps : List BatchAnswer)
  | accessed (found : ρ)
  | run (attempts : List (List (Except Error (Answer ρ)) × Option Lifecycle))
    (result : Except Error Nat)

namespace Step

/-- The transaction that a step names. -/
def txn? {β ρ : Type} : Step β ρ → Option String
  | openTransaction txn _ | read txn .. | batch txn .. | commit txn _ | abort txn
  | inspect txn | drop txn => some txn
  | tolerate step => step.txn?
  | _ => none

end Step

end Transact.Scenario
