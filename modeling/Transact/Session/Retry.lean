/-
# Running transactions again

`Client.runTransaction` runs a body in a fresh transaction and commits it,
unless the body has finished the transaction itself. A conflict, from the body
or from the commit, runs everything again in a new transaction after a delay,
as often as the policy admits; every other outcome stands. A cancelled context
ends the attempts before the next one begins.

A body leaves a note at the end of each attempt, and sees the notes of the
attempts before: this is all that it can remember.
-/

import Transact.Session.World

namespace Transact.Client

variable {β ν α : Type}

/-- Do nothing but ask. -/
def ask (request : Request β) : Client β request.Answer := Interaction.ask request

/-- Whether a transaction is active. -/
def isActive (txn : TxnId) : Client β Bool :=
  (ask (.inspect txn)).bind fun found =>
    .done (match found with
      | some (state, _) => state = .active
      | none => false)

/-- Finish a transaction as the outcome of its body demands, if it is still active. -/
def finish (context : Context) (txn : TxnId) (outcome : Except Error α) :
    Client β (Except Error α) :=
  (isActive txn).bind fun active =>
    if active then
      match outcome with
      | .ok value => (ask (.commit txn context)).bind fun result =>
        .done (result.map fun () => value)
      | .error error => (ask (.abort txn)).bind fun _ => .done (.error error)
    else .done outcome

/-- What one attempt came to: it was not begun, or it was, left a note, and has an outcome. -/
inductive Attempt (ν α : Type) where
  | refused (error : Error)
  | finished (txn : TxnId) (note : ν) (outcome : Except Error α)

/-- One attempt: open a transaction, run the body in it, and finish it. -/
def attempt (config : SessionConfig) (context : Context)
    (body : TxnId → Client β (ν × Except Error α)) : Client β (Attempt ν α) :=
  (ask (.check context)).bind fun
    | .error error => .done (.refused error)
    | .ok () => (ask (.openTransaction config context)).bind fun
      | .error error => .done (.refused error)
      | .ok txn => (body txn).bind fun (note, outcome) =>
        (finish context txn outcome).bind fun outcome => .done (.finished txn note outcome)

/-- Attempts until one has an outcome that stands, `left` more being admitted after the next
one. The notes so far are in the order of the attempts. -/
def attemptsFrom (config : SessionConfig) (policy : RetryPolicy) (context : Context)
    (body : TxnId → List ν → Client β (ν × Except Error α)) :
    (left : Nat) → (notes : List ν) → Client β (List ν × Except Error α)
  | 0, notes =>
    (attempt config context fun txn => body txn notes).bind fun
      | .refused error => .done (notes, .error error)
      | .finished txn note outcome =>
        (ask (.drop txn)).bind fun _ => .done (notes ++ [note], outcome)
  | left + 1, notes =>
    (attempt config context fun txn => body txn notes).bind fun
      | .refused error => .done (notes, .error error)
      | .finished txn note outcome =>
        let notes := notes ++ [note]
        match outcome with
        | .error .conflictAborted =>
          (ask (.sleep context (policy.backoff notes.length))).bind fun
            | .error error => (ask (.drop txn)).bind fun _ => .done (notes, .error error)
            | .ok () => (ask (.drop txn)).bind fun _ =>
              attemptsFrom config policy context body left notes
        | outcome => (ask (.drop txn)).bind fun _ => .done (notes, outcome)

/-- Run a body in a fresh transaction and commit it, again after a conflict. Every attempt
leaves its note. -/
def runTransactionWith (config : SessionConfig) (policy : RetryPolicy) (context : Context)
    (body : TxnId → List ν → Client β (ν × Except Error α)) :
    Client β (List ν × Except Error α) :=
  attemptsFrom config policy context body (policy.attempts - 1) []

/-- The same by the session's own policy. -/
def runTransaction (config : SessionConfig) (context : Context)
    (body : TxnId → List ν → Client β (ν × Except Error α)) :
    Client β (List ν × Except Error α) :=
  runTransactionWith config config.retry context body

end Transact.Client
