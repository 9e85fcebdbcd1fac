/-
# Playing scenarios

A scenario becomes a client: names are looked up, and every step turns into
requests. Opening a transaction under a name that is taken drops the old one
once the new one is open. Each attempt of a transaction that is run again plays
the next list of steps, the last one again when they run out.
-/

import Transact.Scenario.Step
import Transact.Session.Retry

namespace Transact.Scenario

/-- The transactions that names stand for; inside an attempt, `self` is its own. -/
structure Names where
  txns : OrderedMap String TxnId
  own : Option TxnId

/-- A part of a scenario as a client, which ends where it fails. -/
abbrev Play (β α : Type) := ExceptT Error (StateT Names (Client β)) α

variable {β ρ α : Type}

/-- Do nothing but ask. -/
def request (r : Request β) : Play β r.Answer := ExceptT.lift (StateT.lift (Client.ask r))

/-- Fail where an answer does. -/
def demand (answer : Except Error α) : Play β α := ExceptT.mk (pure answer)

/-- The transaction of a name. -/
def lookup (names : Names) (name : String) : Option TxnId :=
  match names.own with
  | some txn => if name = "self" then some txn else names.txns.get? name
  | none => names.txns.get? name

/-- The transaction of a name, which has to stand for one. -/
def txnOf (name : String) : Play β TxnId := do
  match lookup (← get) name with
  | some txn => return txn
  | none => throw (.internal .noTransaction)

/-- The context of a name, which has to stand for one. -/
def contextOf (name : String) : Play β Context := do
  match ← request (.findContext name) with
  | some context => return context
  | none => throw (.internal .noContext)

/-- Where a transaction stands, if there is one. -/
def stateOf (txn : TxnId) : Play β (Option Lifecycle) := do
  return (← request (.inspect txn)).map Prod.fst

/-- Play a step on a batch. -/
def BatchStep.play (txn : TxnId) (context : Context) :
    BatchStep → Play β (Except Error (Option (List Int)))
  | .append (.error error) => return .error error
  | .append (.ok statement) => do
    return (← request (.append txn statement)).map fun () => none
  | .submit => do
    return (← request (.submit txn context)).map some
  | .submitExpecting expected => do
    return (← request (.submitExpecting txn context expected)).map some

/-- Play the steps on a batch; a strict batch ends at its first failure. -/
def playBatch (txn : TxnId) (context : Context) (strict : Bool) :
    List BatchStep → Play β (List BatchAnswer)
  | [] => return []
  | step :: rest => do
    let result ← step.play txn context
    let batch := (← request (.inspectBatch txn)).getD .empty
    match result, strict with
    | .error error, true => throw error
    | result, _ =>
      let answers ← playBatch txn context strict rest
      return ⟨result, batch⟩ :: answers

/-- What an attempt leaves behind: the answers of its steps, the state of its transaction, and
what names stand for then. -/
structure AttemptNote (ρ : Type) where
  answers : List (Except Error (Answer ρ))
  state : Option Lifecycle
  names : Names

/-- Play the steps of an attempt, the first failure of which ends it, in its own transaction. -/
def playAttempt (steps : StateT Names (Client β) (List (Except Error (Answer ρ)) × Option Error))
    (outer : Names) (txn : TxnId) (notes : List (AttemptNote ρ)) :
    Client β (AttemptNote ρ × Except Error Nat) := do
  let txns := ((notes.getLast?.map AttemptNote.names).getD outer).txns
  let ((answers, failure), names) ← steps.run ⟨txns, some txn⟩
  let state := (← Client.ask (.inspect txn)).map Prod.fst
  let outcome :=
    match failure with
    | some error => .error error
    | none => .ok (notes.length + 1)
  return (⟨answers, state, names⟩, outcome)

/-- Play a transaction that is run again after a conflict, given what each attempt plays. -/
def playRun (config : SessionConfig) (context : String) (policy : Option RetryPolicy)
    (attempts : List (StateT Names (Client β) (List (Except Error (Answer ρ)) × Option Error))) :
    Play β (Answer ρ) := do
  let context ← contextOf context
  let outer : Names ← get
  let body (txn : TxnId) (notes : List (AttemptNote ρ)) :=
    playAttempt ((attempts[notes.length]? <|> attempts.getLast?).getD (pure ([], none)))
      outer txn notes
  let (notes, result) ← ExceptT.lift (StateT.lift
    (Client.runTransactionWith config (policy.getD config.retry) context body))
  set { outer with txns := ((notes.getLast?.map AttemptNote.names).getD outer).txns }
  return .run (notes.map fun note => (note.answers, note.state)) result

mutual

/-- Play a step. -/
def Step.play (config : SessionConfig) : Step β ρ → Play β (Answer ρ)
  | .newContext name => do
    request (.register name (← request .newContext))
    return .done
  | .childContext parent name => do
    let parent ← contextOf parent
    request (.register name (← request (.childContext parent)))
    return .done
  | .copyContext source name => do
    request (.register name (← contextOf source))
    return .done
  | .cancel context => do
    request (.cancel (← contextOf context))
    return .done
  | .check context => do
    demand (← request (.check (← contextOf context)))
    return .done
  | .isCancelled context => do
    return .flag (← request (.isCancelled (← contextOf context)))
  | .sleep context milliseconds => do
    demand (← request (.sleep (← contextOf context) milliseconds))
    return .done
  | .openTransaction name context => do
    let txn ← demand (← request (.openTransaction config (← contextOf context)))
    if let some old := (← get).txns.get? name then
      let _ ← request (.drop old)
    modify fun names => { names with txns := names.txns.insert name txn }
    return .done
  | .read name context statement preferDense => do
    let txn ← txnOf name
    let context ← contextOf context
    let statement ← demand statement
    return .rows (← demand (← request (.read txn context statement preferDense)))
  | .batch name context strict steps => do
    let txn ← txnOf name
    let context ← contextOf context
    demand (← request (.newBatch txn))
    return .batch (← playBatch txn context strict steps)
  | .commit name context => do
    let txn ← txnOf name
    demand (← request (.commit txn (← contextOf context)))
    return .done
  | .abort name => do
    demand (← request (.abort (← txnOf name)))
    return .done
  | .inspect name => do
    match ← request (.inspect (← txnOf name)) with
    | some (state, config) => return .state state config
    | none => throw (.internal .noTransaction)
  | .drop name => do
    match lookup (← get) name with
    | none => return .flag false
    | some txn =>
      modify fun names => { names with txns := names.txns.erase name }
      return .flag (← request (.drop txn))
  | .access look edit => do
    return .accessed (look (← request (.access edit)))
  | .fail error => throw error
  | .tolerate step => step.play config
  | .run context policy attempts =>
    playRun config context policy (attemptsOf config attempts)

/-- What each attempt plays. -/
def attemptsOf (config : SessionConfig) : List (List (Step β ρ)) →
    List (StateT Names (Client β) (List (Except Error (Answer ρ)) × Option Error))
  | [] => []
  | steps :: rest => attemptOf config steps :: attemptsOf config rest

/-- The answers of an attempt's steps, and the failure that ends it. -/
def attemptOf (config : SessionConfig) : List (Step β ρ) →
    StateT Names (Client β) (List (Except Error (Answer ρ)) × Option Error)
  | [] => pure ([], none)
  | step :: rest => do
    let answer ← (step.play config).run
    match answer, step with
    | .ok _, _ | _, .tolerate _ =>
      let (answers, failure) ← attemptOf config rest
      return (answer :: answers, failure)
    | .error error, _ => return ([answer], some error)

end

/-- Play steps in a row, each with the state in which it leaves the transaction it names. -/
def playAll (config : SessionConfig) : List (Step β ρ) →
    StateT Names (Client β) (List (Except Error (Answer ρ) × Option Lifecycle))
  | [] => pure []
  | step :: rest => do
    let answer ← (step.play config).run
    let state ←
      match step.txn?.bind (lookup (← get)) with
      | some txn => do pure ((← StateT.lift (Client.ask (.inspect txn))).map Prod.fst)
      | none => pure none
    let answers ← playAll config rest
    return (answer, state) :: answers

/-- Drop transactions one after the other. -/
def dropAll : List TxnId → Client β Unit
  | [] => return ()
  | txn :: rest => do
    let _ ← Client.ask (.drop txn)
    dropAll rest

/-- A scenario as a client: there is one context to begin with, `bg`, and what is still open at
the end is dropped. -/
def client (config : SessionConfig) (steps : List (Step β ρ)) :
    Client β (List (Except Error (Answer ρ) × Option Lifecycle)) := do
  let background ← Client.ask .newContext
  Client.ask (.register "bg" background)
  let (answers, names) ← (playAll config steps).run ⟨.empty, none⟩
  dropAll (names.txns.entries.map Prod.snd)
  return answers

end Transact.Scenario
