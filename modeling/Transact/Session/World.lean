/-
# Sessions at work

Any number of transactions are open on one database at a time, with the
contexts that their calls listen to. A `Request` is one call of a client on all
this; a run is requests in any order, and so every interleaving of any number
of sessions is one.

A transaction is known by its number. A batch belongs to the transaction it was
begun on, and any other use of the transaction ends it.
-/

import Transact.Interaction
import Transact.Session.Batch

namespace Transact

/-- The number of a transaction, in the order of opening. -/
abbrev TxnId := Nat

/-- A transaction with the batch that is being made on it. -/
structure Slot (σ : Type) where
  transaction : Transaction σ
  batch : Option Batch

/-- The database with the open transactions. -/
structure World (β σ : Type) where
  environment : Environment β
  slots : OrderedMap TxnId (Slot σ)
  opened : TxnId

namespace World

/-- A database on which no transaction has been opened. -/
def ofBackend {β σ : Type} (signals : Signals) (backend : β) : World β σ :=
  ⟨⟨signals, backend⟩, .empty, 0⟩

end World

/-- One call of a client. -/
inductive Request (β : Type) where
  | newContext
  | childContext (parent : Context)
  | register (name : String) (context : Context)
  | findContext (name : String)
  | cancel (context : Context)
  | isCancelled (context : Context)
  | check (context : Context)
  | sleep (context : Context) (milliseconds : UInt64)
  | openTransaction (config : SessionConfig) (context : Context)
  | inspect (txn : TxnId)
  | read (txn : TxnId) (context : Context) (statement : Statement) (preferDense : Option Bool)
  | newBatch (txn : TxnId)
  | inspectBatch (txn : TxnId)
  | append (txn : TxnId) (statement : Statement)
  | submit (txn : TxnId) (context : Context)
  | submitExpecting (txn : TxnId) (context : Context) (expected : Int)
  | commit (txn : TxnId) (context : Context)
  | abort (txn : TxnId)
  | drop (txn : TxnId)
  | access (edit : β → β)

namespace Request

/-- What a request is answered. -/
@[reducible] def Answer {β : Type} : Request β → Type
  | newContext | childContext _ => Context
  | register .. | cancel _ => Unit
  | findContext _ => Option Context
  | isCancelled _ => Bool
  | check _ | sleep .. => Except Error Unit
  | openTransaction .. => Except Error TxnId
  | inspect _ => Option (Lifecycle × SessionConfig)
  | read .. => Except Error Rows
  | newBatch _ | append .. => Except Error Unit
  | inspectBatch _ => Option Batch
  | submit .. | submitExpecting .. => Except Error (List Int)
  | commit .. | abort _ => Except Error Unit
  | drop _ => Bool
  | access _ => β

end Request

namespace World

variable {β σ α : Type}

/-- Change the signals. -/
def withSignals (world : World β σ) (signals : Signals) : World β σ :=
  { world with environment := { world.environment with signals } }

/-- Perform a call on a transaction; the batch that was being made on it is over. -/
def onTransaction (world : World β σ) (txn : TxnId) (call : Call (Transaction.Site β σ) α) :
    Except Error α × World β σ :=
  match world.slots.get? txn with
  | none => (.error (.internal .noTransaction), world)
  | some slot =>
    let (result, transaction, environment) := call.run (slot.transaction, world.environment)
    (result,
      { world with environment, slots := world.slots.insert txn ⟨transaction, none⟩ })

/-- Perform a call on the batch that is being made on a transaction. -/
def onBatch (world : World β σ) (txn : TxnId) (call : Call (Batch.Site β σ) α) :
    Except Error α × World β σ :=
  match world.slots.get? txn with
  | some ⟨transaction, some batch⟩ =>
    let (result, batch, transaction, environment) :=
      call.run (batch, transaction, world.environment)
    (result,
      { world with environment, slots := world.slots.insert txn ⟨transaction, some batch⟩ })
  | _ => (.error (.internal .noTransaction), world)

/-- Begin a batch, on an active transaction. -/
def newBatch (world : World β σ) (txn : TxnId) : Except Error Unit × World β σ :=
  match world.slots.get? txn with
  | none => (.error (.internal .noTransaction), world)
  | some slot =>
    match slot.transaction.ensureActive with
    | .error error => (.error error, world)
    | .ok () =>
      (.ok (), { world with slots := world.slots.insert txn { slot with batch := some .empty } })

variable [Executor β σ]

/-- Open a transaction. -/
def openTransaction (world : World β σ) (config : SessionConfig) (context : Context) :
    Except Error TxnId × World β σ :=
  match (Transaction.openWith config context).run world.environment with
  | (.error error, environment) => (.error error, { world with environment })
  | (.ok transaction, environment) =>
    (.ok world.opened,
      { environment, slots := world.slots.insert world.opened ⟨transaction, none⟩,
        opened := world.opened + 1 })

/-- Forget a transaction, aborting it if it is active, and say whether there was one. -/
def drop (world : World β σ) (txn : TxnId) : Bool × World β σ :=
  match world.slots.get? txn with
  | none => (false, world)
  | some slot =>
    let (_, environment) := Transaction.release (slot.transaction, world.environment)
    (true, { world with environment, slots := world.slots.erase txn })

/-- Do what a client asks for. -/
def perform : (request : Request β) → World β σ → request.Answer × World β σ
  | .newContext, world =>
    let (context, signals) := world.environment.signals.newContext
    (context, world.withSignals signals)
  | .childContext parent, world =>
    let (context, signals) := world.environment.signals.childContext parent
    (context, world.withSignals signals)
  | .register name context, world =>
    ((), world.withSignals (world.environment.signals.register name context))
  | .findContext name, world => (world.environment.signals.named.get? name, world)
  | .cancel context, world => ((), world.withSignals (world.environment.signals.cancel context))
  | .isCancelled context, world => (world.environment.signals.isCancelled context, world)
  | .check context, world => (world.environment.signals.check context, world)
  | .sleep context _, world => (world.environment.signals.check context, world)
  | .openTransaction config context, world => world.openTransaction config context
  | .inspect txn, world =>
    ((world.slots.get? txn).map fun slot => (slot.transaction.state, slot.transaction.config),
      world)
  | .read txn context statement preferDense, world =>
    world.onTransaction txn (Transaction.read context statement preferDense)
  | .newBatch txn, world => world.newBatch txn
  | .inspectBatch txn, world => (world.slots.get? txn >>= Slot.batch, world)
  | .append txn statement, world => world.onBatch txn (Batch.append statement)
  | .submit txn context, world => world.onBatch txn (Batch.submit context)
  | .submitExpecting txn context expected, world =>
    world.onBatch txn (Batch.submitExpecting context expected)
  | .commit txn context, world => world.onTransaction txn (Transaction.commit context)
  | .abort txn, world => world.onTransaction txn Transaction.abort
  | .drop txn, world => world.drop txn
  | .access edit, world =>
    (world.environment.backend,
      { world with
        environment := { world.environment with backend := edit world.environment.backend } })

end World

/-- A program that makes requests. -/
abbrev Client (β : Type) := Interaction (Request β) Request.Answer

/-- Perform a client's requests one after the other. -/
def Client.run {β σ α : Type} [Executor β σ] (client : Client β α) (world : World β σ) :
    α × World β σ :=
  Interaction.run World.perform client world

end Transact
