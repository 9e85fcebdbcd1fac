/-
# What requests do to the database and its transactions

Every request that does not edit the database by hand has one of a few effects:
nothing happens to the database and its transactions; a transaction is opened,
or fails to open; one transaction is served, which leaves it working or makes it
give its scope back; or one commits. Whatever else a world holds stays as it is.
-/

import Transact.Proofs.Session.Transaction
import Transact.Session.World

namespace Transact

open Table (RowWrite)

namespace Request

variable {β : Type}

/-- Whether a request leaves it to the transactions to change the database. -/
def KeepsBackend : Request β → Prop
  | .access _ => False
  | _ => True

/-- Whether a request is to open a transaction. -/
def opens : Request β → Bool
  | .openTransaction .. => true
  | _ => false

/-- Whether an answer is not an error. -/
def succeeds : (request : Request β) → request.Answer → Bool
  | .check _, answer => answer.isOk
  | .sleep .., answer => answer.isOk
  | .openTransaction .., answer => answer.isOk
  | .read .., answer => answer.isOk
  | .newBatch _, answer => answer.isOk
  | .append .., answer => answer.isOk
  | .submit .., answer => answer.isOk
  | .submitExpecting .., answer => answer.isOk
  | .commit .., answer => answer.isOk
  | .abort _, answer => answer.isOk
  | _, _ => true

end Request

/-- A world over a database in memory. -/
abbrev MemoryWorld := World Memory Memory.Scope

namespace World

variable {world after : MemoryWorld} {txn other : TxnId}

/-! ## What a world holds -/

/-- The content of the database. -/
def store (world : MemoryWorld) : Store := world.environment.backend.store

/-- The transaction with a number, if it has been opened and not dropped. -/
def transaction? (world : MemoryWorld) (txn : TxnId) : Option (Transaction Memory.Scope) :=
  (world.slots.get? txn).map Slot.transaction

/-- The scope of the transaction with a number, while it is active. -/
def scope? (world : MemoryWorld) (txn : TxnId) : Option Memory.Scope :=
  (world.transaction? txn).bind Transaction.scope

/-- The batch that is being made on a transaction. -/
def batch? (world : MemoryWorld) (txn : TxnId) : Option Batch :=
  (world.slots.get? txn).bind Slot.batch

/-- Numbers are given in order, and each transaction is active exactly while it has a scope. -/
structure WellFormed (world : MemoryWorld) : Prop where
  unopened : ∀ txn, world.opened ≤ txn → world.transaction? txn = none
  coherent : ∀ txn transaction, world.transaction? txn = some transaction → transaction.Coherent

/-! ## What a request is for -/

/-- A request that is made in a world is not answered by an error. -/
def Succeeds (world : MemoryWorld) (request : Request Memory) : Prop :=
  request.succeeds (world.perform request).1 = true

instance (world : MemoryWorld) (request : Request Memory) : Decidable (world.Succeeds request) :=
  inferInstanceAs (Decidable (_ = true))

/-- A request is a commit that goes through. -/
def Commits (world : MemoryWorld) (request : Request Memory) : Prop :=
  (∃ txn context, request = .commit txn context) ∧ world.Succeeds request

/-- The transaction whose query or batch a request is for, if there is one. -/
def worker? (world : MemoryWorld) : Request Memory → Option TxnId
  | .read txn .. => (world.transaction? txn).map fun _ => txn
  | .append txn _ | .submit txn _ | .submitExpecting txn .. => (world.batch? txn).map fun _ => txn
  | _ => none

/-- The row writes of work inside a transaction. -/
def writesOf (world : MemoryWorld) (txn : TxnId) (writes : Memory.Site → List RowWrite) :
    List RowWrite :=
  match world.scope? txn with
  | some scope => writes (scope, world.environment)
  | none => []

/-- The row writes of the handlers that a request runs, in the order of their calls. -/
def rowWrites (world : MemoryWorld) : Request Memory → List RowWrite
  | .read txn _ statement _ => world.writesOf txn (Memory.readWrites statement)
  | .submit txn context | .submitExpecting txn context _ =>
    match world.batch? txn with
    | some batch => world.writesOf txn (Memory.batchWrites context batch.statements)
    | none => []
  | _ => []

/-! ## What a request does -/

/-- What becomes of a world through a request. -/
inductive Effect (world : MemoryWorld) (request : Request Memory) (after : MemoryWorld) : Prop where
  | quiet (hworker : world.worker? request = none) (hcommits : ¬ world.Commits request)
      (hstore : after.store = world.store) (hopened : after.opened = world.opened)
      (htransactions : ∀ txn, after.transaction? txn = world.transaction? txn)
  | unopened {config : SessionConfig} {context : Context} {error : Error}
      (hrequest : request = .openTransaction config context)
      (hbegin : Mvcc.Transaction.begin.run world.store = (.error error, after.store))
      (hopened : after.opened = world.opened)
      (htransactions : ∀ txn, after.transaction? txn = world.transaction? txn)
  | opened {config : SessionConfig} {context : Context} {scope : Memory.Scope}
      (hrequest : request = .openTransaction config context)
      (hbegin : Mvcc.Transaction.begin.run world.store = (.ok scope, after.store))
      (hopened : after.opened = world.opened + 1)
      (htransactions : ∀ txn, after.transaction? txn =
        if txn = world.opened then some (.ofScope scope config) else world.transaction? txn)
  | served {α : Type} {txn : TxnId} {transaction outcome : Transaction Memory.Scope}
      {left : Option (Transaction Memory.Scope)} {answer : Except Error α}
      (hcommits : ¬ world.Commits request) (hfound : world.transaction? txn = some transaction)
      (hserved : Transaction.Served (world.rowWrites request) (transaction, world.environment)
        answer (outcome, after.environment))
      (hworker : world.worker? request = some txn ∧
          (answer.isOk = true → world.Succeeds request) ∨
        world.worker? request = none ∧ world.rowWrites request = [])
      (hleft : left = some outcome ∨ left = none ∧ outcome.scope = none)
      (hopened : after.opened = world.opened)
      (htransactions : ∀ other, after.transaction? other =
        if other = txn then left else world.transaction? other)
  | committed {txn : TxnId} {context : Context} {transaction : Transaction Memory.Scope}
      {scope : Memory.Scope} (hrequest : request = .commit txn context)
      (hsucceeds : world.Succeeds request) (hfound : world.transaction? txn = some transaction)
      (hscope : transaction.scope = some scope)
      (hstore : after.store = scope.release (scope.apply world.store))
      (hopened : after.opened = world.opened)
      (htransactions : ∀ other, after.transaction? other =
        if other = txn then some { transaction with scope := none, state := .committed }
        else world.transaction? other)

theorem transaction?_eq_some_iff {transaction : Transaction Memory.Scope} :
    world.transaction? txn = some transaction ↔
      ∃ slot, world.slots.get? txn = some slot ∧ slot.transaction = transaction := by
  simp [transaction?]

theorem transaction?_insert (world : MemoryWorld) (environment : Environment Memory)
    (opened txn other : TxnId) (slot : Slot Memory.Scope) :
    transaction? ⟨environment, world.slots.insert txn slot, opened⟩ other =
      if other = txn then some slot.transaction else world.transaction? other := by
  rw [transaction?, transaction?, OrderedMap.get?_insert]
  split <;> rfl

theorem transaction?_eq_none_iff : world.transaction? txn = none ↔ world.slots.get? txn = none := by
  simp [transaction?]

theorem batch?_eq_some_iff {batch : Batch} :
    world.batch? txn = some batch ↔
      ∃ transaction, world.slots.get? txn = some ⟨transaction, some batch⟩ := by
  rw [batch?]
  cases world.slots.get? txn with
  | none => simp
  | some slot =>
      obtain ⟨transaction, made⟩ := slot
      simp

theorem writesOf_eq {transaction : Transaction Memory.Scope}
    (hfound : world.transaction? txn = some transaction) (writes : Memory.Site → List RowWrite) :
    world.writesOf txn writes =
      Transaction.writesInside writes (transaction, world.environment) := by
  rw [writesOf, scope?, hfound]
  rfl

/-- A request that is no commit commits nothing. -/
theorem not_commits {request : Request Memory}
    (h : ∀ txn context, request ≠ .commit txn context) : ¬ world.Commits request := by
  rintro ⟨⟨txn, context, hrequest⟩, -⟩
  exact h txn context hrequest

/-- A request that finds nothing to work on does nothing. -/
theorem effect_self {request : Request Memory} (hworker : world.worker? request = none)
    (hcommits : ¬ world.Commits request) : Effect world request world :=
  .quiet hworker hcommits rfl rfl fun _ => rfl

/-! ### Calls on a transaction -/

theorem onTransaction_missing {α : Type} {call : Call (Transaction.Site Memory Memory.Scope) α}
    (h : world.transaction? txn = none) :
    world.onTransaction txn call = (.error (.internal .noTransaction), world) := by
  rw [onTransaction, transaction?_eq_none_iff.mp h]

theorem onTransaction_eq {α : Type} {call : Call (Transaction.Site Memory Memory.Scope) α}
    {slot : Slot Memory.Scope} (hslot : world.slots.get? txn = some slot) :
    world.onTransaction txn call =
      ((call.run (slot.transaction, world.environment)).1,
        ⟨(call.run (slot.transaction, world.environment)).2.2,
          world.slots.insert txn ⟨(call.run (slot.transaction, world.environment)).2.1, none⟩,
          world.opened⟩) := by
  rw [onTransaction, hslot]

/-- A call on a transaction that ends as the calls for it do. -/
theorem onTransaction_effect {α : Type} {call : Call (Transaction.Site Memory Memory.Scope) α}
    {request : Request Memory} {transaction : Transaction Memory.Scope}
    (hfound : world.transaction? txn = some transaction) (hcommits : ¬ world.Commits request)
    (hserved : Transaction.Served (world.rowWrites request) (transaction, world.environment)
      (call.run (transaction, world.environment)).1 (call.run (transaction, world.environment)).2)
    (hworker : world.worker? request = some txn ∧
        ((world.onTransaction txn call).1.isOk = true → world.Succeeds request) ∨
      world.worker? request = none ∧ world.rowWrites request = []) :
    Effect world request (world.onTransaction txn call).2 := by
  obtain ⟨slot, hslot, rfl⟩ := transaction?_eq_some_iff.mp hfound
  rw [onTransaction_eq hslot] at hworker ⊢
  exact .served hcommits hfound hserved hworker (.inl rfl) rfl fun _ => transaction?_insert ..

theorem read_effect (hworld : world.WellFormed) (txn : TxnId) (context : Context)
    (statement : Statement) (preferDense : Option Bool) :
    Effect world (.read txn context statement preferDense)
      (world.perform (.read txn context statement preferDense)).2 := by
  have hcommits : ¬ world.Commits (.read txn context statement preferDense) := not_commits nofun
  cases hfound : world.transaction? txn with
  | none =>
      rw [perform, onTransaction_missing hfound]
      exact effect_self (by rw [worker?, hfound]; rfl) hcommits
  | some transaction =>
      apply onTransaction_effect hfound hcommits
      · rw [rowWrites, writesOf_eq hfound]
        exact Transaction.read_served context statement preferDense
          (hworld.coherent txn _ hfound)
      · exact .inl ⟨by rw [worker?, hfound]; rfl, fun hok => hok⟩

theorem abort_effect (hworld : world.WellFormed) (txn : TxnId) :
    Effect world (.abort txn) (world.perform (.abort txn)).2 := by
  have hcommits : ¬ world.Commits (.abort txn) := not_commits nofun
  cases hfound : world.transaction? txn with
  | none =>
      rw [perform, onTransaction_missing hfound]
      exact effect_self rfl hcommits
  | some transaction =>
      exact onTransaction_effect hfound hcommits
        (Transaction.abort_served (hworld.coherent txn _ hfound)) (.inr ⟨rfl, rfl⟩)

/-- A commit goes through, or it ends as other calls do. -/
theorem commit_effect (hworld : world.WellFormed) (txn : TxnId) (context : Context) :
    Effect world (.commit txn context) (world.perform (.commit txn context)).2 := by
  cases hfound : world.transaction? txn with
  | none =>
      have hmissing : world.onTransaction txn (Transaction.commit context) = _ :=
        onTransaction_missing hfound
      have hcommits : ¬ world.Commits (.commit txn context) := by
        rintro ⟨-, hsucceeds⟩
        rw [Succeeds, perform, hmissing] at hsucceeds
        cases hsucceeds
      rw [perform, hmissing]
      exact effect_self rfl hcommits
  | some transaction =>
      obtain ⟨slot, hslot, rfl⟩ := transaction?_eq_some_iff.mp hfound
      have hcall : world.onTransaction txn (Transaction.commit context) = _ :=
        onTransaction_eq hslot
      rcases Transaction.commit_cases context (slot.transaction, world.environment)
        (hworld.coherent txn _ hfound) with ⟨error, hanswer, hserved⟩ | ⟨scope, hscope, hcommit⟩
      · have hcommits : ¬ world.Commits (.commit txn context) := by
          rintro ⟨-, hsucceeds⟩
          rw [Succeeds, perform, hcall, hanswer] at hsucceeds
          cases hsucceeds
        apply onTransaction_effect hfound hcommits
        · rw [hanswer]
          exact hserved
        · exact .inr ⟨rfl, rfl⟩
      · rw [hcommit] at hcall
        have hsucceeds : world.Succeeds (.commit txn context) := by
          rw [Succeeds, perform, hcall]
          rfl
        rw [perform, hcall]
        exact .committed rfl hsucceeds hfound hscope rfl rfl fun _ => transaction?_insert ..

/-! ### Calls on a batch -/

theorem onBatch_missing {α : Type} {call : Call (Batch.Site Memory Memory.Scope) α}
    (h : world.batch? txn = none) :
    world.onBatch txn call = (.error (.internal .noTransaction), world) := by
  rw [batch?] at h
  rw [onBatch]
  cases hslot : world.slots.get? txn with
  | none => rfl
  | some slot =>
      obtain ⟨transaction, batch⟩ := slot
      rw [hslot] at h
      cases h
      rfl

theorem onBatch_eq {α : Type} {call : Call (Batch.Site Memory Memory.Scope) α} {batch : Batch}
    {transaction : Transaction Memory.Scope}
    (hslot : world.slots.get? txn = some ⟨transaction, some batch⟩) :
    world.onBatch txn call =
      ((call.run (batch, transaction, world.environment)).1,
        ⟨(call.run (batch, transaction, world.environment)).2.2.2,
          world.slots.insert txn
            ⟨(call.run (batch, transaction, world.environment)).2.2.1,
              some (call.run (batch, transaction, world.environment)).2.1⟩,
          world.opened⟩) := by
  rw [onBatch, hslot]

/-- A call on a batch, if there is one, that ends for its transaction as the calls for it do. -/
theorem onBatch_effect {α : Type} {call : Call (Batch.Site Memory Memory.Scope) α}
    {request : Request Memory} (hcommits : ¬ world.Commits request)
    (hworker : world.worker? request = (world.batch? txn).map fun _ => txn)
    (hserved : ∀ transaction batch, world.transaction? txn = some transaction →
      world.batch? txn = some batch →
        Transaction.Served (world.rowWrites request) (transaction, world.environment)
          (call.run (batch, transaction, world.environment)).1
          (call.run (batch, transaction, world.environment)).2.2)
    (hsucceeds : (world.onBatch txn call).1.isOk = true → world.Succeeds request) :
    Effect world request (world.onBatch txn call).2 := by
  cases hbatch : world.batch? txn with
  | none =>
      rw [onBatch_missing hbatch]
      exact effect_self (by rw [hworker, hbatch]; rfl) hcommits
  | some batch =>
      obtain ⟨transaction, hslot⟩ := batch?_eq_some_iff.mp hbatch
      have hfound : world.transaction? txn = some transaction :=
        transaction?_eq_some_iff.mpr ⟨_, hslot, rfl⟩
      rw [hbatch] at hworker
      rw [onBatch_eq hslot] at hsucceeds ⊢
      exact .served hcommits hfound (hserved transaction batch hfound hbatch)
        (.inl ⟨hworker, hsucceeds⟩) (.inl rfl) rfl fun _ => transaction?_insert ..

theorem append_effect (txn : TxnId) (statement : Statement) :
    Effect world (.append txn statement) (world.perform (.append txn statement)).2 := by
  refine onBatch_effect (not_commits nofun) rfl ?_ fun hok => hok
  intro transaction batch _ _
  exact Batch.append_served statement

/-- The row writes of the batch that is made on a transaction. -/
theorem batch_writes_eq {context : Context} {batch : Batch}
    {transaction : Transaction Memory.Scope} (hfound : world.transaction? txn = some transaction)
    (hbatch : world.batch? txn = some batch) :
    world.rowWrites (.submit txn context) =
      Transaction.writesInside (Memory.batchWrites context batch.statements)
        (transaction, world.environment) := by
  rw [rowWrites, hbatch]
  exact writesOf_eq hfound _

theorem submit_effect (hworld : world.WellFormed) (txn : TxnId) (context : Context) :
    Effect world (.submit txn context) (world.perform (.submit txn context)).2 := by
  refine onBatch_effect (not_commits nofun) rfl ?_ fun hok => hok
  intro transaction batch hfound hbatch
  rw [batch_writes_eq hfound hbatch]
  exact Batch.submit_served context (hworld.coherent txn _ hfound)

theorem submitExpecting_effect (hworld : world.WellFormed) (txn : TxnId) (context : Context)
    (expected : Int) :
    Effect world (.submitExpecting txn context expected)
      (world.perform (.submitExpecting txn context expected)).2 := by
  refine onBatch_effect (not_commits nofun) rfl ?_ fun hok => hok
  intro transaction batch hfound hbatch
  show Transaction.Served (world.rowWrites (.submit txn context)) _ _ _
  rw [batch_writes_eq hfound hbatch]
  exact Batch.submitExpecting_served context expected (hworld.coherent txn _ hfound)

/-! ### Opening, dropping, and beginning a batch -/

theorem openTransaction_effect (config : SessionConfig) (context : Context) :
    Effect world (.openTransaction config context)
      (world.perform (.openTransaction config context)).2 := by
  have hcommits : ¬ world.Commits (.openTransaction config context) := not_commits nofun
  cases hcheck : world.environment.signals.check context with
  | error error =>
      simp only [perform, openTransaction, Transaction.openWith, Call.run, Call.of, hcheck]
      exact effect_self rfl hcommits
  | ok =>
      have hopening := Memory.begin_eq hcheck
      simp only [Call.run] at hopening
      simp only [perform, openTransaction, Transaction.openWith, Executor.begin, Call.run, Call.of,
        hcheck, hopening]
      rcases hbegin : Mvcc.Transaction.begin world.environment.backend.store with
        ⟨error | scope, store⟩
      · exact .unopened rfl hbegin rfl fun _ => rfl
      · exact .opened rfl hbegin rfl fun _ => transaction?_insert ..

theorem drop_effect (txn : TxnId) :
    Effect world (.drop txn) (world.perform (.drop txn)).2 := by
  have hcommits : ¬ world.Commits (.drop txn) := not_commits nofun
  rw [perform, drop]
  cases hslot : world.slots.get? txn with
  | none => exact effect_self rfl hcommits
  | some slot =>
      have hfound : world.transaction? txn = some slot.transaction :=
        transaction?_eq_some_iff.mpr ⟨slot, hslot, rfl⟩
      refine .served hcommits hfound
        (Transaction.served_release (slot.transaction, world.environment) (.ok ()))
        (.inr ⟨rfl, rfl⟩) (.inr ⟨rfl, Transaction.scope_release _⟩) rfl fun other => ?_
      simp only [transaction?, OrderedMap.get?_erase]
      split <;> rfl

theorem newBatch_effect (txn : TxnId) :
    Effect world (.newBatch txn) (world.perform (.newBatch txn)).2 := by
  have hcommits : ¬ world.Commits (.newBatch txn) := not_commits nofun
  rw [perform, newBatch]
  cases hslot : world.slots.get? txn with
  | none => exact effect_self rfl hcommits
  | some slot =>
      have hfound : world.transaction? txn = some slot.transaction :=
        transaction?_eq_some_iff.mpr ⟨slot, hslot, rfl⟩
      simp only
      split
      · exact effect_self rfl hcommits
      · refine .quiet rfl hcommits rfl rfl fun other => ?_
        rw [transaction?_insert]
        split
        case isTrue hother => rw [hother, hfound]
        case isFalse => rfl

/-- Every request that leaves the database to its transactions has one of the effects. -/
theorem perform_effect (hworld : world.WellFormed) (request : Request Memory)
    (hrequest : request.KeepsBackend) : Effect world request (world.perform request).2 := by
  cases request with
  | openTransaction config context => exact openTransaction_effect config context
  | read txn context statement preferDense =>
      exact read_effect hworld txn context statement preferDense
  | newBatch txn => exact newBatch_effect txn
  | append txn statement => exact append_effect txn statement
  | submit txn context => exact submit_effect hworld txn context
  | submitExpecting txn context expected =>
      exact submitExpecting_effect hworld txn context expected
  | commit txn context => exact commit_effect hworld txn context
  | abort txn => exact abort_effect hworld txn
  | drop txn => exact drop_effect txn
  | access edit => exact hrequest.elim
  | _ => exact .quiet rfl (not_commits nofun) rfl rfl fun _ => rfl

end World

end Transact
