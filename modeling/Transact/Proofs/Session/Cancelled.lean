/-
# Cancellation is never outrun

A call that listens to a context looks at it before anything else and once more
before it is answered. So a call whose context has been cancelled by the time it
returns has failed, whoever cancelled it: someone before the call, or a handler
that ran in it. A context that was cancelled beforehand stops the call before a
handler can run: the call does the same whatever the handlers are.

What fails gives the scope of its transaction back, and with it every write that
was buffered. Nothing that is called on the transaction later finds a scope, so
nothing of it can reach the store.
-/

import Transact.Proofs.Session.Active
import Transact.Proofs.Session.Lifecycle

namespace Transact

namespace Request

variable {β : Type}

/-- The transaction that a request names, be it for itself or for its batch. -/
def target? : Request β → Option TxnId
  | .inspect txn | .read txn .. | .newBatch txn | .inspectBatch txn | .append txn _
  | .submit txn _ | .submitExpecting txn .. | .commit txn _ | .abort txn | .drop txn => some txn
  | _ => none

/-- The error that a call which listens to a context is answered. -/
def failure? : (request : Request β) → request.Answer → Option Error
  | .read .., .error error => some error
  | .submit .., .error error => some error
  | .submitExpecting .., .error error => some error
  | .commit .., .error error => some error
  | _, _ => none

end Request

namespace Transaction

variable {after : Site Memory Memory.Scope} {context : Context} {scope : Memory.Scope}
  {config : SessionConfig} {environment : Environment Memory}

/-- A query for an active transaction is work for it. -/
theorem read_worked (context : Context) (statement : Statement) (preferDense : Option Bool)
    (scope : Memory.Scope) (config : SessionConfig) (environment : Environment Memory) :
    ∃ answer after, (read context statement preferDense).run (ofScope scope config, environment) =
        (answer.map fun result => .ofResult result (preferDense.getD config.preferDense), after) ∧
      Worked context (Executor.read context statement) scope config environment answer after :=
  ⟨_, _, rfl, call_worked context (Executor.read context statement) scope config environment⟩

/-- A commit that is answered has looked at its context, and it gives no signal. -/
theorem uncancelled_of_commit
    (h : (commit context).run (ofScope scope config, environment) = (.ok (), after)) :
    environment.signals.isCancelled context = false ∧ after.2.signals = environment.signals := by
  have hactive : (ofScope scope config).ensureActive = .ok () := rfl
  have hscope : (ofScope scope config).scope = some scope := rfl
  simp only [commit, Call.run, Call.of, hactive, hscope] at h
  cases hcancelled : environment.signals.isCancelled context with
  | true =>
      rw [Signals.check_of_cancelled hcancelled] at h
      cases h
  | false =>
      rw [Signals.check_of_not_cancelled hcancelled] at h
      refine ⟨rfl, ?_⟩
      rcases Memory.commit_cases context scope environment with ⟨error, hcommit⟩ | hcommit <;>
        rw [Call.run] at hcommit <;> simp only [Executor.commit, hcommit] at h <;> cases h
      rfl

end Transaction

namespace World

open Transaction (ofScope release)

variable {world later after : MemoryWorld} {request : Request Memory} {txn : TxnId}
  {transaction : Transaction Memory.Scope} {scope : Memory.Scope} {config : SessionConfig}
  {context : Context}

/-! ## Calls that listen -/

/-- A call that works for a transaction, or finishes it, and listens to a context meanwhile. -/
inductive Listens (world : MemoryWorld) (txn : TxnId) (context : Context) :
    Request Memory → Prop where
  | read (statement : Statement) (preferDense : Option Bool) :
      Listens world txn context (.read txn context statement preferDense)
  | submit {batch : Batch} (hbatch : world.batch? txn = some batch)
      (hbuilding : batch.submitted = false) : Listens world txn context (.submit txn context)
  | submitExpecting {batch : Batch} (hbatch : world.batch? txn = some batch)
      (hbuilding : batch.submitted = false) (expected : Int) :
      Listens world txn context (.submitExpecting txn context expected)
  | commit : Listens world txn context (.commit txn context)

/-- The slot of a transaction with a batch. -/
theorem exists_slot (hfound : world.transaction? txn = some transaction) {batch : Batch}
    (hbatch : world.batch? txn = some batch) :
    world.slots.get? txn = some ⟨transaction, some batch⟩ := by
  obtain ⟨made, hslot⟩ := batch?_eq_some_iff.mp hbatch
  rw [transaction?, hslot] at hfound
  cases hfound
  exact hslot

/-- A call that is answered leaves its context uncancelled. -/
theorem Listens.uncancelled (hcall : world.Listens txn context request)
    (hfound : world.transaction? txn = some (.ofScope scope config))
    (hsucceeds : world.Succeeds request) :
    (world.perform request).2.environment.signals.isCancelled context = false := by
  cases hcall with
  | read statement preferDense =>
      obtain ⟨⟨_, batch⟩, hslot, rfl⟩ := transaction?_eq_some_iff.mp hfound
      obtain ⟨answer, after, hread, hworked⟩ :=
        Transaction.read_worked context statement preferDense scope config world.environment
      rw [Succeeds, perform, onTransaction_eq hslot, hread] at hsucceeds
      rw [perform, onTransaction_eq hslot, hread]
      cases answer with
      | error error => cases hsucceeds
      | ok result => exact hworked.uncancelled rfl
  | submit hbatch hbuilding =>
      obtain ⟨answer, after, hsubmit, hsubmitted⟩ :=
        Batch.submit_submitted hbuilding context scope config world.environment
      rw [Succeeds, perform, onBatch_eq (exists_slot hfound hbatch), hsubmit] at hsucceeds
      rw [perform, onBatch_eq (exists_slot hfound hbatch), hsubmit]
      exact hsubmitted.worked.uncancelled hsucceeds
  | submitExpecting hbatch hbuilding expected =>
      obtain ⟨answer, after, hsubmit, hsubmitted, -⟩ :=
        Batch.submitExpecting_submitted hbuilding context expected scope config world.environment
      rw [Succeeds, perform, onBatch_eq (exists_slot hfound hbatch), hsubmit] at hsucceeds
      rw [perform, onBatch_eq (exists_slot hfound hbatch), hsubmit]
      exact hsubmitted.worked.uncancelled hsucceeds
  | commit =>
      obtain ⟨⟨_, batch⟩, hslot, rfl⟩ := transaction?_eq_some_iff.mp hfound
      rw [Succeeds, perform, onTransaction_eq hslot] at hsucceeds
      obtain ⟨⟨⟩, hanswer⟩ := Except.isOk_iff.mp hsucceeds
      obtain ⟨hbefore, hsignals⟩ := Transaction.uncancelled_of_commit (Prod.ext hanswer rfl)
      rw [perform, onTransaction_eq hslot, hsignals]
      exact hbefore

/-! ## Calls that are stopped beforehand -/

/-- The world with other handlers. -/
def withHandlers (world : MemoryWorld)
    (queries : OrderedMap String (Statement → Table.Handler ResultSet))
    (updates : OrderedMap String (Statement → Table.Handler Int)) : MemoryWorld :=
  { world with
    environment := { world.environment with
      backend := { world.environment.backend with queries, updates } } }

/-- A request fails as cancelled, gives no signal, and does the same whatever the handlers are. -/
structure Stopped (world : MemoryWorld) (request : Request Memory) : Prop where
  failure : request.failure? (world.perform request).1 = some .cancelled
  signals : (world.perform request).2.environment.signals = world.environment.signals
  handlers : ∀ queries updates, (world.withHandlers queries updates).perform request =
    ((world.perform request).1, (world.perform request).2.withHandlers queries updates)

/-- A call on a transaction that is stopped by its context. -/
theorem onTransaction_stopped {α : Type} (call : Call (Transaction.Site Memory Memory.Scope) α)
    (hfound : world.transaction? txn = some (ofScope scope config))
    (hcancelled : world.environment.signals.isCancelled context = true)
    (hcall : ∀ environment : Environment Memory, environment.signals.isCancelled context = true →
      call.run (ofScope scope config, environment) =
        (.error .cancelled, release (ofScope scope config, environment))) :
    (world.onTransaction txn call).1 = .error .cancelled ∧
      (world.onTransaction txn call).2.environment.signals = world.environment.signals ∧
      ∀ queries updates, (world.withHandlers queries updates).onTransaction txn call =
        ((world.onTransaction txn call).1,
          (world.onTransaction txn call).2.withHandlers queries updates) := by
  obtain ⟨⟨_, batch⟩, hslot, rfl⟩ := transaction?_eq_some_iff.mp hfound
  rw [onTransaction_eq hslot, hcall _ hcancelled]
  refine ⟨rfl, rfl, fun queries updates => ?_⟩
  -- Other handlers leave slots and signals as they are, so the call is stopped among them too.
  have hslot' : (world.withHandlers queries updates).slots.get? txn =
      some ⟨ofScope scope config, batch⟩ := hslot
  have hcancelled' :
      (world.withHandlers queries updates).environment.signals.isCancelled context = true :=
    hcancelled
  rw [onTransaction_eq hslot', hcall _ hcancelled']
  rfl

/-- A call on a batch that is stopped by its context. -/
theorem onBatch_stopped (call : Call (Batch.Site Memory Memory.Scope) (List Int)) {batch : Batch}
    (hfound : world.transaction? txn = some (ofScope scope config))
    (hbatch : world.batch? txn = some batch)
    (hcancelled : world.environment.signals.isCancelled context = true)
    (hcall : ∀ environment : Environment Memory, ∃ answer after,
      call.run (batch, ofScope scope config, environment) =
          (answer, { batch with submitted := true }, after) ∧
        Batch.Submitted context batch.statements scope config environment answer after) :
    (world.onBatch txn call).1 = .error .cancelled ∧
      (world.onBatch txn call).2.environment.signals = world.environment.signals ∧
      ∀ queries updates, (world.withHandlers queries updates).onBatch txn call =
        ((world.onBatch txn call).1, (world.onBatch txn call).2.withHandlers queries updates) := by
  have hslot := exists_slot hfound hbatch
  have hrun (environment : Environment Memory)
      (henvironment : environment.signals.isCancelled context = true) :
      call.run (batch, ofScope scope config, environment) =
        (.error .cancelled, { batch with submitted := true },
          release (ofScope scope config, environment)) := by
    obtain ⟨answer, after, hrun, hsubmitted⟩ := hcall environment
    obtain ⟨rfl, rfl⟩ := hsubmitted.worked.eq_of_cancelled henvironment
    exact hrun
  rw [onBatch_eq hslot, hrun _ hcancelled]
  refine ⟨rfl, rfl, fun queries updates => ?_⟩
  have hslot' : (world.withHandlers queries updates).slots.get? txn =
      some ⟨ofScope scope config, some batch⟩ := hslot
  have hcancelled' :
      (world.withHandlers queries updates).environment.signals.isCancelled context = true :=
    hcancelled
  rw [onBatch_eq hslot', hrun _ hcancelled']
  rfl

/-- A context that was cancelled beforehand stops the call. -/
theorem Listens.stopped (hcall : world.Listens txn context request)
    (hfound : world.transaction? txn = some (.ofScope scope config))
    (hcancelled : world.environment.signals.isCancelled context = true) :
    world.Stopped request := by
  cases hcall with
  | read statement preferDense =>
      obtain ⟨hanswer, hsignals, hhandlers⟩ :=
        onTransaction_stopped (Transaction.read context statement preferDense) hfound
          hcancelled fun environment henvironment => by
            obtain ⟨answer, after, hread, hworked⟩ :=
              Transaction.read_worked context statement preferDense scope config environment
            obtain ⟨rfl, rfl⟩ := hworked.eq_of_cancelled henvironment
            exact hread
      exact ⟨by rw [perform, hanswer]; rfl, hsignals, hhandlers⟩
  | submit hbatch hbuilding =>
      obtain ⟨hanswer, hsignals, hhandlers⟩ :=
        onBatch_stopped (Batch.submit context) hfound hbatch hcancelled
          (Batch.submit_submitted hbuilding context scope config)
      exact ⟨by rw [perform, hanswer]; rfl, hsignals, hhandlers⟩
  | submitExpecting hbatch hbuilding expected =>
      obtain ⟨hanswer, hsignals, hhandlers⟩ :=
        onBatch_stopped (Batch.submitExpecting context expected) hfound hbatch hcancelled
          fun environment => by
            obtain ⟨answer, after, hrun, hsubmitted, -⟩ :=
              Batch.submitExpecting_submitted hbuilding context expected scope config environment
            exact ⟨answer, after, hrun, hsubmitted⟩
      exact ⟨by rw [perform, hanswer]; rfl, hsignals, hhandlers⟩
  | commit =>
      obtain ⟨hanswer, hsignals, hhandlers⟩ :=
        onTransaction_stopped (Transaction.commit context) hfound hcancelled
          fun environment henvironment => by
            have hactive : (ofScope scope config).ensureActive = .ok () := rfl
            simp only [Transaction.commit, Call.run, Call.of, hactive,
              Signals.check_of_cancelled henvironment]
            rfl
      exact ⟨by rw [perform, hanswer]; rfl, hsignals, hhandlers⟩

/-! ## What fails is over -/

theorem Listens.worker (hcall : world.Listens txn context request)
    (hfound : world.transaction? txn = some transaction) :
    world.worker? request = some txn ∨ ∃ context, request = .commit txn context := by
  cases hcall with
  | read => exact .inl (by rw [worker?, hfound]; rfl)
  | submit hbatch => exact .inl (by rw [worker?, hbatch]; rfl)
  | submitExpecting hbatch => exact .inl (by rw [worker?, hbatch]; rfl)
  | commit => exact .inr ⟨context, rfl⟩

/-- A call that listens and does not succeed is answered an error. -/
theorem Listens.exists_failure (hcall : world.Listens txn context request)
    (hfails : ¬ world.Succeeds request) :
    ∃ error, request.failure? (world.perform request).1 = some error := by
  have hcases (answer : request.Answer) :
      request.succeeds answer = true ∨ ∃ error, request.failure? answer = some error := by
    cases hcall <;> cases answer <;> simp [Request.succeeds, Request.failure?, Except.isOk,
      Except.toBool]
  exact (hcases _).resolve_left hfails

/-- A call that fails takes the marker of its transaction away, and nothing else. -/
theorem Listens.backend_of_failed (hcall : world.Listens txn context request)
    (hworld : world.WellFormed) (hfound : world.transaction? txn = some (ofScope scope config))
    (hfails : ¬ world.Succeeds request) :
    (world.perform request).2.environment.backend =
      world.environment.backend.released scope := by
  have hcoherent : (ofScope scope config).Coherent := hworld.coherent txn _ hfound
  have hanswer : request.succeeds (world.perform request).1 = false := Bool.not_eq_true _ ▸ hfails
  cases hcall with
  | read statement preferDense =>
      obtain ⟨⟨_, batch⟩, hslot, rfl⟩ := transaction?_eq_some_iff.mp hfound
      rw [perform, onTransaction_eq hslot] at hanswer ⊢
      exact (Transaction.read_served context statement preferDense hcoherent).backend_of_failed rfl
        hanswer
  | submit hbatch =>
      rw [perform, onBatch_eq (exists_slot hfound hbatch)] at hanswer ⊢
      exact (Batch.submit_served context hcoherent).backend_of_failed rfl hanswer
  | submitExpecting hbatch _ expected =>
      rw [perform, onBatch_eq (exists_slot hfound hbatch)] at hanswer ⊢
      exact (Batch.submitExpecting_served context expected hcoherent).backend_of_failed rfl hanswer
  | commit =>
      obtain ⟨⟨_, batch⟩, hslot, rfl⟩ := transaction?_eq_some_iff.mp hfound
      rw [perform, onTransaction_eq hslot] at hanswer ⊢
      rcases Transaction.commit_cases context (ofScope scope config, world.environment) hcoherent
        with ⟨error, -, hserved⟩ | ⟨_, -, hcommit⟩
      · exact hserved.backend_of_failed rfl rfl
      · rw [hcommit] at hanswer
        cases hanswer

/-! ## What is called on it later -/

/-- A call for a transaction that has no scope leaves everything outside it alone. -/
theorem environment_onTransaction {α : Type}
    {call : Call (Transaction.Site Memory Memory.Scope) α} (hover : world.scope? txn = none)
    (hserved : ∀ transaction, world.transaction? txn = some transaction →
      ∃ writes, ∃ answer : Except Error α,
        Transaction.Served writes (transaction, world.environment) answer
          (call.run (transaction, world.environment)).2) :
    (world.onTransaction txn call).2.environment = world.environment := by
  cases hfound : world.transaction? txn with
  | none => rw [onTransaction_missing hfound]
  | some transaction =>
      obtain ⟨slot, hslot, rfl⟩ := transaction?_eq_some_iff.mp hfound
      obtain ⟨writes, answer, hcall⟩ := hserved _ hfound
      rw [scope?, hfound] at hover
      rw [onTransaction_eq hslot]
      exact congrArg Prod.snd (hcall.eq_self hover)

theorem environment_onBatch {α : Type} {call : Call (Batch.Site Memory Memory.Scope) α}
    (hover : world.scope? txn = none)
    (hserved : ∀ transaction batch, world.transaction? txn = some transaction →
      ∃ writes, ∃ answer : Except Error α,
        Transaction.Served writes (transaction, world.environment) answer
          (call.run (batch, transaction, world.environment)).2.2) :
    (world.onBatch txn call).2.environment = world.environment := by
  cases hbatch : world.batch? txn with
  | none => rw [onBatch_missing hbatch]
  | some batch =>
      obtain ⟨transaction, hslot⟩ := batch?_eq_some_iff.mp hbatch
      have hfound : world.transaction? txn = some transaction :=
        transaction?_eq_some_iff.mpr ⟨_, hslot, rfl⟩
      obtain ⟨writes, answer, hcall⟩ := hserved transaction batch hfound
      rw [scope?, hfound] at hover
      rw [onBatch_eq hslot]
      exact congrArg Prod.snd (hcall.eq_self hover)

/-- Whatever names a transaction that has no scope leaves everything outside it alone. -/
theorem environment_of_over (hworld : world.WellFormed) (hover : world.scope? txn = none)
    (htarget : request.target? = some txn) :
    (world.perform request).2.environment = world.environment := by
  have hcoherent {transaction : Transaction Memory.Scope}
      (hfound : world.transaction? txn = some transaction) : transaction.Coherent :=
    hworld.coherent txn transaction hfound
  cases request with
  | read own context statement preferDense =>
      obtain rfl : own = txn := Option.some.inj htarget
      exact environment_onTransaction hover fun _ hfound =>
        ⟨_, _, Transaction.read_served context statement preferDense (hcoherent hfound)⟩
  | newBatch own =>
      rw [perform, newBatch]
      split
      · rfl
      · split <;> rfl
  | append own statement =>
      obtain rfl : own = txn := Option.some.inj htarget
      exact environment_onBatch hover fun _ _ _ => ⟨_, _, Batch.append_served statement⟩
  | submit own context =>
      obtain rfl : own = txn := Option.some.inj htarget
      exact environment_onBatch hover fun _ _ hfound =>
        ⟨_, _, Batch.submit_served context (hcoherent hfound)⟩
  | submitExpecting own context expected =>
      obtain rfl : own = txn := Option.some.inj htarget
      exact environment_onBatch hover fun _ _ hfound =>
        ⟨_, _, Batch.submitExpecting_served context expected (hcoherent hfound)⟩
  | commit own context =>
      obtain rfl : own = txn := Option.some.inj htarget
      refine environment_onTransaction hover fun transaction hfound => ?_
      rcases Transaction.commit_cases context (transaction, world.environment) (hcoherent hfound)
        with ⟨error, -, hserved⟩ | ⟨scope, hscope, -⟩
      · exact ⟨_, _, hserved⟩
      · rw [scope?, hfound] at hover
        cases hover.symm.trans hscope
  | abort own =>
      obtain rfl : own = txn := Option.some.inj htarget
      exact environment_onTransaction hover fun _ hfound =>
        ⟨_, _, Transaction.abort_served (hcoherent hfound)⟩
  | drop own =>
      obtain rfl : own = txn := Option.some.inj htarget
      rw [perform, drop]
      cases hslot : world.slots.get? own with
      | none => rfl
      | some slot =>
          have hscope : slot.transaction.scope = none := by
            rw [scope?, transaction?, hslot] at hover
            exact hover
          simp only [release, hscope]
  | inspect own => rfl
  | inspectBatch own => rfl
  | _ => cases htarget

/-- A request leaves alone what is over, also when it edits the database by hand. -/
theorem settled_perform (hworld : world.WellFormed) (request : Request Memory) :
    (world.perform request).2.WellFormed ∧ Settled world (world.perform request).2 := by
  have hkind : request.KeepsBackend ∨ ∃ edit, request = .access edit := by
    cases request <;> simp [Request.KeepsBackend]
  rcases hkind with hkeeps | ⟨edit, rfl⟩
  · have heffect := perform_effect hworld request hkeeps
    exact ⟨heffect.wellFormed hworld, heffect.settled⟩
  · exact ⟨hworld.of_same rfl fun _ => rfl, Nat.le_refl _, fun _ _ _ => .inl rfl⟩

theorem wellFormed_run {α : Type} (hworld : world.WellFormed) (client : Client Memory α) :
    (client.run world).2.WellFormed :=
  Interaction.run_induction (motive := fun _ (found : MemoryWorld) => found.WellFormed)
    (.of_forall (fun _ => trivial) client) hworld
    fun _ _ request (_ : True) hfound => (settled_perform hfound request).1

/-- A transaction that has no scope has none in whatever calls come later, and they do nothing to
the rest for it. -/
theorem over_in_trace {α : Type} (hworld : world.WellFormed) (htxn : txn < world.opened)
    (hover : world.scope? txn = none) {client : Client Memory α}
    (hcall : (later, request) ∈ Interaction.trace perform client world) :
    (later.transaction? txn = world.transaction? txn ∨ later.transaction? txn = none) ∧
      (request.target? = some txn →
        (later.perform request).2.environment = later.environment) := by
  obtain ⟨front, back, htrace⟩ := List.append_of_mem hcall
  obtain ⟨⟨hlater, hsettled⟩, -⟩ := Interaction.trace_induction
    (motive := fun _ later => later.WellFormed ∧ Settled world later) htrace
    (.of_forall (fun _ => trivial) client) ⟨hworld, .refl world⟩
    fun _ found next (_ : True) hfound => by
      obtain ⟨hnext, hstep⟩ := settled_perform hfound.1 next
      exact ⟨hnext, hfound.2.trans hstep⟩
  have hkept := hsettled.kept txn htxn hover
  refine ⟨hkept, environment_of_over hlater ?_⟩
  rcases hkept with hsame | hgone
  · rw [scope?, hsame, ← scope?, hover]
  · rw [scope?, hgone]
    rfl

/-- A call on an active transaction whose context has been cancelled by the time it returns, before
it or by a handler that runs in it, fails, as cancelled and without a handler being run if it was
before. Its transaction is aborted and stays so. The store is without its marker, and otherwise as
it was; and whatever names the transaction later leaves everything outside it alone. -/
theorem cancelled_is_final (hworld : world.WellFormed)
    (hfound : world.transaction? txn = some (.ofScope scope config))
    (hcall : world.Listens txn context request)
    (hcancelled : world.environment.signals.isCancelled context = true ∨
      (world.perform request).2.environment.signals.isCancelled context = true) :
    (∃ error, request.failure? (world.perform request).1 = some error) ∧
      (world.environment.signals.isCancelled context = true → world.Stopped request) ∧
      (world.perform request).2.transaction? txn = some ⟨none, .aborted, config⟩ ∧
      (world.perform request).2.store =
        world.store.erase (Mvcc.Key.active scope.version).encode ∧
      ∀ {α : Type} (client : Client Memory α) (later : MemoryWorld) (next : Request Memory),
        (later, next) ∈ client.trace perform (world.perform request).2 →
          (later.transaction? txn = some ⟨none, .aborted, config⟩ ∨
            later.transaction? txn = none) ∧
          (next.target? = some txn →
            (later.perform next).2.environment = later.environment) := by
  have hfails : ¬ world.Succeeds request := by
    intro hsucceeds
    have hafter := hcall.uncancelled hfound hsucceeds
    rcases hcancelled with hbefore | hlater
    -- A call that is stopped gives no signal, so its context is still cancelled when it returns.
    · rw [(hcall.stopped hfound hbefore).signals, hbefore] at hafter
      cases hafter
    · rw [hlater] at hafter
      cases hafter
  have haborted := aborted_of_failed hworld hfound rfl (hcall.worker hfound) hfails
  have hafter := settled_perform hworld request
  have hopened := Nat.lt_of_lt_of_le (hworld.lt_opened hfound) hafter.2.opened_le
  have hover : (world.perform request).2.scope? txn = none := by
    rw [scope?, haborted]
    rfl
  refine ⟨hcall.exists_failure hfails, hcall.stopped hfound, haborted, ?store,
    fun client later next hnext => ?later⟩
  case store =>
    exact congrArg Memory.store (hcall.backend_of_failed hworld hfound hfails)
  case later =>
    have hlater := over_in_trace hafter.1 hopened hover hnext
    rwa [haborted] at hlater

/-- A statement of a batch writes a row and then cancels the context that the batch listens to,
through the context that it was derived from. Nothing is written, and the commit that is called in
spite of it does nothing. -/
theorem cancelled_is_final_by_handler :
    let parent : Context := ⟨0, []⟩
    let child : Context := ⟨1, [0]⟩
    let memory := Memory.empty.withUpdate "stop" fun _ => do
      Table.Handler.put "t" [] []
      Table.Handler.cancelNamed "c"
      pure 1
    let front : List (Request Memory) := [.newContext, .childContext parent, .register "c" parent,
      .openTransaction .default parent, .newBatch 0, .append 0 ⟨"stop", .empty⟩]
    let world : MemoryWorld :=
      (Client.run (Interaction.ofList front) (.ofBackend .initial memory)).2
    world.environment.signals.isCancelled child = false ∧
      (world.perform (.submit 0 child)).2.environment.signals.isCancelled child = true ∧
      (world.perform (.submit 0 child)).2.transaction? 0 = some ⟨none, .aborted, .default⟩ ∧
      (world.perform (.submit 0 child)).2.store =
        world.store.erase (Mvcc.Key.active 1).encode ∧
      ((world.perform (.submit 0 child)).2.perform (.commit 0 child)).2.environment =
        (world.perform (.submit 0 child)).2.environment := by
  intro parent child memory front world
  have hworld : world.WellFormed :=
    wellFormed_run (accounts_ofBackend .initial memory).wellFormed _
  have hfound : world.transaction? 0 =
      some (.ofScope ⟨⟨1, .empty⟩, .empty, .empty, .empty⟩ .default) := rfl
  have hbatch : world.batch? 0 = some ⟨[⟨"stop", .empty⟩], false⟩ := rfl
  have hcancelled :
      (world.perform (.submit 0 child)).2.environment.signals.isCancelled child = true := by
    decide +kernel
  have hcall : world.Listens 0 child (.submit 0 child) := .submit hbatch rfl
  obtain ⟨-, -, haborted, hstore, hlater⟩ :=
    cancelled_is_final hworld hfound hcall (.inr hcancelled)
  have hcommit := (hlater _ _ _ (Interaction.mem_trace_ask perform (.commit 0 child) _)).2 rfl
  exact ⟨by decide +kernel, hcancelled, haborted, hstore, hcommit⟩

end World

end Transact
