/-
# The life of transactions

A transaction is active from its opening until it commits, aborts, or one of its
calls fails, and it is over from then on. While it is active it holds its scope,
and the database holds its marker; both go at the same moment. So a run of any
clients, in any interleaving, never meets an active transaction without a scope,
and it leaves no marker behind: the markers of each world are those of its
active transactions.

A client may drop a transaction without finishing it. Then the transaction is
gone, and if it was active, its marker goes with it.
-/

import Transact.Proofs.Session.Markers

namespace Transact

namespace Request

variable {β : Type}

/-- The transaction that is called itself, and not its batch. -/
def called? : Request β → Option TxnId
  | .read txn .. | .newBatch txn | .commit txn _ | .abort txn => some txn
  | _ => none

/-- The error that a call on a transaction itself is answered. -/
def refusal? : (request : Request β) → request.Answer → Option Error
  | .read .., .error error => some error
  | .newBatch _, .error error => some error
  | .commit .., .error error => some error
  | .abort _, .error error => some error
  | _, _ => none

end Request

namespace Transaction

variable {α : Type} {writes : List Table.RowWrite} {site after : Site Memory Memory.Scope}

/-- A transaction that has been aborted: it has no scope any more. -/
def aborted {σ : Type} (txn : Transaction σ) : Transaction σ :=
  { txn with scope := none, state := .aborted }

/-- A call that fails for an active transaction leaves it aborted. -/
theorem Served.eq_aborted {answer : Except Error α} (h : Served writes site answer after)
    (hactive : site.1.scope.isSome = true) (hfails : answer.isOk = false) :
    after.1 = site.1.aborted := by
  rcases h.cases with ⟨hscope, -⟩ | ⟨-, -, -, -, -, hok, -⟩ | ⟨-, -, hreleased, -⟩
  · rw [hscope] at hactive
    cases hactive
  · rw [hok] at hfails
    cases hfails
  · exact hreleased

/-- An abort leaves an active transaction aborted. -/
theorem abort_eq_aborted (hcoherent : site.1.Coherent) (hactive : site.1.state = .active) :
    (abort.run site).2.1 = site.1.aborted := by
  obtain ⟨⟨held, state, config⟩, environment⟩ := site
  obtain ⟨scope, rfl⟩ : ∃ scope, held = some scope :=
    Option.isSome_iff_exists.mp (hcoherent.mp hactive)
  obtain rfl : state = .active := hactive
  rfl

/-- A transaction that has just been opened is active and has a scope. -/
theorem exists_scope_of_openWith {config : SessionConfig} {context : Context}
    {environment after : Environment Memory} {txn : Transaction Memory.Scope}
    (h : (openWith config context).run environment = (.ok txn, after)) :
    ∃ scope, txn = ofScope scope config := by
  simp only [openWith, Call.run, Call.of] at h
  split at h
  · cases h
  · split at h
    · cases h
      exact ⟨_, rfl⟩
    · cases h

theorem ensureActive_of_ne {σ : Type} {txn : Transaction σ} (hstate : txn.state ≠ .active) :
    txn.ensureActive = .error (.alreadyTerminal txn.state) := by
  rw [ensureActive]
  split
  · exact absurd ‹_› hstate
  · rfl

end Transaction

namespace World

variable {world later after : MemoryWorld} {request : Request Memory} {txn : TxnId}
  {transaction : Transaction Memory.Scope}

/-! ## What is over stays over -/

/-- From one world to a later one, the transactions that were over have stayed as they were, and
those that were gone are gone. -/
structure Settled (world later : MemoryWorld) : Prop where
  opened_le : world.opened ≤ later.opened
  kept : ∀ txn < world.opened, world.scope? txn = none →
    later.transaction? txn = world.transaction? txn ∨ later.transaction? txn = none

theorem Settled.refl (world : MemoryWorld) : Settled world world :=
  ⟨Nat.le_refl _, fun _ _ _ => .inl rfl⟩

theorem Settled.trans {last : MemoryWorld} (h : Settled world later) (hlast : Settled later last) :
    Settled world last where
  opened_le := Nat.le_trans h.opened_le hlast.opened_le
  kept txn htxn hover := by
    have hscope : later.scope? txn = none := by
      rcases h.kept txn htxn hover with hsame | hgone
      · rw [scope?, hsame, ← scope?, hover]
      · rw [scope?, hgone]
        rfl
    rcases hlast.kept txn (Nat.lt_of_lt_of_le htxn h.opened_le) hscope with hsame | hgone
    · rw [hsame]
      exact h.kept txn htxn hover
    · exact .inr hgone

/-- A request does nothing to the transactions that are over, except that it may drop one. -/
theorem Effect.settled (h : Effect world request after) : Settled world after := by
  refine ⟨h.opened_le, fun txn htxn hover => ?_⟩
  cases h with
  | quiet _ _ _ _ htransactions => exact .inl (htransactions txn)
  | unopened _ _ _ htransactions => exact .inl (htransactions txn)
  | opened _ _ _ htransactions => exact .inl (by rw [htransactions, if_neg (Nat.ne_of_lt htxn)])
  | @served _ own transaction outcome left _ _ hfound hserved _ hleft _ htransactions =>
      rw [htransactions]
      split
      case isFalse => exact .inl rfl
      case isTrue hown =>
        rw [hown, scope?, hfound] at hover
        have hsame : outcome = transaction := by
          rcases hserved.cases with ⟨-, hsite⟩ | ⟨scope, _, hscope, -⟩ | ⟨scope, hscope, -⟩
          · exact congrArg Prod.fst hsite
          · cases hover.symm.trans hscope
          · cases hover.symm.trans hscope
        rcases hleft with hleft | ⟨hleft, -⟩
        · exact .inl (by rw [hleft, hown, hfound, hsame])
        · exact .inr hleft
  | @committed own _ transaction scope _ _ hfound hscope _ _ htransactions =>
      rw [htransactions, if_neg]
      · exact .inl rfl
      · rintro rfl
        rw [scope?, hfound] at hover
        cases hover.symm.trans hscope

/-- A transaction that is over in one world is the same in each later one that still has it. -/
theorem Settled.eq_of_over (h : Settled world later) (hworld : world.WellFormed)
    (hfound : world.transaction? txn = some transaction) (hover : transaction.state ≠ .active)
    {left : Transaction Memory.Scope} (hleft : later.transaction? txn = some left) :
    left = transaction := by
  have hscope : world.scope? txn = none := by
    rw [scope?, hfound]
    exact (hworld.coherent txn _ hfound).scope_eq_none (Transaction.ensureActive_of_ne hover)
  rcases h.kept txn (hworld.lt_opened hfound) hscope with hsame | hgone
  · rw [hsame, hfound] at hleft
    exact (Option.some.inj hleft).symm
  · rw [hgone] at hleft
    cases hleft

/-! ## Opening -/

/-- A transaction that is opened is new and active. -/
theorem new_of_opened (hworld : world.WellFormed) {config : SessionConfig} {context : Context}
    (hanswer : (world.perform (.openTransaction config context)).1 = .ok txn) :
    world.transaction? txn = none ∧
      ∃ scope, (world.perform (.openTransaction config context)).2.transaction? txn =
        some (.ofScope scope config) := by
  rw [perform, openTransaction] at hanswer ⊢
  rcases hopening : (Transaction.openWith config context).run world.environment with
    ⟨error | opened, environment⟩
  · simp only [hopening] at hanswer
    cases hanswer
  · obtain ⟨scope, rfl⟩ : ∃ scope, opened = Transaction.ofScope scope config :=
      Transaction.exists_scope_of_openWith hopening
    simp only [hopening] at hanswer ⊢
    obtain rfl : world.opened = txn := Except.ok.inj hanswer
    refine ⟨hworld.unopened _ (Nat.le_refl _), scope, ?_⟩
    rw [transaction?_insert, if_pos rfl]

/-! ## Calls that end a transaction -/

/-- A call on an active transaction that fails leaves it aborted. -/
theorem onTransaction_failed {α : Type} {call : Call (Transaction.Site Memory Memory.Scope) α}
    {writes : List Table.RowWrite} (hfound : world.transaction? txn = some transaction)
    (hactive : transaction.scope.isSome = true)
    (hserved : Transaction.Served writes (transaction, world.environment)
      (call.run (transaction, world.environment)).1 (call.run (transaction, world.environment)).2)
    (hfails : (world.onTransaction txn call).1.isOk = false) :
    (world.onTransaction txn call).2.transaction? txn = some transaction.aborted := by
  obtain ⟨slot, hslot, rfl⟩ := transaction?_eq_some_iff.mp hfound
  rw [onTransaction_eq hslot] at hfails ⊢
  rw [transaction?_insert, if_pos rfl, hserved.eq_aborted hactive hfails]

/-- A call on the batch of an active transaction that fails leaves the transaction aborted. -/
theorem onBatch_failed {α : Type} {call : Call (Batch.Site Memory Memory.Scope) α}
    {writes : List Table.RowWrite} {batch : Batch}
    (hfound : world.transaction? txn = some transaction) (hbatch : world.batch? txn = some batch)
    (hactive : transaction.scope.isSome = true)
    (hserved : Transaction.Served writes (transaction, world.environment)
      (call.run (batch, transaction, world.environment)).1
      (call.run (batch, transaction, world.environment)).2.2)
    (hfails : (world.onBatch txn call).1.isOk = false) :
    (world.onBatch txn call).2.transaction? txn = some transaction.aborted := by
  obtain ⟨made, hslot⟩ := batch?_eq_some_iff.mp hbatch
  obtain rfl : made = transaction := by
    rw [transaction?, hslot] at hfound
    exact Option.some.inj hfound
  rw [onBatch_eq hslot] at hfails ⊢
  rw [transaction?_insert, if_pos rfl, hserved.eq_aborted hactive hfails]

theorem batch?_of_map {own : TxnId} (h : ((world.batch? own).map fun _ => own) = some txn) :
    own = txn ∧ ∃ batch, world.batch? txn = some batch := by
  obtain ⟨batch, hbatch, rfl⟩ := Option.map_eq_some_iff.mp h
  exact ⟨rfl, batch, hbatch⟩

/-- A query, a batch or a commit that fails leaves its transaction aborted. -/
theorem aborted_of_failed (hworld : world.WellFormed)
    (hfound : world.transaction? txn = some transaction) (hactive : transaction.state = .active)
    (hrequest : world.worker? request = some txn ∨ ∃ context, request = .commit txn context)
    (hfails : ¬ world.Succeeds request) :
    (world.perform request).2.transaction? txn = some transaction.aborted := by
  have hcoherent := hworld.coherent txn transaction hfound
  have hscope : transaction.scope.isSome = true := hcoherent.mp hactive
  have hanswer : request.succeeds (world.perform request).1 = false := Bool.not_eq_true _ ▸ hfails
  rcases hrequest with hworker | ⟨context, rfl⟩
  · cases request with
    | read own context statement preferDense =>
        obtain ⟨_, -, rfl⟩ := Option.map_eq_some_iff.mp hworker
        exact onTransaction_failed hfound hscope
          (Transaction.read_served context statement preferDense hcoherent) hanswer
    | append own statement =>
        obtain ⟨rfl, batch, hbatch⟩ := batch?_of_map hworker
        exact onBatch_failed hfound hbatch hscope (Batch.append_served statement) hanswer
    | submit own context =>
        obtain ⟨rfl, batch, hbatch⟩ := batch?_of_map hworker
        exact onBatch_failed hfound hbatch hscope (Batch.submit_served context hcoherent) hanswer
    | submitExpecting own context expected =>
        obtain ⟨rfl, batch, hbatch⟩ := batch?_of_map hworker
        exact onBatch_failed hfound hbatch hscope
          (Batch.submitExpecting_served context expected hcoherent) hanswer
    | _ => cases hworker
  · rcases Transaction.commit_cases context (transaction, world.environment) hcoherent with
      ⟨error, hcommit, hserved⟩ | ⟨scope, -, hcommit⟩
    · rw [← hcommit] at hserved
      exact onTransaction_failed hfound hscope hserved hanswer
    · obtain ⟨slot, hslot, rfl⟩ := transaction?_eq_some_iff.mp hfound
      have hcall : world.onTransaction txn (Transaction.commit context) = _ :=
        onTransaction_eq hslot
      rw [hcommit] at hcall
      rw [perform, hcall] at hanswer
      cases hanswer

/-- A commit that goes through leaves its transaction committed. -/
theorem committed_of_succeeds {context : Context} (hworld : world.WellFormed)
    (hfound : world.transaction? txn = some transaction)
    (hsucceeds : world.Succeeds (.commit txn context)) :
    (world.perform (.commit txn context)).2.transaction? txn =
      some { transaction with scope := none, state := .committed } := by
  obtain ⟨slot, hslot, rfl⟩ := transaction?_eq_some_iff.mp hfound
  have hcall : world.onTransaction txn (Transaction.commit context) = _ := onTransaction_eq hslot
  rw [Succeeds, perform, hcall] at hsucceeds
  rw [perform, hcall, transaction?_insert, if_pos rfl]
  rcases Transaction.commit_cases context (slot.transaction, world.environment)
    (hworld.coherent txn _ hfound) with ⟨error, hanswer, -⟩ | ⟨scope, -, hcommit⟩
  · rw [hanswer] at hsucceeds
    cases hsucceeds
  · rw [hcommit]

/-- An abort leaves an active transaction aborted. -/
theorem aborted_of_abort (hworld : world.WellFormed)
    (hfound : world.transaction? txn = some transaction) (hactive : transaction.state = .active) :
    (world.perform (.abort txn)).2.transaction? txn = some transaction.aborted := by
  have hcoherent := hworld.coherent txn transaction hfound
  obtain ⟨slot, hslot, rfl⟩ := transaction?_eq_some_iff.mp hfound
  rw [perform, onTransaction_eq hslot, transaction?_insert, if_pos rfl,
    Transaction.abort_eq_aborted hcoherent hactive]

/-! ## Dropping -/

/-- What dropping a transaction leaves of a world: the transaction is gone, and if it was active,
so is its marker. The other transactions, all other entries and the signals are as they were. -/
structure Dropped (world : MemoryWorld) (txn : TxnId) (after : MemoryWorld) : Prop where
  gone : after.transaction? txn = none
  others : ∀ other, other ≠ txn → after.transaction? other = world.transaction? other
  unmarked : ∀ scope, world.scope? txn = some scope →
    after.store.contains (Mvcc.Key.active scope.version).encode = false
  kept : ∀ key, (∀ scope, world.scope? txn = some scope →
    key ≠ (Mvcc.Key.active scope.version).encode) → after.store.get? key = world.store.get? key
  signals : after.environment.signals = world.environment.signals

/-- Dropping gives the scope back, if there is one, and no signal. -/
theorem environment_drop (world : MemoryWorld) (txn : TxnId) :
    (world.perform (.drop txn)).2.environment =
      match world.scope? txn with
      | some scope =>
        { world.environment with backend := world.environment.backend.released scope }
      | none => world.environment := by
  rw [perform, drop, scope?, transaction?]
  cases world.slots.get? txn with
  | none => rfl
  | some slot =>
      obtain ⟨⟨scope, state, config⟩, batch⟩ := slot
      cases scope <;> rfl

theorem signals_drop (world : MemoryWorld) (txn : TxnId) :
    (world.perform (.drop txn)).2.environment.signals = world.environment.signals := by
  rw [environment_drop]
  cases world.scope? txn <;> rfl

theorem transaction?_drop (world : MemoryWorld) (txn other : TxnId) :
    (world.perform (.drop txn)).2.transaction? other =
      if other = txn then none else world.transaction? other := by
  rw [perform, drop]
  cases hslot : world.slots.get? txn with
  | none =>
      show world.transaction? other = _
      split
      case isTrue hother => rw [hother, transaction?_eq_none_iff.mpr hslot]
      case isFalse => rfl
  | some slot =>
      simp only [transaction?, OrderedMap.get?_erase]
      split <;> rfl

/-- Whatever is dropped is gone, with its marker. -/
theorem dropped (world : MemoryWorld) (txn : TxnId) :
    Dropped world txn (world.perform (.drop txn)).2 where
  gone := (transaction?_drop world txn txn).trans (if_pos rfl)
  others other hother := (transaction?_drop world txn other).trans (if_neg hother)
  unmarked scope hscope := by
    rw [store, environment_drop, hscope]
    exact (scope.contains_release_active _ _).trans (by simp)
  kept key hkey := by
    rw [store, environment_drop]
    cases hscope : world.scope? txn with
    | none => rfl
    | some scope => exact (scope.get?_release _ _).trans (if_neg (hkey scope hscope))
  signals := signals_drop world txn

/-- A drop is answered whether there was something to drop. -/
theorem answer_drop (world : MemoryWorld) (txn : TxnId) :
    (world.perform (.drop txn)).1 = (world.transaction? txn).isSome := by
  rw [perform, drop, transaction?]
  cases world.slots.get? txn <;> rfl

/-! ## Calls on what is over -/

/-- Storing a transaction as it was found changes none. -/
theorem transaction?_insert_self {slot : Slot Memory.Scope} {environment : Environment Memory}
    {opened : TxnId} (hslot : world.slots.get? txn = some slot) {kept : Slot Memory.Scope}
    (hkept : kept.transaction = slot.transaction) (other : TxnId) :
    transaction? ⟨environment, world.slots.insert txn kept, opened⟩ other =
      world.transaction? other := by
  rw [transaction?_insert]
  split
  case isTrue hother => rw [hother, hkept, transaction?, hslot]; rfl
  case isFalse => rfl

/-- A call that refuses a transaction as it is changes neither it nor the database. -/
theorem onTransaction_refused {α : Type} {call : Call (Transaction.Site Memory Memory.Scope) α}
    {error : Error} (hfound : world.transaction? txn = some transaction)
    (hrefused : call.run (transaction, world.environment) =
      (.error error, transaction, world.environment)) :
    (world.onTransaction txn call).1 = .error error ∧
      (world.onTransaction txn call).2.environment = world.environment ∧
      ∀ other, (world.onTransaction txn call).2.transaction? other = world.transaction? other := by
  obtain ⟨slot, hslot, rfl⟩ := transaction?_eq_some_iff.mp hfound
  rw [onTransaction_eq hslot, hrefused]
  exact ⟨rfl, rfl, transaction?_insert_self hslot rfl⟩

/-- Every call on a transaction that is over is refused by naming its state. -/
theorem refused_of_over (hfound : world.transaction? txn = some transaction)
    (hover : transaction.state ≠ .active) (hcalled : request.called? = some txn) :
    request.refusal? (world.perform request).1 = some (.alreadyTerminal transaction.state) ∧
      (world.perform request).2.environment = world.environment ∧
      ∀ other, (world.perform request).2.transaction? other = world.transaction? other := by
  have hensure := Transaction.ensureActive_of_ne hover
  cases request with
  | read own context statement preferDense =>
      obtain rfl : own = txn := Option.some.inj hcalled
      have hrefused : (Transaction.read context statement preferDense).run
          (transaction, world.environment) =
            (.error (.alreadyTerminal transaction.state), transaction, world.environment) := by
        simp only [Transaction.read, Transaction.call, Call.run, Call.of, hensure]
        rfl
      obtain ⟨hanswer, henvironment, htransactions⟩ := onTransaction_refused hfound hrefused
      exact ⟨by rw [perform, hanswer]; rfl, henvironment, htransactions⟩
  | newBatch own =>
      obtain rfl : own = txn := Option.some.inj hcalled
      obtain ⟨slot, hslot, rfl⟩ := transaction?_eq_some_iff.mp hfound
      have hanswer : world.newBatch own =
          (.error (.alreadyTerminal slot.transaction.state), world) := by
        simp only [newBatch, hslot, hensure]
      rw [perform, hanswer]
      exact ⟨rfl, rfl, fun _ => rfl⟩
  | commit own context =>
      obtain rfl : own = txn := Option.some.inj hcalled
      have hrefused : (Transaction.commit context).run (transaction, world.environment) =
          (.error (.alreadyTerminal transaction.state), transaction, world.environment) := by
        simp only [Transaction.commit, Call.run, Call.of, hensure]
      obtain ⟨hanswer, henvironment, htransactions⟩ := onTransaction_refused hfound hrefused
      exact ⟨by rw [perform, hanswer]; rfl, henvironment, htransactions⟩
  | abort own =>
      obtain rfl : own = txn := Option.some.inj hcalled
      have hrefused : Transaction.abort.run (transaction, world.environment) =
          (.error (.alreadyTerminal transaction.state), transaction, world.environment) := by
        simp only [Transaction.abort, Call.run, Call.of, hensure]
      obtain ⟨hanswer, henvironment, htransactions⟩ := onTransaction_refused hfound hrefused
      exact ⟨by rw [perform, hanswer]; rfl, henvironment, htransactions⟩
  | _ => cases hcalled

end World

namespace Client

open World (History Settled)

variable {α : Type} {client : Client Memory α} {signals : Signals} {memory : Memory}

/-- A run of any client leaves alone what is over. -/
theorem settled_run {world : MemoryWorld} (hworld : world.WellFormed)
    (hclient : client.All Request.KeepsBackend) : Settled world (client.run world).2 := by
  refine (Interaction.run_induction
    (motive := fun _ found => found.WellFormed ∧ Settled world found)
    hclient ⟨hworld, .refl world⟩ ?step).2
  rintro _ found request hrequest ⟨hfound, hsettled⟩
  have heffect := World.perform_effect hfound request hrequest
  exact ⟨heffect.wellFormed hfound, hsettled.trans heffect.settled⟩

/-- The life of every transaction in a run of any clients on an empty database. In each world of
the run a transaction is active exactly while it has its scope, and unless the counter has
overflowed, the markers in the store are the numbers of the active transactions. A transaction
that is over is the same in every later world that still has it. One that is opened is new and
active. A query, a batch or a commit that fails for an active transaction leaves it aborted, a
commit that goes through leaves it committed, and an abort leaves it aborted. Each query, beginning
of a batch, commit or abort of a transaction that is over is refused by naming its state and
changes nothing. A transaction that is dropped is gone, and so is its marker if it was active. -/
theorem lifecycle (hclient : client.All Request.KeepsBackend) (hempty : memory.store = .empty) :
    (∀ world ∈ client.worlds signals memory,
      (∀ txn transaction, world.transaction? txn = some transaction →
        (transaction.state = .active ↔ transaction.scope.isSome = true)) ∧
      ((client.history signals memory).openings + 1 < UInt64.size → ∀ version,
        world.store.contains (Mvcc.Key.active version).encode = true ↔
          ∃ txn transaction scope, world.transaction? txn = some transaction ∧
            transaction.state = .active ∧ transaction.scope = some scope ∧
            scope.version = version)) ∧
    (client.worlds signals memory).Pairwise (fun world later => ∀ txn transaction left,
      world.transaction? txn = some transaction → transaction.state ≠ .active →
        later.transaction? txn = some left → left = transaction) ∧
    (∀ world config context txn,
      (world, .openTransaction config context) ∈ client.history signals memory →
        (world.perform (.openTransaction config context)).1 = .ok txn →
          world.transaction? txn = none ∧
            ∃ scope, (world.perform (.openTransaction config context)).2.transaction? txn =
              some (.ofScope scope config)) ∧
    (∀ world request, (world, request) ∈ client.history signals memory → ∀ txn transaction,
      world.transaction? txn = some transaction →
        (transaction.state = .active →
          ((world.worker? request = some txn ∨ ∃ context, request = .commit txn context) →
            ¬ world.Succeeds request →
              (world.perform request).2.transaction? txn =
                some { transaction with scope := none, state := .aborted }) ∧
          ((∃ context, request = .commit txn context) → world.Succeeds request →
            (world.perform request).2.transaction? txn =
              some { transaction with scope := none, state := .committed }) ∧
          (request = .abort txn → (world.perform request).2.transaction? txn =
            some { transaction with scope := none, state := .aborted })) ∧
        (transaction.state ≠ .active → request.called? = some txn →
          request.refusal? (world.perform request).1 = some (.alreadyTerminal transaction.state) ∧
            (world.perform request).2.environment = world.environment ∧
            ∀ other,
              (world.perform request).2.transaction? other = world.transaction? other)) ∧
    ∀ world txn, (world, .drop txn) ∈ client.history signals memory →
      (world.perform (.drop txn)).1 = (world.transaction? txn).isSome ∧
        World.Dropped world txn (world.perform (.drop txn)).2 := by
  have hwellFormed {world : MemoryWorld} {request : Request Memory}
      (hcall : (world, request) ∈ client.history signals memory) : world.WellFormed := by
    obtain ⟨past, rest, hhistory⟩ := List.append_of_mem hcall
    exact (accounts_history hclient hhistory).1.wellFormed
  refine ⟨?worlds, ?final, ?openings, ?requests, ?drops⟩
  case worlds =>
    intro world hworld
    obtain ⟨past, rest, hhistory, htracked⟩ := tracked_worlds hclient hempty hworld
    have hcoherent := htracked.accounts.wellFormed.coherent
    refine ⟨hcoherent, fun hfits version => ?_⟩
    rw [hhistory, History.openings_append] at hfits
    obtain ⟨hmarks, -⟩ := htracked.numbers (by omega)
    rw [hmarks.marker]
    constructor
    · rintro ⟨txn, scope, hscope, hversion⟩
      obtain ⟨transaction, hfound, hown⟩ := Option.bind_eq_some_iff.mp hscope
      refine ⟨txn, transaction, scope, hfound, ?_, hown, hversion⟩
      exact (hcoherent txn transaction hfound).mpr (by rw [hown]; rfl)
    · rintro ⟨txn, transaction, scope, hfound, -, hown, hversion⟩
      exact ⟨txn, scope, Option.bind_eq_some_iff.mpr ⟨transaction, hfound, hown⟩, hversion⟩
  case final =>
    have hstep (world : MemoryWorld) (request : Request Memory) (hrequest : request.KeepsBackend)
        (hworld : world.WellFormed) : (world.perform request).2.WellFormed ∧
          world.WellFormed ∧ Settled world (world.perform request).2 := by
      have heffect := World.perform_effect hworld request hrequest
      exact ⟨heffect.wellFormed hworld, hworld, heffect.settled⟩
    have hsettled : (client.worlds signals memory).Pairwise
        fun world later => world.WellFormed ∧ Settled world later :=
      Interaction.pairwise_states
        (fun _ _ _ hfirst hsecond => ⟨hfirst.1, hfirst.2.trans hsecond.2⟩) hstep hclient
        (World.accounts_ofBackend signals memory).wellFormed
    apply hsettled.imp
    rintro world later ⟨hworld, hlater⟩ txn transaction left hfound hover hleft
    exact hlater.eq_of_over hworld hfound hover hleft
  case openings =>
    intro world config context txn hcall hanswer
    exact World.new_of_opened (hwellFormed hcall) hanswer
  case requests =>
    intro world request hcall txn transaction hfound
    have hworld := hwellFormed hcall
    refine ⟨fun hactive => ⟨World.aborted_of_failed hworld hfound hactive, ?_, ?_⟩,
      World.refused_of_over hfound⟩
    · rintro ⟨context, rfl⟩
      exact World.committed_of_succeeds hworld hfound
    · rintro rfl
      exact World.aborted_of_abort hworld hfound hactive
  case drops => exact fun world txn _ => ⟨World.answer_drop world txn, World.dropped world txn⟩

/-- Two transactions are opened, and the batch of the second fails: only the first one's marker is
left, and the second has been aborted and refuses to commit. The first is dropped while it is
active, and its marker goes with it. A closure that loses a conflict and is run again leaves no
marker either. -/
theorem lifecycle_of_two :
    let context : Context := ⟨0, []⟩
    let memory := Memory.empty.withUpdate "fail" fun _ => throw .conflictAborted
    let front : List (Request Memory) := [.openTransaction .default context,
      .openTransaction .default context, .newBatch 1, .append 1 ⟨"fail", .empty⟩]
    let requests := front ++ [.submit 1 context, .commit 1 context, .drop 0]
    let body : TxnId → List Unit → Client Memory (Unit × Except Error Nat) := fun _ notes =>
      .done ((), if notes.isEmpty then .error .conflictAborted else .ok 7)
    let client : Client Memory (List Unit × Except Error Nat) :=
      (Interaction.ofList requests).bind fun _ =>
        runTransactionWith .default .default context body
    let world : MemoryWorld := (run (Interaction.ofList front) (.ofBackend .initial memory)).2
    let after := (world.perform (.submit 1 context)).2
    let refused := (after.perform (.commit 1 context)).2
    let left := (refused.perform (.drop 0)).2
    let last := (client.run (.ofBackend .initial memory)).2
    after.transaction? 1 = some ⟨none, .aborted, .default⟩ ∧
      after.store.contains (Mvcc.Key.active 1).encode = true ∧
      after.store.contains (Mvcc.Key.active 2).encode = false ∧
      Request.refusal? (.commit 1 context) (after.perform (.commit 1 context)).1 =
        some (.alreadyTerminal .aborted) ∧
      refused.store.contains (Mvcc.Key.active 1).encode = true ∧
      left.transaction? 0 = none ∧
      left.store.contains (Mvcc.Key.active 1).encode = false ∧
      ∀ version, last.store.contains (Mvcc.Key.active version).encode = false := by
  intro context memory front requests body client world after refused left last
  have hclient : client.All Request.KeepsBackend := by
    apply Interaction.All.bind
    · apply Interaction.all_ofList
      simp [requests, front, Request.KeepsBackend]
    · exact fun _ => all_runTransactionWith fun _ _ => trivial
  let calls : History :=
    [(world, .submit 1 context), (after, .commit 1 context), (refused, .drop 0)]
  have hrequests : (Interaction.ofList requests : Client Memory Unit).trace World.perform
      (.ofBackend .initial memory) =
        Interaction.trace World.perform (Interaction.ofList front : Client Memory Unit)
          (.ofBackend .initial memory) ++ calls :=
    Interaction.trace_ofList_append front (.submit 1 context) [.commit 1 context, .drop 0] _
  have hmade : ∀ call ∈ calls, call ∈ client.history .initial memory := by
    intro call hcall
    rw [history, Interaction.trace_bind, hrequests]
    exact List.mem_append_left _ (List.mem_append_right _ hcall)
  have hsubmit := hmade (world, .submit 1 context) (by simp [calls])
  have hcommit := hmade (after, .commit 1 context) (by simp [calls])
  have hdrop := hmade (refused, .drop 0) (by simp [calls])
  have hafter : after ∈ client.worlds .initial memory :=
    Interaction.mem_states_of_mem_trace hcommit
  have hlast : last ∈ client.worlds .initial memory := Interaction.run_mem_states _ _
  have hfails : ¬ world.Succeeds (.submit 1 context) := by decide +kernel
  have hactive : (world.transaction? 1).map (fun txn => (txn.state, txn.config)) =
      some (.active, .default) := by decide +kernel
  obtain ⟨transaction, hfound, hstate⟩ := Option.map_eq_some_iff.mp hactive
  obtain ⟨hstate, hconfig⟩ := Prod.mk.inj hstate
  have hfits : (client.history .initial memory).openings + 1 < UInt64.size := by decide +kernel
  have hempty : memory.store = .empty := rfl
  obtain ⟨hworlds, -, -, hcalls, hdrops⟩ :=
    @lifecycle _ client .initial memory hclient hempty
  have haborted : after.transaction? 1 = some ⟨none, .aborted, transaction.config⟩ :=
    ((hcalls world (.submit 1 context) hsubmit 1 transaction hfound).1 hstate).1
      (.inl (by decide +kernel)) hfails
  have hrefused := ((hcalls after (.commit 1 context) hcommit 1 _ haborted).2 nofun rfl).1
  rw [hconfig] at haborted
  have hother : (after.transaction? 0).map (fun txn => (txn.state, txn.scope)) =
      some (.active, some ⟨⟨1, .empty⟩, .empty, .empty, .empty⟩) := by decide +kernel
  obtain ⟨other, hfound, hother⟩ := Option.map_eq_some_iff.mp hother
  obtain ⟨hstate, hscope⟩ := Prod.mk.inj hother
  have hstored : after.store.contains (Mvcc.Key.active 1).encode = true :=
    ((hworlds after hafter).2 hfits 1).mpr ⟨0, other, _, hfound, hstate, hscope, rfl⟩
  have hdropped := (hdrops refused 0 hdrop).2
  have hheld : refused.scope? 0 = some ⟨⟨1, .empty⟩, .empty, .empty, .empty⟩ := by decide +kernel
  have hover : last.slots.entries.all (fun entry => entry.2.transaction.scope.isNone) = true := by
    decide +kernel
  have hunmarked := hdropped.unmarked _ hheld
  refine ⟨haborted, hstored, by decide +kernel, hrefused, by decide +kernel, hdropped.gone,
    hunmarked, fun version => ?_⟩
  rw [Bool.eq_false_iff]
  intro hmarked
  obtain ⟨txn, found, scope, hfound, -, hscope, -⟩ :=
    ((hworlds last hlast).2 hfits version).mp hmarked
  obtain ⟨slot, hslot, rfl⟩ := World.transaction?_eq_some_iff.mp hfound
  have hnone := List.all_eq_true.mp hover _ (OrderedMap.get?_eq_some_iff.mp hslot)
  simp [hscope] at hnone

end Client

end Transact
