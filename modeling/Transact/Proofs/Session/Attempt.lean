/-
# One attempt to run a transaction

An attempt opens a new transaction, runs a body in it once, and finishes it as the
outcome of the body demands. Its transaction is over then, whatever the body does
with it short of committing it, and its number is spent: what is stored under it
are the writes of the body if the commit has gone through, and nothing otherwise.
-/

import Transact.Proofs.Session.Lifecycle
import Transact.Proofs.Session.Spent

namespace Transact

open World (History Tracked Spent)

/-- A check fails in one way only. -/
theorem Signals.check_cases (signals : Signals) (context : Context) :
    signals.check context = .ok () ∨ signals.check context = .error .cancelled := by
  rw [check]
  split
  · exact .inr rfl
  · exact .inl rfl

namespace Transaction

variable {site : Site Memory Memory.Scope}

/-- An aborted transaction has no scope. -/
theorem scope_abort (hcoherent : site.1.Coherent) : (abort.run site).2.1.scope = none := by
  by_cases hactive : site.1.state = .active
  · rw [abort_eq_aborted hcoherent hactive]
    rfl
  · have hscope : site.1.scope = none := hcoherent.scope_eq_none (ensureActive_of_ne hactive)
    rw [(abort_served hcoherent).eq_self hscope, hscope]

/-- After a commit, whatever comes of it, a transaction has no scope. -/
theorem scope_commit (context : Context) (hcoherent : site.1.Coherent) :
    ((commit context).run site).2.1.scope = none := by
  rcases commit_cases context site hcoherent with ⟨error, -, hserved⟩ | ⟨scope, -, hcommit⟩
  · apply Option.eq_none_iff_forall_ne_some.mpr
    intro scope hscope
    exact absurd (hserved.scope_eq_some hscope).1 nofun
  · rw [hcommit]

end Transaction

namespace World

variable {world : MemoryWorld} {txn : TxnId}

/-- Whether a transaction is active. -/
def isActive (world : MemoryWorld) (txn : TxnId) : Bool :=
  (world.transaction? txn).any Transaction.isActive

/-- A world with a transaction finished: if it is still active, it is committed for an answer and
aborted for an error. -/
def finished {α : Type} (world : MemoryWorld) (context : Context) (txn : TxnId)
    (outcome : Except Error α) : MemoryWorld :=
  if world.isActive txn then
    match outcome with
    | .ok _ => (world.perform (.commit txn context)).2
    | .error _ => (world.perform (.abort txn)).2
  else world

theorem WellFormed.isActive_iff (h : world.WellFormed) :
    world.isActive txn = true ↔ ∃ scope, world.scope? txn = some scope := by
  rw [isActive, scope?]
  cases hfound : world.transaction? txn with
  | none => simp
  | some transaction =>
      have hcoherent : transaction.state = .active ↔ transaction.scope.isSome = true :=
        h.coherent txn transaction hfound
      simp [Transaction.isActive, hcoherent, Option.isSome_iff_exists]

/-- A call that takes a transaction's scope away leaves it without one. -/
theorem scope?_onTransaction {α : Type} {call : Call (Transaction.Site Memory Memory.Scope) α}
    (h : ∀ transaction, world.transaction? txn = some transaction →
      (call.run (transaction, world.environment)).2.1.scope = none) :
    (world.onTransaction txn call).2.scope? txn = none := by
  cases hfound : world.transaction? txn with
  | none =>
      rw [onTransaction_missing hfound, scope?, hfound]
      rfl
  | some transaction =>
      obtain ⟨slot, hslot, rfl⟩ := transaction?_eq_some_iff.mp hfound
      rw [onTransaction_eq hslot, scope?, transaction?_insert, if_pos rfl]
      exact h _ hfound

theorem scope?_abort (h : world.WellFormed) (txn : TxnId) :
    (world.perform (.abort txn)).2.scope? txn = none :=
  scope?_onTransaction fun _ hfound => Transaction.scope_abort (h.coherent txn _ hfound)

theorem scope?_commit (h : world.WellFormed) (txn : TxnId) (context : Context) :
    (world.perform (.commit txn context)).2.scope? txn = none :=
  scope?_onTransaction fun _ hfound => Transaction.scope_commit context (h.coherent txn _ hfound)

/-- A transaction opens whenever its context is not cancelled, with the next number. -/
theorem perform_openTransaction (config : SessionConfig) {context : Context} {scope : Memory.Scope}
    {store : Store} (hcheck : world.environment.signals.check context = .ok ())
    (hbegin : Mvcc.Transaction.begin.run world.store = (.ok scope, store)) :
    (world.perform (.openTransaction config context)).1 = .ok world.opened ∧
      ∀ other, (world.perform (.openTransaction config context)).2.transaction? other =
        if other = world.opened then some (.ofScope scope config)
        else world.transaction? other := by
  have hopening := Memory.begin_eq hcheck
  have hbegin : Mvcc.Transaction.begin world.environment.backend.store = (.ok scope, store) :=
    hbegin
  simp only [Call.run] at hopening
  simp only [perform, openTransaction, Transaction.openWith, Executor.begin, Call.run, Call.of,
    hcheck, hopening, hbegin]
  exact ⟨trivial, fun _ => transaction?_insert ..⟩

end World

namespace Client

variable {ν α : Type} {config : SessionConfig} {context : Context} {past : History}
  {world : MemoryWorld}

/-! ## Finishing -/

section Finish

variable {txn : TxnId}

theorem run_isActive (txn : TxnId) (world : MemoryWorld) :
    (isActive txn : Client Memory Bool).run world = (world.isActive txn, world) := by
  rw [World.isActive, World.transaction?]
  simp only [isActive, ask, Interaction.ask, Interaction.bind, Client.run, Interaction.run,
    World.perform]
  cases world.slots.get? txn <;> rfl

/-- A transaction that is over is left as it is, and the body's outcome stands. -/
theorem run_finish_over (hover : world.isActive txn = false) (outcome : Except Error α) :
    (finish context txn outcome : Client Memory _).run world = (outcome, world) := by
  have hactive := run_isActive txn world
  rw [hover] at hactive
  rw [Client.run] at hactive ⊢
  rw [finish.eq_def, Interaction.run_bind, hactive]
  rfl

/-- A body that has an answer has its transaction committed, if this is still active. -/
theorem run_finish_ok (hactive : world.isActive txn = true) (value : α) :
    (finish context txn (.ok value) : Client Memory _).run world =
      ((world.perform (.commit txn context)).1.map fun () => value,
        (world.perform (.commit txn context)).2) := by
  have hrun := run_isActive txn world
  rw [hactive] at hrun
  rw [Client.run] at hrun ⊢
  rw [finish, Interaction.run_bind, hrun]
  rfl

/-- A body that fails has its transaction aborted, if this is still active. -/
theorem run_finish_error (hactive : world.isActive txn = true) (error : Error) :
    (finish context txn (.error error) : Client Memory (Except Error α)).run world =
      (.error error, (world.perform (.abort txn)).2) := by
  have hrun := run_isActive txn world
  rw [hactive] at hrun
  rw [Client.run] at hrun ⊢
  rw [finish, Interaction.run_bind, hrun]
  rfl

/-- What finishing a transaction leaves. -/
theorem run_finish_world (context : Context) (txn : TxnId) (outcome : Except Error α)
    (world : MemoryWorld) :
    ((finish context txn outcome : Client Memory (Except Error α)).run world).2 =
      world.finished context txn outcome := by
  unfold World.finished
  cases hactive : world.isActive txn with
  | false => exact congrArg Prod.snd (run_finish_over hactive outcome)
  | true =>
      cases outcome with
      | ok value => exact congrArg Prod.snd (run_finish_ok hactive value)
      | error error => exact congrArg Prod.snd (run_finish_error hactive error)

/-- Finishing a transaction that has not been committed leaves its number spent: what is stored
under it are the transaction's writes if its commit goes through, and nothing otherwise. -/
theorem finish_spent {version : UInt64} (context : Context) (result : Except Error α)
    (htracked : Tracked past world) (hfits : past.Fits)
    (huncommitted : (∃ scope, world.scope? txn = some scope ∧ scope.version = version) ∨
      world.scope? txn = none ∧ Spent world version fun _ => none) :
    Spent ((finish context txn result).run world).2 version fun key =>
      if result.isOk = true ∧ world.isActive txn = true ∧ world.Succeeds (.commit txn context) then
        ((Mvcc.Writes.addAll .empty (past.rowWrites txn)).get? key).map Mvcc.encodeVersion
      else none := by
  have hworld := htracked.accounts.wellFormed
  rcases huncommitted with ⟨scope, hscope, rfl⟩ | ⟨hover, hspent⟩
  · have hactive : world.isActive txn = true := hworld.isActive_iff.mpr ⟨scope, hscope⟩
    have hnext : History.Fits (past ++ [(world, .abort txn)]) := hfits.concat rfl
    obtain ⟨-, next, hcounts, -⟩ := htracked.counts hnext
    cases result with
    | error error =>
        have heffect := World.perform_effect hworld (.abort txn) trivial
        have hgone := World.scope?_abort hworld txn
        rw [run_finish_error hactive]
        obtain ⟨hlt, hunused, -⟩ := heffect.spent hcounts nofun hscope hgone
        refine ⟨hlt, hunused, fun key => ?_⟩
        rw [if_neg (fun h => nomatch h.1)]
        exact heffect.unwritten hcounts hscope nofun key
    | ok value =>
        have heffect := World.perform_effect hworld (.commit txn context) trivial
        have hgone := World.scope?_commit hworld txn context
        rw [run_finish_ok hactive]
        obtain ⟨hlt, hunused, -⟩ := heffect.spent hcounts nofun hscope hgone
        refine ⟨hlt, hunused, fun key => ?_⟩
        split
        case isTrue hcommits =>
          rw [heffect.committed_get? hcounts hscope hcommits.2.2,
            htracked.accounts.writes_eq txn scope hscope]
        case isFalse hfails =>
          exact heffect.unwritten hcounts hscope
            (fun _ _ hsucceeds => hfails ⟨rfl, hactive, hsucceeds⟩) key
  · have hactive : world.isActive txn = false := by
      rw [Bool.eq_false_iff]
      intro hactive
      obtain ⟨scope, hscope⟩ := hworld.isActive_iff.mp hactive
      rw [hover] at hscope
      cases hscope
    rw [run_finish_over hactive]
    refine ⟨hspent.lt, hspent.unused, fun key => ?_⟩
    rw [if_neg (fun h => by simp [hactive] at h)]
    exact hspent.stored key

end Finish

/-! ## One attempt -/

/-- A client leaves it to others to commit a transaction that has been opened before it runs. -/
def LeavesCommit (client : Client Memory α) (txn : TxnId) : Prop :=
  ∀ world : MemoryWorld, world.WellFormed → txn < world.opened →
    ∀ call ∈ client.trace World.perform world, ∀ context, call.2 ≠ .commit txn context

/-- A client that can make no commit of a transaction leaves it to others. -/
theorem LeavesCommit.of_all {client : Client Memory α} {txn : TxnId}
    (h : client.All fun request => ∀ context, request ≠ .commit txn context) :
    client.LeavesCommit txn :=
  fun _ _ _ _ hcall => h.of_mem_trace hcall

/-- An attempt: the world that it found, the scope that its transaction began with, the worlds in
which its body began and ended, what the body has noted and answered, the outcome of the attempt,
and the world that it left when its transaction had been dropped. -/
structure Try (ν α : Type) where
  found : MemoryWorld
  scope : Memory.Scope
  started : MemoryWorld
  ended : MemoryWorld
  note : ν
  result : Except Error α
  outcome : Except Error α
  left : MemoryWorld

namespace Try

/-- The transaction of an attempt. -/
def txn (attempt : Try ν α) : TxnId := attempt.found.opened

/-- Whether the commit of an attempt goes through: the body has an answer and leaves the transaction
active. -/
def Commits (attempt : Try ν α) (context : Context) : Prop :=
  attempt.result.isOk = true ∧ attempt.ended.isActive attempt.txn = true ∧
    attempt.ended.Succeeds (.commit attempt.txn context)

instance (attempt : Try ν α) (context : Context) : Decidable (attempt.Commits context) :=
  inferInstanceAs (Decidable (_ ∧ _ ∧ _))

/-- What the row writes of a body come to, run as it was in an attempt. -/
def writes (attempt : Try ν α) (body : Client Memory (ν × Except Error α)) : Mvcc.Writes :=
  .addAll .empty (History.rowWrites (body.trace World.perform attempt.started) attempt.txn)

/-- The world that the end of an attempt finds: its transaction has been finished, but it has not
been dropped. -/
def finished (attempt : Try ν α) (context : Context) : MemoryWorld :=
  attempt.ended.finished context attempt.txn attempt.result

/-- An attempt is one of a body: it finds the context not cancelled, opens a new transaction,
which is active and has nothing buffered and nothing stored under its number, and runs the body
once in the world that the opening has led to. The outcome is the body's error if there is one,
what the commit answers if the body has left the transaction active, and the body's answer
otherwise. The transaction is finished and dropped, and this is the world that is left. -/
structure Fits (attempt : Try ν α) (config : SessionConfig) (context : Context)
    (body : TxnId → Client Memory (ν × Except Error α)) : Prop where
  unhindered : attempt.found.environment.signals.check context = .ok ()
  new : attempt.found.transaction? attempt.txn = none
  opened : attempt.found.perform (.openTransaction config context) =
    (.ok attempt.txn, attempt.started)
  begun : attempt.started.transaction? attempt.txn = some (.ofScope attempt.scope config)
  unbuffered : attempt.scope.writes = .empty
  unwritten : ∀ key,
    attempt.found.store.get? (Mvcc.Key.version key attempt.scope.version).encode = none
  ran : (body attempt.txn).run attempt.started = ((attempt.note, attempt.result), attempt.ended)
  outcome_error : ∀ error, attempt.result = .error error → attempt.outcome = .error error
  outcome_commit : ∀ value, attempt.result = .ok value →
    attempt.ended.isActive attempt.txn = true →
      attempt.outcome =
        (attempt.ended.perform (.commit attempt.txn context)).1.map fun () => value
  outcome_ok : ∀ value, attempt.result = .ok value →
    attempt.ended.isActive attempt.txn = false → attempt.outcome = .ok value
  left : attempt.left = ((attempt.finished context).perform (.drop attempt.txn)).2

/-- What an attempt stores under its number, for each key. -/
def stored (attempt : Try ν α) (context : Context) (body : Client Memory (ν × Except Error α))
    (key : Bytes) : Option Bytes :=
  if attempt.Commits context then ((attempt.writes body).get? key).map Mvcc.encodeVersion else none

end Try

/-- An attempt, call by call. -/
theorem attempt_eq (body : TxnId → Client Memory (ν × Except Error α)) :
    attempt config context body =
      .call (.check context) fun
        | .error error => .done (.refused error)
        | .ok () => .call (.openTransaction config context) fun
          | .error error => .done (.refused error)
          | .ok txn => (body txn).bind fun noted =>
            (finish context txn noted.2).bind fun outcome =>
              .done (.finished txn noted.1 outcome) := by
  refine congrArg (Interaction.call (Request.check context)) (funext fun checked => ?_)
  cases checked with
  | error error => rfl
  | ok =>
      refine congrArg (Interaction.call (Request.openTransaction config context))
        (funext fun opened => ?_)
      cases opened <;> rfl

theorem run_attempt_refused {body : TxnId → Client Memory (ν × Except Error α)} {error : Error}
    (hcheck : world.perform (.check context) = (.error error, world)) :
    (attempt config context body).run world = (.refused error, world) := by
  simp only [attempt_eq, Client.run, Interaction.run, hcheck]

/-- An attempt that opens its transaction runs the body in it and finishes it. -/
theorem run_attempt {body : TxnId → Client Memory (ν × Except Error α)} {txn : TxnId}
    (hcheck : world.perform (.check context) = (.ok (), world))
    {started : MemoryWorld} {ran : (ν × Except Error α) × MemoryWorld}
    (hopen : world.perform (.openTransaction config context) = (.ok txn, started))
    (hran : (body txn).run started = ran) :
    (attempt config context body).run world =
        (.finished txn ran.1.1 ((finish context txn ran.1.2).run ran.2).1,
          ((finish context txn ran.1.2).run ran.2).2) ∧
      ∃ rest, (attempt config context body).trace World.perform world =
        (world, .check context) :: (world, .openTransaction config context) ::
          ((body txn).trace World.perform started ++ rest) := by
  simp only [Client.run] at hran
  constructor
  · simp only [attempt_eq, Client.run, Interaction.run, hcheck, hopen, Interaction.run_bind, hran]
  · simp only [attempt_eq, Interaction.trace, hcheck, hopen, Interaction.trace_bind]
    exact ⟨_, rfl⟩

/-- The context of an attempt is not cancelled, so its transaction opens. It is new and active, it
has nothing buffered, and nothing is stored under its number. -/
theorem opening_succeeds (config : SessionConfig) (htracked : Tracked past world)
    (hfits : past.Fits) (hcheck : world.environment.signals.check context = .ok ()) :
    ∃ scope started, world.perform (.openTransaction config context) = (.ok world.opened, started) ∧
      Tracked (past ++ [(world, .check context)] ++ [(world, .openTransaction config context)])
        started ∧
      started.transaction? world.opened = some (.ofScope scope config) ∧ scope.writes = .empty ∧
      ∀ key, world.store.get? (Mvcc.Key.version key scope.version).encode = none := by
  obtain ⟨hmarks, next, hcounts, -⟩ := htracked.numbers hfits
  obtain ⟨active, hbegin⟩ := hmarks.begin_eq hcounts
  obtain ⟨hanswer, htransactions⟩ := World.perform_openTransaction config hcheck hbegin
  refine ⟨_, _, Prod.ext hanswer rfl, ?_, (htransactions _).trans (if_pos rfl), rfl,
    fun key => hcounts.numbered.get?_eq_none key UInt64.le_rfl⟩
  have hchecked := htracked.concat (.check context) trivial
  exact hchecked.concat (.openTransaction config context) trivial

/-- Work for a transaction that has been opened last is all there is of it in the history. -/
theorem rowWrites_front (htracked : Tracked past world) (later : History) :
    History.rowWrites (past ++ [(world, .check context)] ++
      [(world, .openTransaction config context)] ++ later) world.opened =
        History.rowWrites later world.opened := by
  have hpast : past.rowWrites world.opened = [] :=
    htracked.accounts.rowWrites_eq_nil (Nat.le_refl _)
  simp only [History.rowWrites, List.flatMap_append] at hpast ⊢
  rw [hpast]
  rfl

/-- An attempt is refused by a cancelled context and changes nothing, or it is one of the body, and
its transaction is over. -/
theorem attempt_cases {body : TxnId → Client Memory (ν × Except Error α)}
    (htracked : Tracked past world) (hbody : ∀ txn, (body txn).All Request.KeepsBackend)
    (hown : ∀ txn, (body txn).LeavesCommit txn)
    (hfits : History.Fits (past ++ (attempt config context body).trace World.perform world)) :
    world.environment.signals.check context = .error .cancelled ∧
        (attempt config context body).run world = (.refused .cancelled, world) ∨
      ∃ tried : Try ν α, tried.found = world ∧ tried.Fits config context body ∧
        (attempt config context body).run world =
          (.finished tried.txn tried.note tried.outcome, tried.finished context) ∧
        tried.txn < (tried.finished context).opened ∧
        Spent (tried.finished context) tried.scope.version
          (tried.stored context (body tried.txn)) := by
  rcases world.environment.signals.check_cases context with hcheck | hcheck
  case inr => exact .inl ⟨hcheck, run_attempt_refused (by rw [World.perform, hcheck])⟩
  case inl =>
      right
      obtain ⟨scope, started, hopen, hstarted, hbegun, hunbuffered, hunwritten⟩ :=
        opening_succeeds config htracked hfits.of_append hcheck
      generalize hran : (body world.opened).run started = ran
      obtain ⟨⟨note, result⟩, ended⟩ := ran
      obtain ⟨hrun, rest, htrace⟩ := run_attempt (by rw [World.perform, hcheck]) hopen hran
      -- The body runs in a tracked world, and in another its transaction is finished.
      have hwhole : History.Fits (past ++ [(world, .check context)] ++
          [(world, .openTransaction config context)] ++
            (body world.opened).trace World.perform started ++ rest) := by
        rw [htrace] at hfits
        simpa using hfits
      have hfits' := hwhole.of_append
      have hended := tracked_run hstarted (hbody world.opened)
      have hscope : started.scope? world.opened = some scope := by
        rw [World.scope?, hbegun]
        rfl
      have huncommitted := uncommitted_run hstarted (hbody world.opened) hfits' hscope
        (hown world.opened started hstarted.accounts.wellFormed
          (hstarted.accounts.wellFormed.lt_opened hbegun))
      rw [hran] at hended huncommitted
      have hspent := finish_spent context result hended hfits' huncommitted
      rw [rowWrites_front htracked] at hspent
      have hopened : world.opened < ((finish context world.opened result).run ended).2.opened := by
        have hbodySettled := settled_run hstarted.accounts.wellFormed (hbody world.opened)
        rw [hran] at hbodySettled
        have hfinishSettled := settled_run hended.accounts.wellFormed
          (all_finish context world.opened result)
        exact Nat.lt_of_lt_of_le (hstarted.accounts.wellFormed.lt_opened hbegun)
          (Nat.le_trans hbodySettled.opened_le hfinishSettled.opened_le)
      rw [run_finish_world] at hrun hspent hopened
      refine ⟨⟨world, scope, started, ended, note, result, _,
        ((ended.finished context world.opened result).perform (.drop world.opened)).2⟩, rfl, ?_,
        hrun, hopened, hspent⟩
      refine ⟨hcheck, htracked.accounts.wellFormed.unopened _ (Nat.le_refl _), hopen, hbegun,
        hunbuffered, hunwritten, hran, ?failed, ?answered, ?ended, rfl⟩
      case failed =>
        rintro error rfl
        cases hactive : ended.isActive world.opened with
        | true => exact congrArg Prod.fst (run_finish_error hactive error)
        | false => exact congrArg Prod.fst (run_finish_over hactive _)
      case answered =>
        rintro value rfl hactive
        exact congrArg Prod.fst (run_finish_ok hactive value)
      case ended =>
        rintro value rfl hactive
        exact congrArg Prod.fst (run_finish_over hactive _)

namespace Try

variable {attempt : Try ν α} {body : TxnId → Client Memory (ν × Except Error α)}

/-- An attempt is determined by its body and the world that it finds. -/
theorem Fits.eq {other : Try ν α} (h : attempt.Fits config context body)
    (hother : other.Fits config context body) (hfound : attempt.found = other.found) :
    attempt = other := by
  obtain ⟨found, scope, started, ended, note, result, outcome, left⟩ := attempt
  obtain ⟨_, ownScope, ownStarted, ownEnded, ownNote, ownResult, ownOutcome, ownLeft⟩ := other
  subst hfound
  obtain rfl : started = ownStarted :=
    congrArg Prod.snd (h.opened.symm.trans hother.opened)
  obtain rfl : scope = ownScope := by
    have hscope := congrArg (Option.bind · Transaction.scope) (h.begun.symm.trans hother.begun)
    exact Option.some.inj hscope
  obtain ⟨hanswer, rfl⟩ := Prod.mk.inj (h.ran.symm.trans hother.ran)
  obtain ⟨rfl, rfl⟩ := Prod.mk.inj hanswer
  obtain rfl : left = ownLeft := h.left.trans hother.left.symm
  have houtcome : outcome = ownOutcome := by
    cases result with
    | error error => exact (h.outcome_error error rfl).trans (hother.outcome_error error rfl).symm
    | ok value =>
        cases hactive : ended.isActive found.opened with
        | true =>
            exact (h.outcome_commit value rfl hactive).trans
              (hother.outcome_commit value rfl hactive).symm
        | false =>
            exact (h.outcome_ok value rfl hactive).trans (hother.outcome_ok value rfl hactive).symm
  rw [houtcome]

/-- The outcome of an attempt that commits is no conflict. -/
theorem Fits.stored_of_conflict (h : attempt.Fits config context body)
    (hconflict : attempt.outcome = .error .conflictAborted) :
    attempt.stored context (body attempt.txn) = fun _ => none := by
  funext key
  rw [stored, if_neg]
  rintro ⟨hok, hactive, hsucceeds⟩
  cases hresult : attempt.result with
  | error error =>
      rw [hresult] at hok
      cases hok
  | ok value =>
      have houtcome := h.outcome_commit value hresult hactive
      have hanswer : (attempt.ended.perform (.commit attempt.txn context)).1.isOk = true :=
        hsucceeds
      rw [hconflict] at houtcome
      cases hcommit : (attempt.ended.perform (.commit attempt.txn context)).1 with
      | error error =>
          rw [hcommit] at hanswer
          cases hanswer
      | ok =>
          rw [hcommit] at houtcome
          cases houtcome

end Try

end Client

end Transact
