/-
# What calls do to a transaction of the database in memory

A transaction that is active holds its scope, and one that is over holds none.
So every call that works for a transaction ends in one of three ways: the
transaction was over and nothing happens; the call is answered and its row
writes are in the buffer; or the transaction gives its scope back, and the
database loses the marker and nothing else. Only a commit that goes through ends
in another way.
-/

import Transact.Proofs.Executor.Memory
import Transact.Proofs.Mvcc.Versions
import Transact.Session.Batch

namespace Transact

open Table (RowWrite)

namespace Transaction

variable {α β : Type}

/-- A transaction is active exactly while it holds a scope. -/
def Coherent {σ : Type} (txn : Transaction σ) : Prop :=
  txn.state = .active ↔ txn.scope.isSome = true

/-- How a call ends that works for a transaction, `writes` being its row writes. -/
inductive Served (writes : List RowWrite) (site : Site Memory Memory.Scope) :
    Except Error α → Site Memory Memory.Scope → Prop where
  | finished (answer : Except Error α) (hscope : site.1.scope = none) :
      Served writes site answer site
  | working {scope left : Memory.Scope} {environment : Environment Memory} (value : α)
      (hscope : site.1.scope = some scope) (hsnapshot : left.snapshot = scope.snapshot)
      (hwrites : left.writes = Mvcc.Writes.addAll scope.writes writes)
      (hbackend : environment.backend = site.2.backend) :
      Served writes site (.ok value) ({ site.1 with scope := some left }, environment)
  | released {scope : Memory.Scope} {environment : Environment Memory} (answer : Except Error α)
      (hscope : site.1.scope = some scope)
      (hbackend : environment.backend = site.2.backend.released scope) :
      Served writes site answer ({ site.1 with scope := none, state := .aborted }, environment)

variable {writes : List RowWrite} {site after : Site Memory Memory.Scope}

/-- A transaction that is not active has no scope. -/
theorem Coherent.scope_eq_none {txn : Transaction Memory.Scope} (h : txn.Coherent) {error : Error}
    (hactive : txn.ensureActive = .error error) : txn.scope = none := by
  cases hscope : txn.scope with
  | none => rfl
  | some scope =>
      have hstate : txn.state = .active := h.mpr (by rw [hscope]; rfl)
      rw [ensureActive, hstate] at hactive
      cases hactive

/-- A transaction that is active has a scope. -/
theorem Coherent.exists_scope {txn : Transaction Memory.Scope} (h : txn.Coherent)
    (hactive : txn.ensureActive = .ok ()) : ∃ scope, txn.scope = some scope := by
  apply Option.isSome_iff_exists.mp
  apply h.mp
  revert hactive
  rw [ensureActive]
  split
  · exact fun _ => ‹_›
  · exact nofun

/-- A call that does nothing and is answered. -/
theorem served_self (site : Site Memory Memory.Scope) (value : α) :
    Served [] site (.ok value) site := by
  obtain ⟨⟨scope, state, config⟩, environment⟩ := site
  cases scope with
  | none => exact .finished _ rfl
  | some scope => exact .working value rfl rfl rfl rfl

/-- A released transaction has no scope. -/
theorem scope_release (site : Site Memory Memory.Scope) : (release site).1.scope = none := by
  obtain ⟨⟨scope, state, config⟩, environment⟩ := site
  cases scope <;> rfl

/-- Releasing a transaction on purpose ends as a call does. -/
theorem served_release (site : Site Memory Memory.Scope) (answer : Except Error α) :
    Served writes site answer (release site) := by
  obtain ⟨⟨scope, state, config⟩, environment⟩ := site
  cases scope with
  | none => exact .finished _ rfl
  | some scope => exact .released _ rfl rfl

/-- A transaction may be released after a call, because of what it was answered. -/
theorem Served.abortWith {answer : Except Error α} (h : Served writes site answer after)
    (error : Error) : Served writes site (.error error : Except Error β) (release after) := by
  cases h with
  | finished _ hscope =>
      rw [release, hscope]
      exact .finished _ hscope
  | working value hscope hsnapshot hwrites hbackend =>
      apply Served.released _ hscope
      rw [← Memory.released_congr hsnapshot, ← hbackend]
      rfl
  | released _ hscope hbackend => exact .released _ hscope hbackend

theorem Served.map {answer : Except Error α} (h : Served writes site answer after) (f : α → β) :
    Served writes site (answer.map f) after := by
  cases h with
  | finished _ hscope => exact .finished _ hscope
  | working value hscope hsnapshot hwrites hbackend =>
      exact .working (f value) hscope hsnapshot hwrites hbackend
  | released _ hscope hbackend => exact .released _ hscope hbackend

/-- A call that ends as the calls for a transaction do leaves it coherent. -/
theorem Served.coherent {answer : Except Error α} (h : Served writes site answer after)
    (hcoherent : site.1.Coherent) : after.1.Coherent := by
  cases h with
  | finished _ hscope => exact hcoherent
  | working value hscope hsnapshot hwrites hbackend =>
      have hstate : site.1.state = .active := hcoherent.mpr (by rw [hscope]; rfl)
      simp [Coherent, hstate]
  | released _ hscope hbackend => simp [Coherent]

/-- Such a call keeps the store, or takes the transaction's marker away. -/
theorem Served.store_cases {answer : Except Error α} (h : Served writes site answer after) :
    after.2.backend.store = site.2.backend.store ∨
      ∃ scope, site.1.scope = some scope ∧
        after.2.backend.store = scope.release site.2.backend.store := by
  cases h with
  | finished _ hscope => exact .inl rfl
  | working value hscope hsnapshot hwrites hbackend => exact .inl (congrArg Memory.store hbackend)
  | released _ hscope hbackend => exact .inr ⟨_, hscope, congrArg Memory.store hbackend⟩

/-- A transaction that still has a scope after a call had it before. The call was answered, and
the buffer has grown by its row writes. -/
theorem Served.scope_eq_some {answer : Except Error α} (h : Served writes site answer after)
    {left : Memory.Scope} (hleft : after.1.scope = some left) :
    answer.isOk = true ∧ ∃ scope, site.1.scope = some scope ∧ left.snapshot = scope.snapshot ∧
      left.writes = Mvcc.Writes.addAll scope.writes writes := by
  cases h with
  | finished _ hscope =>
      rw [hscope] at hleft
      cases hleft
  | working value hscope hsnapshot hwrites hbackend =>
      cases hleft
      exact ⟨rfl, _, hscope, hsnapshot, hwrites⟩
  | released _ hscope hbackend => cases hleft

/-- What such a call leaves of the transaction, in equations. -/
theorem Served.cases {answer : Except Error α} (h : Served writes site answer after) :
    (site.1.scope = none ∧ after = site) ∨
      (∃ scope left, site.1.scope = some scope ∧ after.1 = { site.1 with scope := some left } ∧
        left.snapshot = scope.snapshot ∧ answer.isOk = true ∧
        after.2.backend = site.2.backend) ∨
      ∃ scope, site.1.scope = some scope ∧
        after.1 = { site.1 with scope := none, state := .aborted } ∧
        after.2.backend = site.2.backend.released scope := by
  cases h with
  | finished _ hscope => exact .inl ⟨hscope, rfl⟩
  | working value hscope hsnapshot hwrites hbackend =>
      exact .inr (.inl ⟨_, _, hscope, rfl, hsnapshot, rfl, hbackend⟩)
  | released _ hscope hbackend => exact .inr (.inr ⟨_, hscope, rfl, hbackend⟩)

/-- A call on a transaction without a scope does nothing. -/
theorem Served.eq_self {answer : Except Error α} (h : Served writes site answer after)
    (hscope : site.1.scope = none) : after = site := by
  rcases h.cases with ⟨-, hsame⟩ | ⟨scope, _, hsome, -⟩ | ⟨scope, hsome, -⟩
  · exact hsame
  · cases hscope.symm.trans hsome
  · cases hscope.symm.trans hsome

/-- A call that fails for an active transaction takes its marker away. -/
theorem Served.backend_of_failed {answer : Except Error α} (h : Served writes site answer after)
    {scope : Memory.Scope} (hscope : site.1.scope = some scope) (hfails : answer.isOk = false) :
    after.2.backend = site.2.backend.released scope := by
  rcases h.cases with ⟨hnone, -⟩ | ⟨_, _, _, _, _, hok, -⟩ | ⟨found, hsome, -, hbackend⟩
  · cases hnone.symm.trans hscope
  · rw [hok] at hfails
    cases hfails
  · rw [hbackend, Option.some.inj (hsome.symm.trans hscope)]

/-! ## Queries and batches -/

/-- The row writes of a call that works inside a transaction, if this has a scope. -/
def writesInside (writes : Memory.Site → List RowWrite) (site : Site Memory Memory.Scope) :
    List RowWrite :=
  match site.1.scope with
  | some scope => writes (scope, site.2)
  | none => []

/-- Work that is guarded against cancellation is answered when the work is; else it was not
done, or it failed or comes too late. -/
theorem guarded_cases (context : Context) (work : Call Memory.Site α) (site : Memory.Site) :
    (∃ value after, work.run site = (.ok value, after) ∧
        guarded context work site = (.ok value, after)) ∨
      (∃ error, guarded context work site = (.error error, site)) ∨
      ∃ error, guarded context work site = (.error error, (work.run site).2) := by
  unfold guarded
  cases site.2.signals.check context with
  | error error => exact .inr (.inl ⟨error, rfl⟩)
  | ok =>
      rcases work.run site with ⟨error | value, after⟩
      · exact .inr (.inr ⟨error, rfl⟩)
      · simp only
        cases after.2.signals.check context with
        | error error => exact .inr (.inr ⟨error, rfl⟩)
        | ok => exact .inl ⟨value, after, rfl, rfl⟩

theorem call_served {work : Call Memory.Site α} {writes : Memory.Site → List RowWrite}
    (hwork : Memory.Buffers work writes) (context : Context) (hcoherent : site.1.Coherent) :
    Served (writesInside writes site) site ((call context work).run site).1
      ((call context work).run site).2 := by
  obtain ⟨txn, environment⟩ := site
  simp only [call, Call.run, Call.of]
  cases hactive : txn.ensureActive with
  | error error => exact .finished _ (hcoherent.scope_eq_none hactive)
  | ok =>
      obtain ⟨scope, hscope⟩ : ∃ scope, txn.scope = some scope := hcoherent.exists_scope hactive
      simp only [hscope, writesInside]
      have hsnapshot := hwork.snapshot (scope, environment)
      have hbackend := hwork.backend (scope, environment)
      have hwrites := hwork.writes (scope, environment)
      rcases guarded_cases context work (scope, environment) with
        ⟨value, after, hrun, hguarded⟩ | ⟨error, hguarded⟩ | ⟨error, hguarded⟩ <;>
        simp only [hguarded]
      · rw [hrun] at hsnapshot hbackend hwrites
        exact .working value hscope hsnapshot (hwrites value rfl) hbackend
      · exact .released _ hscope rfl
      · apply Served.released _ hscope
        show Memory.released _ _ = _
        rw [Memory.released_congr hsnapshot, hbackend]

theorem read_served (context : Context) (statement : Statement) (preferDense : Option Bool)
    (hcoherent : site.1.Coherent) :
    Served (writesInside (Memory.readWrites statement) site) site
      ((read context statement preferDense).run site).1
      ((read context statement preferDense).run site).2 :=
  (call_served (Memory.read_buffers context statement) context hcoherent).map _

theorem executeBatch_served (context : Context) (statements : List Statement)
    (hcoherent : site.1.Coherent) :
    Served (writesInside (Memory.batchWrites context statements) site) site
      ((executeBatch context statements).run site).1
      ((executeBatch context statements).run site).2 := by
  have hcall : Served (writesInside (Memory.batchWrites context statements) site) site
      ((call context (Executor.executeBatch context statements)).run site).1
      ((call context (Executor.executeBatch context statements)).run site).2 :=
    call_served (Memory.executeBatch_buffers context statements) context hcoherent
  simp only [executeBatch, Call.run, Call.of] at hcall ⊢
  rcases hrun : call context (Executor.executeBatch context statements) site with
    ⟨error | counts, after⟩ <;> rw [hrun] at hcall
  · exact hcall
  · simp only
    split
    · exact hcall
    · exact hcall.abortWith _

/-! ## Finishing -/

/-- A commit that does not go through ends as other calls do. One that goes through gives the
scope back, and the database has the transaction's writes. -/
theorem commit_cases (context : Context) (site : Site Memory Memory.Scope)
    (hcoherent : site.1.Coherent) :
    (∃ error, ((commit context).run site).1 = .error error ∧
        Served [] site (.error error : Except Error Unit) ((commit context).run site).2) ∨
      ∃ scope, site.1.scope = some scope ∧
        (commit context).run site =
          (.ok (), { site.1 with scope := none, state := .committed },
            { site.2 with backend := site.2.backend.committed scope }) := by
  obtain ⟨txn, environment⟩ := site
  simp only [commit, Call.run, Call.of]
  cases hactive : txn.ensureActive with
  | error error => exact .inl ⟨error, rfl, .finished _ (hcoherent.scope_eq_none hactive)⟩
  | ok =>
      obtain ⟨scope, hscope⟩ : ∃ scope, txn.scope = some scope := hcoherent.exists_scope hactive
      simp only [hscope]
      cases environment.signals.check context with
      | error error => exact .inl ⟨error, rfl, served_release (txn, environment) _⟩
      | ok =>
          rcases Memory.commit_cases context scope environment with ⟨error, hcommit⟩ | hcommit <;>
            rw [Call.run] at hcommit
          · refine .inl ⟨error, ?_⟩
            simp only [Executor.commit, hcommit]
            exact ⟨trivial, .released _ hscope rfl⟩
          · refine .inr ⟨scope, rfl, ?_⟩
            simp only [Executor.commit, hcommit]

/-- An abort ends as other calls do. -/
theorem abort_served (hcoherent : site.1.Coherent) :
    Served [] site (abort.run site).1 (abort.run site).2 := by
  obtain ⟨txn, environment⟩ := site
  simp only [abort, Call.run, Call.of]
  cases hactive : txn.ensureActive with
  | error error => exact .finished _ (hcoherent.scope_eq_none hactive)
  | ok =>
      obtain ⟨scope, hscope⟩ : ∃ scope, txn.scope = some scope := hcoherent.exists_scope hactive
      simp only [hscope]
      exact .released _ hscope rfl

end Transaction

/-! ## The batch of a transaction -/

namespace Batch

variable {batch : Batch} {site : Transaction.Site Memory Memory.Scope}

/-- Appending does nothing to the transaction, unless the batch has been submitted. -/
theorem append_served (statement : Statement) :
    Transaction.Served [] site ((append statement).run (batch, site)).1
      ((append statement).run (batch, site)).2.2 := by
  simp only [append, Call.run, Call.of]
  split
  · exact Transaction.served_release site _
  · exact Transaction.served_self site ()

theorem submit_served (context : Context) (hcoherent : site.1.Coherent) :
    Transaction.Served
      (Transaction.writesInside (Memory.batchWrites context batch.statements) site) site
      ((submit context).run (batch, site)).1 ((submit context).run (batch, site)).2.2 := by
  simp only [submit, Call.run, Call.of]
  split
  · exact Transaction.served_release site _
  · cases hactive : site.1.ensureActive with
    | error error => exact .finished _ (hcoherent.scope_eq_none hactive)
    | ok =>
        cases site.2.signals.check context with
        | error error => exact Transaction.served_release site _
        | ok =>
            simp only
            split
            case isTrue hempty =>
              have hnone :
                  Transaction.writesInside (Memory.batchWrites context []) site = [] := by
                unfold Transaction.writesInside
                split <;> rfl
              rw [List.isEmpty_iff.mp hempty, hnone]
              exact Transaction.served_self site []
            case isFalse =>
              exact Transaction.executeBatch_served context batch.statements hcoherent

theorem submitExpecting_served (context : Context) (expected : Int)
    (hcoherent : site.1.Coherent) :
    Transaction.Served
      (Transaction.writesInside (Memory.batchWrites context batch.statements) site) site
      ((submitExpecting context expected).run (batch, site)).1
      ((submitExpecting context expected).run (batch, site)).2.2 := by
  have hsubmit : Transaction.Served
      (Transaction.writesInside (Memory.batchWrites context batch.statements) site) site
      ((submit context).run (batch, site)).1 ((submit context).run (batch, site)).2.2 :=
    submit_served context hcoherent
  simp only [submitExpecting, Call.run, Call.of] at hsubmit ⊢
  rcases hrun : submit context (batch, site) with ⟨error | counts, after⟩ <;> rw [hrun] at hsubmit
  · exact hsubmit
  · simp only
    split
    · exact hsubmit
    · exact hsubmit.abortWith _

end Batch

end Transact
