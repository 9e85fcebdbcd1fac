/-
# What the database in memory does for one transaction

Queries and batches work inside their transaction: they leave the database as it
is, and when they are answered they have added the row writes of their handlers
to the transaction's buffer. What a call that fails leaves in the buffer is not
looked at here, since no such transaction goes on.
-/

import Transact.Executor.Memory
import Transact.Proofs.Mvcc.Versions
import Transact.Proofs.Table.Writes

namespace Transact.Memory

open Table (Handler RowWrite)

variable {α : Type}

/-- What the calls for one transaction work on. -/
abbrev Site := Scope × Environment Memory

/-! ## The row writes of queries and batches -/

/-- The row writes of a handler that is run inside a transaction. -/
def handlerWrites (handler : Handler α) (site : Site) : List RowWrite :=
  handler.rowWrites site.2.backend.store (site.1, site.2.signals)

/-- The row writes of a query: those of its handler. -/
def readWrites (statement : Statement) (site : Site) : List RowWrite :=
  match site.2.backend.query? statement with
  | .ok handler => handlerWrites handler site
  | .error _ => []

/-- The row writes of one statement of a batch. -/
def updateWrites (statement : Statement) (site : Site) : List RowWrite :=
  match site.2.backend.update? statement with
  | .ok handler => handlerWrites handler site
  | .error _ => []

/-- The row writes of the statements of a batch, each run where those before it have left off. -/
def batchWrites (context : Context) : List Statement → Site → List RowWrite
  | [], _ => []
  | statement :: rest, site =>
    updateWrites statement site ++
      batchWrites context rest ((execute context statement).run site).2

/-! ## What they do -/

/-- A call works inside its transaction: it keeps the database and the transaction's snapshot,
and when it is answered it has added its row writes to the buffer. -/
structure Buffers (work : Call Site α) (writes : Site → List RowWrite) : Prop where
  snapshot : ∀ site, (work.run site).2.1.snapshot = site.1.snapshot
  backend : ∀ site, (work.run site).2.2.backend = site.2.backend
  writes : ∀ site value, (work.run site).1 = .ok value →
    (work.run site).2.1.writes = Mvcc.Writes.addAll site.1.writes (writes site)

theorem runHandler_buffers (handler : Handler α) :
    Buffers (runHandler handler) (handlerWrites handler) where
  snapshot site := (Handler.perform_adds site.2.backend.store handler (site.1, site.2.signals)).2
  backend _ := rfl
  writes site _ _ :=
    (Handler.perform_adds site.2.backend.store handler (site.1, site.2.signals)).1

/-- A call that is refused for a cancelled context or for its statement, and otherwise runs the
handler that it finds, works inside its transaction. -/
theorem buffers_of_run {work : Call Site α} {writes : Site → List RowWrite}
    (h : ∀ site, (∃ error, work.run site = (.error error, site)) ∨
      ∃ handler : Handler α, work.run site = (runHandler handler).run site ∧
        writes site = handlerWrites handler site) : Buffers work writes where
  snapshot site := by
    rcases h site with ⟨error, hwork⟩ | ⟨handler, hwork, -⟩ <;> rw [hwork]
    exact (runHandler_buffers handler).snapshot site
  backend site := by
    rcases h site with ⟨error, hwork⟩ | ⟨handler, hwork, -⟩ <;> rw [hwork]
    exact (runHandler_buffers handler).backend site
  writes site value hvalue := by
    rcases h site with ⟨error, hwork⟩ | ⟨handler, hwork, hwrites⟩ <;> rw [hwork] at hvalue ⊢
    · cases hvalue
    · rw [hwrites]
      exact (runHandler_buffers handler).writes site value hvalue

theorem read_buffers (context : Context) (statement : Statement) :
    Buffers (read context statement) (readWrites statement) := by
  apply buffers_of_run
  intro site
  simp only [read, readWrites, Call.run, Call.of]
  cases site.2.signals.check context with
  | error error => exact .inl ⟨error, rfl⟩
  | ok =>
      cases site.2.backend.query? statement with
      | error error => exact .inl ⟨error, rfl⟩
      | ok handler => exact .inr ⟨handler, rfl, rfl⟩

theorem execute_buffers (context : Context) (statement : Statement) :
    Buffers (execute context statement) (updateWrites statement) := by
  apply buffers_of_run
  intro site
  simp only [execute, updateWrites, Call.run, Call.of]
  cases site.2.signals.check context with
  | error error => exact .inl ⟨error, rfl⟩
  | ok =>
      cases site.2.backend.update? statement with
      | error error => exact .inl ⟨error, rfl⟩
      | ok handler => exact .inr ⟨handler, rfl, rfl⟩

/-- Running statements in order works inside the transaction as each of them does. -/
theorem executeFrom_buffers (context : Context) (index : Nat) (statements : List Statement)
    (site : Site) :
    (executeFrom context index statements site).2.1.snapshot = site.1.snapshot ∧
      (executeFrom context index statements site).2.2.backend = site.2.backend ∧
      ∀ counts, (executeFrom context index statements site).1 = .ok counts →
        (executeFrom context index statements site).2.1.writes =
          Mvcc.Writes.addAll site.1.writes (batchWrites context statements site) := by
  induction statements generalizing index site with
  | nil => exact ⟨rfl, rfl, fun _ _ => rfl⟩
  | cons statement rest ih =>
      have hfirst := execute_buffers context statement
      have hsnapshot := hfirst.snapshot site
      have hbackend := hfirst.backend site
      have hwrites := hfirst.writes site
      rw [executeFrom, batchWrites]
      rcases hrun : (execute context statement).run site with ⟨error | count, after⟩ <;>
        rw [hrun] at hsnapshot hbackend hwrites
      · exact ⟨hsnapshot, hbackend, nofun⟩
      · obtain ⟨hsnapshot', hbackend', hwrites'⟩ := ih (index + 1) after
        rcases hrest : executeFrom context (index + 1) rest after with ⟨error | counts, last⟩ <;>
          simp only [hrest] at hsnapshot' hbackend' hwrites' ⊢
        · exact ⟨hsnapshot'.trans hsnapshot, hbackend'.trans hbackend, nofun⟩
        · refine ⟨hsnapshot'.trans hsnapshot, hbackend'.trans hbackend, fun _ _ => ?_⟩
          rw [Mvcc.Writes.addAll_append, ← hwrites count rfl]
          exact hwrites' counts rfl

/-- A batch is answered when its statements are, and otherwise its writes are taken back. -/
theorem executeBatch_cases (context : Context) (statements : List Statement) (site : Site) :
    (∃ counts after, executeFrom context 0 statements site = (.ok counts, after) ∧
        (executeBatch context statements).run site = (.ok counts, after)) ∨
      ∃ index error after, executeFrom context 0 statements site = (.error (index, error), after) ∧
        (executeBatch context statements).run site =
          (.error (batchError index error), after.1.restore site.1.writes, after.2) := by
  simp only [executeBatch, Call.run, Call.of]
  rcases executeFrom context 0 statements site with ⟨⟨index, error⟩ | counts, after⟩
  · exact .inr ⟨index, error, after, rfl, rfl⟩
  · exact .inl ⟨counts, after, rfl, rfl⟩

theorem executeBatch_buffers (context : Context) (statements : List Statement) :
    Buffers (executeBatch context statements) (batchWrites context statements) where
  snapshot site := by
    have h := (executeFrom_buffers context 0 statements site).1
    rcases executeBatch_cases context statements site with
      ⟨_, _, hrun, hbatch⟩ | ⟨_, _, _, hrun, hbatch⟩ <;> rw [hrun] at h <;> rw [hbatch] <;> exact h
  backend site := by
    have h := (executeFrom_buffers context 0 statements site).2.1
    rcases executeBatch_cases context statements site with
      ⟨_, _, hrun, hbatch⟩ | ⟨_, _, _, hrun, hbatch⟩ <;> rw [hrun] at h <;> rw [hbatch] <;> exact h
  writes site value := by
    have h := (executeFrom_buffers context 0 statements site).2.2
    rcases executeBatch_cases context statements site with
      ⟨counts, _, hrun, hbatch⟩ | ⟨_, _, _, hrun, hbatch⟩ <;> rw [hbatch]
    · rw [hrun] at h
      exact fun _ => h counts rfl
    · exact nofun

/-! ## Beginning and finishing -/

/-- Unless its context is cancelled, a transaction is begun on the store. -/
theorem begin_eq {context : Context} {environment : Environment Memory}
    (hcheck : environment.signals.check context = .ok ()) :
    (begin context).run environment =
      ((Mvcc.Transaction.begin.run environment.backend.store).1,
        { environment with
          backend := { environment.backend with
            store := (Mvcc.Transaction.begin.run environment.backend.store).2 } }) := by
  simp only [begin, Call.run, Call.of, hcheck]
  rfl

/-- A database without the marker of one of its transactions. -/
def released (memory : Memory) (scope : Scope) : Memory :=
  { memory with store := scope.release memory.store }

/-- A database with the writes of one of its transactions, and without its marker. -/
def committed (memory : Memory) (scope : Scope) : Memory :=
  { memory with store := scope.release (scope.apply memory.store) }

/-- Which marker is removed depends on the snapshot alone. -/
theorem released_congr {scope other : Scope} (h : scope.snapshot = other.snapshot)
    (memory : Memory) : memory.released scope = memory.released other := by
  rw [released, released, Mvcc.Transaction.release_congr h]

/-- A commit removes the transaction's marker in any case, and it writes if it goes through. -/
theorem commit_cases (context : Context) (scope : Scope) (environment : Environment Memory) :
    (∃ error, (commit context scope).run environment =
        (.error error, { environment with backend := environment.backend.released scope })) ∨
      (commit context scope).run environment =
        (.ok (), { environment with backend := environment.backend.committed scope }) := by
  simp only [commit, Call.run, Call.of]
  cases environment.signals.check context with
  | error error => exact .inl ⟨error, rfl⟩
  | ok =>
      simp only [onStore, Mvcc.Transaction.commit, Call.run, Call.of]
      cases scope.validate environment.backend.store with
      | error error => exact .inl ⟨error, rfl⟩
      | ok => exact .inr rfl

end Transact.Memory
