/-
# What work for an active transaction comes to

A call that has the executor work for an active transaction ends in one of three
ways, whatever the executor is. Its context was cancelled beforehand, and the
executor is not asked. Or something fails on the way, and the scope is given back as
the executor has left it. Or the call is answered as the executor answers; then its
context has not been cancelled, and the transaction goes on.

The submission of a batch is such a call, on which an empty batch does no work.
-/

import Transact.Session.Batch

namespace Transact

namespace Signals

variable {signals : Signals} {context : Context}

theorem check_of_cancelled (h : signals.isCancelled context = true) :
    signals.check context = .error .cancelled := by
  rw [check, if_pos h]

theorem check_of_not_cancelled (h : signals.isCancelled context = false) :
    signals.check context = .ok () := by
  rw [check, if_neg (by simp [h])]

end Signals

namespace Transaction

variable {β σ α : Type} [Executor β σ] {context : Context} {work : Call (σ × Environment β) α}
  {scope : σ} {config : SessionConfig} {environment : Environment β} {answer : Except Error α}
  {after : Site β σ}

/-- How work for an active transaction ends. -/
inductive Worked (context : Context) (work : Call (σ × Environment β) α) (scope : σ)
    (config : SessionConfig) (environment : Environment β) :
    Except Error α → Site β σ → Prop where
  | stopped (hcancelled : environment.signals.isCancelled context = true) :
      Worked context work scope config environment (.error .cancelled)
        (release (ofScope scope config, environment))
  | failed {answer : Except Error α} {left : σ} {changed : Environment β} (error : Error)
      (hbefore : environment.signals.isCancelled context = false)
      (hwork : work.run (scope, environment) = (answer, left, changed)) :
      Worked context work scope config environment (.error error)
        (release (ofScope left config, changed))
  | answered {value : α} {left : σ} {changed : Environment β}
      (hbefore : environment.signals.isCancelled context = false)
      (hwork : work.run (scope, environment) = (.ok value, left, changed))
      (hafter : changed.signals.isCancelled context = false) :
      Worked context work scope config environment (.ok value) (ofScope left config, changed)

/-- An answer means that the context has not been cancelled. -/
theorem Worked.uncancelled (h : Worked context work scope config environment answer after)
    (hok : answer.isOk = true) : after.2.signals.isCancelled context = false := by
  cases h with
  | stopped => cases hok
  | failed => cases hok
  | answered _ _ hafter => exact hafter

/-- A context that was cancelled beforehand stops the call. -/
theorem Worked.eq_of_cancelled (h : Worked context work scope config environment answer after)
    (hcancelled : environment.signals.isCancelled context = true) :
    answer = .error .cancelled ∧ after = release (ofScope scope config, environment) := by
  cases h with
  | stopped => exact ⟨rfl, rfl⟩
  | failed _ hbefore =>
      rw [hbefore] at hcancelled
      cases hcancelled
  | answered hbefore =>
      rw [hbefore] at hcancelled
      cases hcancelled

theorem call_worked (context : Context) (work : Call (σ × Environment β) α) (scope : σ)
    (config : SessionConfig) (environment : Environment β) :
    Worked context work scope config environment
      ((call context work).run (ofScope scope config, environment)).1
      ((call context work).run (ofScope scope config, environment)).2 := by
  simp only [call, guarded, Call.run, Call.of, ofScope, ensureActive]
  cases hbefore : environment.signals.isCancelled context with
  | true =>
      rw [Signals.check_of_cancelled hbefore]
      exact .stopped hbefore
  | false =>
      rw [Signals.check_of_not_cancelled hbefore]
      rcases hwork : work (scope, environment) with ⟨error | value, left, changed⟩
      · exact .failed error hbefore hwork
      · cases hafter : changed.signals.isCancelled context with
        | true =>
            simp only [Signals.check_of_cancelled hafter]
            exact .failed .cancelled hbefore hwork
        | false =>
            simp only [Signals.check_of_not_cancelled hafter]
            exact .answered hbefore hwork hafter

end Transaction

/-! ## Submissions -/

namespace Batch

open Transaction (Worked ofScope release)

variable {β σ : Type} [Executor β σ] {batch : Batch} {context : Context} {scope : σ}
  {config : SessionConfig} {environment : Environment β} {answer : Except Error (List Int)}
  {after : Transaction.Site β σ}

/-- What the executor does for the statements of a batch, which is nothing if there are none. -/
def work (context : Context) (statements : List Statement) :
    Call (σ × Environment β) (List Int) :=
  if statements.isEmpty then Call.ofExcept (.ok []) else Executor.executeBatch context statements

/-- How the submission of statements for an active transaction ends. -/
structure Submitted (context : Context) (statements : List Statement) (scope : σ)
    (config : SessionConfig) (environment : Environment β) (answer : Except Error (List Int))
    (after : Transaction.Site β σ) : Prop where
  worked : Worked context (work context statements) scope config environment answer after
  length_eq : ∀ counts, answer = .ok counts → counts.length = statements.length

/-- A submission that is answered may fail for its counts. -/
theorem Submitted.abortWith {statements : List Statement} {counts : List Int}
    (h : Worked context (work context statements) scope config environment (.ok counts) after)
    (error : Error) :
    Submitted context statements scope config environment (.error error) (release after) := by
  cases h with
  | answered hbefore hwork _ => exact ⟨.failed error hbefore hwork, nofun⟩

theorem executeBatch_submitted (context : Context) (statements : List Statement)
    (hne : statements ≠ []) (scope : σ) (config : SessionConfig) (environment : Environment β) :
    Submitted context statements scope config environment
      ((Transaction.executeBatch context statements).run (ofScope scope config, environment)).1
      ((Transaction.executeBatch context statements).run (ofScope scope config, environment)).2 := by
  have hcall := Transaction.call_worked context (work context statements) scope config environment
  have hwork : work context statements = (Executor.executeBatch context statements :
      Call (σ × Environment β) (List Int)) := by
    rw [work, if_neg]
    simpa using hne
  rw [hwork] at hcall
  simp only [Transaction.executeBatch, Call.run, Call.of] at hcall ⊢
  rcases hrun : Transaction.call context (Executor.executeBatch context statements)
    (ofScope scope config, environment) with ⟨error | counts, after⟩ <;> rw [hrun] at hcall <;>
    rw [← hwork] at hcall
  · exact ⟨hcall, nofun⟩
  · simp only
    split
    case isTrue hlength =>
      refine ⟨hcall, fun found hfound => ?_⟩
      cases hfound
      exact hlength
    case isFalse => exact Submitted.abortWith hcall _

/-- The first submission of a batch. -/
theorem submit_submitted (hbuilding : batch.submitted = false) (context : Context) (scope : σ)
    (config : SessionConfig) (environment : Environment β) :
    ∃ answer after, (submit context).run (batch, ofScope scope config, environment) =
        (answer, { batch with submitted := true }, after) ∧
      Submitted context batch.statements scope config environment answer after := by
  have hactive : (ofScope scope config).ensureActive = .ok () := rfl
  simp only [submit, Call.run, Call.of, hbuilding, hactive]
  cases hbefore : environment.signals.isCancelled context with
  | true =>
      rw [Signals.check_of_cancelled hbefore]
      exact ⟨_, _, rfl, .stopped hbefore, nofun⟩
  | false =>
      rw [Signals.check_of_not_cancelled hbefore]
      cases hempty : batch.statements.isEmpty with
      | true =>
          refine ⟨_, _, rfl, .answered hbefore ?_ hbefore, ?_⟩
          · rw [work, if_pos hempty]
            rfl
          · intro counts hcounts
            cases hcounts
            exact (congrArg List.length (List.isEmpty_iff.mp hempty)).symm
      | false =>
          refine ⟨_, _, rfl, ?_⟩
          exact executeBatch_submitted context batch.statements (by simpa using hempty) scope
            config environment

/-- The first submission of a batch that expects a total. -/
theorem submitExpecting_submitted (hbuilding : batch.submitted = false) (context : Context)
    (expected : Int) (scope : σ) (config : SessionConfig) (environment : Environment β) :
    ∃ answer after,
      (submitExpecting context expected).run (batch, ofScope scope config, environment) =
        (answer, { batch with submitted := true }, after) ∧
      Submitted context batch.statements scope config environment answer after ∧
      ∀ counts, answer = .ok counts → total counts = expected := by
  obtain ⟨answer, after, hsubmit, hsubmitted⟩ :=
    submit_submitted hbuilding context scope config environment
  rw [Call.run] at hsubmit
  simp only [submitExpecting, Call.run, Call.of, hsubmit]
  cases answer with
  | error error => exact ⟨_, _, rfl, hsubmitted, nofun⟩
  | ok counts =>
      simp only
      split
      case isTrue htotal =>
        refine ⟨_, _, rfl, hsubmitted, fun found hfound => ?_⟩
        cases hfound
        exact htotal
      case isFalse =>
        exact ⟨_, _, rfl, Submitted.abortWith hsubmitted.worked _, nofun⟩

end Batch

end Transact
