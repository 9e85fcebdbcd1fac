/-
# Single steps of a run

A step is a beginning, or it belongs to an open transaction, or it names none
and changes nothing. A step of an open transaction leaves the other transactions
alone, and what it does to its buffer and to the checkpoints depends on these
alone. Invariants of runs are proved by these cases.
-/

import Transact.Proofs.Mvcc.History

namespace Transact.Mvcc.Run

/-! ## Who a step belongs to -/

/-- Only a beginning belongs to no transaction. -/
theorem Step.actor?_eq_none_iff {step : Step} : step.actor? = none ↔ step = .begin := by
  cases step <;> simp [actor?]

/-- A step that names no open transaction changes nothing. -/
theorem step_eq_missing {run : Run} {step : Step} {number : Nat}
    (hactor : step.actor? = some number) (hclosed : run.transactions.get? number = none) :
    run.step step = (.error missing, run) := by
  cases step <;> cases hactor <;> simp only [Run.step, withOpen, hclosed]

theorem event?_eq_none {run : Run} {step : Step} {number : Nat}
    (hactor : step.actor? = some number) (hclosed : run.transactions.get? number = none) :
    run.event? step = none := by
  simp [event?, hactor, hclosed]

theorem event?_eq_some {run : Run} {step : Step} {number : Nat} {txn : Transaction}
    (hactor : step.actor? = some number) (hopen : run.transactions.get? number = some txn) :
    run.event? step = some ⟨step, (run.step step).1, txn.writes⟩ := by
  simp [event?, hactor, hopen]

/-- A step is a beginning, or it belongs to an open transaction, or it changes nothing. -/
theorem step_cases {motive : Run → History → Prop} {run : Run} {past : History} (step : Step)
    (hmissing : motive run past)
    (hbegin : step = .begin →
      motive (run.step .begin).2 (past ++ [⟨.begin, (run.step .begin).1, .empty⟩]))
    (hopen : ∀ number txn, step.actor? = some number → run.transactions.get? number = some txn →
      motive (run.step step).2 (past ++ [⟨step, (run.step step).1, txn.writes⟩])) :
    motive (run.step step).2 (past ++ (run.event? step).toList) := by
  cases hactor : step.actor? with
  | none =>
      rw [Step.actor?_eq_none_iff] at hactor
      subst hactor
      exact hbegin rfl
  | some number =>
      cases htxn : run.transactions.get? number with
      | none =>
          rw [step_eq_missing hactor htxn, event?_eq_none hactor htxn]
          simpa using hmissing
      | some txn =>
          rw [event?_eq_some hactor htxn]
          exact hopen number txn hactor htxn

/-- A step of one transaction begins none and leaves the others as they are. -/
theorem step_of_actor? (run : Run) {step : Step} {number : Nat}
    (hactor : step.actor? = some number) :
    (run.step step).2.begun = run.begun ∧
      ∀ other, other ≠ number →
        (run.step step).2.transactions.get? other = run.transactions.get? other := by
  cases hopen : run.transactions.get? number with
  | none =>
      rw [step_eq_missing hactor hopen]
      exact ⟨rfl, fun _ _ => rfl⟩
  | some txn =>
      cases step <;> cases hactor <;> simp only [Run.step, withOpen, hopen]
      case some.restore.refl checkpoint =>
        split
        · exact ⟨rfl, fun other hne => by rw [get?_update, if_neg hne]⟩
        · exact ⟨rfl, fun _ _ => rfl⟩
      case some.checkpoint.refl => simp
      case some.commit.refl => exact ⟨rfl, fun other hne => (get?_close ..).trans (if_neg hne)⟩
      case some.rollback.refl => exact ⟨rfl, fun other hne => (get?_close ..).trans (if_neg hne)⟩
      all_goals exact ⟨rfl, fun other hne => by simp [hne]⟩

/-! ## What a step does to the buffers -/

/-- What a step leaves in the buffer of its transaction. -/
def Step.buffered (checkpoints : List Writes) (writes : Writes) : Step → Writes
  | .set _ key value => writes.insert key (some value)
  | .delete _ key => writes.insert key none
  | .restore _ label => checkpoints[label]?.getD writes
  | _ => writes

/-- What a step adds to the checkpoints. -/
def Step.saved (writes : Writes) : Step → List Writes
  | .checkpoint _ => [writes]
  | _ => []

/-- What a step does to the checkpoints and to the buffer of its transaction, if that stays open. -/
theorem step_buffers {run : Run} {step : Step} {number : Nat} {txn : Transaction}
    (hactor : step.actor? = some number) (hopen : run.transactions.get? number = some txn) :
    (∀ left, (run.step step).2.transactions.get? number = some left →
        left.writes = step.buffered run.checkpoints txn.writes) ∧
      (run.step step).2.checkpoints = run.checkpoints ++ step.saved txn.writes := by
  cases step <;> cases hactor <;>
    simp only [Run.step, withOpen, hopen, Step.buffered, Step.saved, List.append_nil]
  case get.refl key =>
    refine ⟨?_, rfl⟩
    rw [get?_update, if_pos rfl]
    rintro _ ⟨⟩
    simp only [Transaction.get, Transaction.noteRead]
    split <;> rfl
  case restore.refl checkpoint =>
    cases run.checkpoints[checkpoint]? with
    | none => simp [hopen]
    | some writes => simp [update, Transaction.restore]
  case checkpoint.refl => simp
  case commit.refl => simp [finish, close]
  case rollback.refl => simp [finish, close]
  all_goals simp [update, close, Transaction.scanPrefix, Transaction.notePrefix, Transaction.set,
    Transaction.delete]

end Transact.Mvcc.Run
