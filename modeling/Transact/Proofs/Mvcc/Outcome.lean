/-
# Outcomes of commits

A commit is aborted when somebody else's commit since its beginning wrote what
it depends on or is about to write, and goes through in every other case. Only
commits that went through count: what was rolled back, aborted or dropped is
nobody's conflict. What a transaction read stays noted when its writes go back
to a checkpoint, since the history keeps its reads.
-/

import Transact.Proofs.Mvcc.Reachable

namespace Transact.Mvcc.Run

/-- A commit of an open transaction is aborted exactly when there is a conflict, and it goes through
exactly when there is none. -/
theorem step_commit_outcome {script : List Step} (hfits : CounterFits script) {number : Nat}
    {txn : Transaction} (hopen : (reached script).transactions.get? number = some txn) :
    (((reached script).step (.commit number)).1 = .error .conflictAborted ↔
        (past script).Conflict number txn.writes) ∧
      (((reached script).step (.commit number)).1 = .ok .done ↔
        ¬ (past script).Conflict number txn.writes) := by
  obtain ⟨h, _⟩ := consistent_reached hfits
  rcases h.step_commit_eq hopen with ⟨hconflict, hstep⟩ | ⟨hconflict, hstep⟩
  · simp [hstep, hconflict]
  · simp [hstep, hconflict]

/-- A read counts although its transaction has gone back to a checkpoint since; it matters whether
the other transaction commits or rolls back. -/
theorem step_commit_outcome_restored :
    let front : List Step := [.begin, .begin, .checkpoint 0, .set 0 [98] [1], .get 0 [97],
      .restore 0 0, .set 1 [97] [2]]
    let open? (script : List Step) := (reached script).transactions.get? 0
    let txn : Transaction :=
      ⟨⟨1, .empty⟩, OrderedMap.empty.insert [97] (), .empty, .empty⟩
    CounterFits (front ++ [.commit 1]) ∧ open? (front ++ [.commit 1]) = some txn ∧
      open? (front ++ [.rollback 1]) = some txn ∧
      ((reached (front ++ [.commit 1])).step (.commit 0)).1 = .error .conflictAborted ∧
      ((reached (front ++ [.rollback 1])).step (.commit 0)).1 = .ok .done := by
  intro front open? txn
  have hfits : CounterFits (front ++ [.commit 1]) := by decide
  have hopen : open? (front ++ [.commit 1]) = some txn := by decide +kernel
  have hother : open? (front ++ [.rollback 1]) = some txn := by decide +kernel
  refine ⟨hfits, hopen, hother, (step_commit_outcome hfits hopen).1.mpr ?_,
    (step_commit_outcome (by decide) hother).2.mpr ?_⟩
  · have hcommit : (1, OrderedMap.empty.insert [97] (some [2])) ∈
        ((past (front ++ [.commit 1])).since 0).commits := by decide +kernel
    have hread : ((0 : Nat), ([97] : Bytes)) ∈ (past (front ++ [.commit 1])).reads := by
      decide +kernel
    exact ⟨_, hcommit, by decide, [97], by decide, .inl (.inl hread)⟩
  · rintro ⟨commit, hcommit, _⟩
    have hnone : ((past (front ++ [.rollback 1])).since 0).commits = [] := by decide +kernel
    rw [hnone] at hcommit
    cases hcommit

end Transact.Mvcc.Run
