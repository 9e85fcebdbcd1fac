/-
# What a run has written

Whatever is in a buffer, in a checkpoint or in a commit was once set or deleted
by a step. So a run holds writes of a kind as long as its steps make writes of
this kind: that a written value can be read back is such a kind, and that it is
a row under its key is another.
-/

import Transact.Proofs.Mvcc.Reachable

namespace Transact.Mvcc

/-- The write that a step buffers: a key with what is written under it. -/
def Run.Step.write? : Run.Step → Option (Bytes × Option Bytes)
  | .set _ key value => some (key, some value)
  | .delete _ key => some (key, none)
  | _ => none

variable {kind : Bytes → Option Bytes → Prop}

/-- Every write of a buffer is of a kind. -/
def Writes.Hold (writes : Writes) (kind : Bytes → Option Bytes → Prop) : Prop :=
  ∀ key write, writes.get? key = some write → kind key write

/-- Buffers, checkpoints and commits hold writes of a kind. -/
structure HoldsWrites (kind : Bytes → Option Bytes → Prop) (run : Run) (past : History) :
    Prop where
  buffers : ∀ number txn, run.transactions.get? number = some txn → txn.writes.Hold kind
  checkpoints : ∀ writes ∈ run.checkpoints, writes.Hold kind
  commits : ∀ commit ∈ past.commits, commit.2.Hold kind

namespace Writes

theorem hold_empty : Writes.Hold .empty kind := by
  intro key write hwrite
  cases hwrite

theorem Hold.insert {writes : Writes} (h : writes.Hold kind) {key : Bytes} {write : Option Bytes}
    (hwrite : kind key write) : Hold (writes.insert key write) kind := by
  intro other found hfound
  rw [OrderedMap.get?_insert] at hfound
  split at hfound
  case isTrue hother =>
    rw [hother, ← Option.some.inj hfound]
    exact hwrite
  case isFalse => exact h other found hfound

/-- A step leaves writes of the kind in a buffer if it makes one. -/
theorem Hold.buffered {writes : Writes} (h : writes.Hold kind) {checkpoints : List Writes}
    (hcheckpoints : ∀ writes ∈ checkpoints, writes.Hold kind) {step : Run.Step}
    (hstep : ∀ key write, step.write? = some (key, write) → kind key write) :
    Hold (step.buffered checkpoints writes) kind := by
  cases step with
  | set number key value => exact h.insert (hstep _ _ rfl)
  | delete number key => exact h.insert (hstep _ _ rfl)
  | restore number checkpoint =>
      simp only [Run.Step.buffered]
      cases hfound : checkpoints[checkpoint]? with
      | none => exact h
      | some saved => exact hcheckpoints saved (List.mem_of_getElem? hfound)
  | _ => exact h

end Writes

namespace HoldsWrites

variable {run : Run} {past : History}

theorem initial : HoldsWrites kind .initial [] where
  buffers number txn hopen := by cases hopen
  checkpoints writes hwrites := by cases hwrites
  commits commit hcommit := by cases hcommit

theorem step_begin (hwrites : HoldsWrites kind run past) (h : Consistent run past) :
    HoldsWrites kind (run.step .begin).2 (past ++ [⟨.begin, (run.step .begin).1, .empty⟩]) := by
  obtain ⟨active, _, hstep⟩ := h.step_begin_eq
  rw [hstep]
  refine ⟨fun number txn hopen => ?_, hwrites.checkpoints, ?_⟩
  · simp only [OrderedMap.get?_insert] at hopen
    split at hopen
    · cases hopen
      exact Writes.hold_empty
    · exact hwrites.buffers number txn hopen
  · simpa [Event.commit?] using hwrites.commits

theorem step_open (hwrites : HoldsWrites kind run past) {step : Run.Step}
    (hstep : ∀ key write, step.write? = some (key, write) → kind key write)
    {number : Nat} {txn : Transaction} (hactor : step.actor? = some number)
    (hopen : run.transactions.get? number = some txn) :
    HoldsWrites kind (run.step step).2 (past ++ [⟨step, (run.step step).1, txn.writes⟩]) := by
  obtain ⟨hbuffer, hsaved⟩ := Run.step_buffers hactor hopen
  have hown := hwrites.buffers number txn hopen
  refine ⟨fun other left hleft => ?_, ?_, ?_⟩
  · by_cases hne : other = number
    · subst hne
      rw [hbuffer left hleft]
      exact hown.buffered hwrites.checkpoints hstep
    · rw [(run.step_of_actor? hactor).2 other hne] at hleft
      exact hwrites.buffers other left hleft
  · rw [hsaved]
    intro writes hmem
    rcases List.mem_append.mp hmem with hmem | hmem
    · exact hwrites.checkpoints writes hmem
    · cases step <;> simp_all [Run.Step.saved]
  · intro commit hcommit
    rcases History.mem_commits_concat_iff.mp hcommit with hcommit | hcommit
    · exact hwrites.commits commit hcommit
    · rw [← (Event.commit?_eq_some_iff.mp hcommit).2.2]
      exact hown

/-- What an open transaction finds was written as a value. -/
theorem found (hwrites : HoldsWrites kind run past) {number : Nat} {txn : Transaction}
    (hopen : run.transactions.get? number = some txn) {key value : Bytes}
    (hfound : past.found number txn.writes key = some value) : kind key (some value) := by
  rw [History.found] at hfound
  cases hown : txn.writes.get? key with
  | some write =>
      rw [hown] at hfound
      obtain rfl : write = some value := hfound
      exact hwrites.buffers number txn hopen key _ hown
  | none =>
      rw [hown, Option.getD_none, History.value, Option.join_eq_some_iff] at hfound
      obtain ⟨commit, hcommit, hwrite⟩ := List.mem_filterMap.mp (List.mem_of_getLast? hfound)
      refine hwrites.commits commit ?_ key _ hwrite
      rw [History.commits_eq_before_append_since past number]
      exact List.mem_append_left _ hcommit

end HoldsWrites

/-- A run holds writes of a kind if the steps of its script make no others. -/
theorem holdsWrites_reached {script : List Run.Step} (hfits : Run.CounterFits script)
    (hscript : ∀ step ∈ script, ∀ key write, step.write? = some (key, write) → kind key write) :
    HoldsWrites kind (Run.reached script) (Run.past script) := by
  apply reached_induction hfits .initial
  · intro run past h _ hwrites
    exact hwrites.step_begin h
  · intro run past _ hwrites step hmem number txn hactor hopen
    exact hwrites.step_open (hscript step hmem) hactor hopen

end Transact.Mvcc
