/-
# What a transaction does alone

The buffer of a transaction depends on its own steps alone, as long as it goes
back to its own checkpoints: replaying what it did gives the same buffer. What
its reads answered depends besides on the table that it found, and on that only
through the keys that it depends on. So any table that agrees there with the
commits before its beginning gives the same answers.
-/

import Transact.Proofs.Mvcc.Serial
import Transact.Proofs.Mvcc.Snapshot

namespace Transact.Mvcc

/-- Replaying the transactions of a history, each one alone, gives the buffers, the checkpoints
and the answers of the run. -/
structure Recorded (run : Run) (past : History) : Prop where
  buffers : ∀ number txn, run.transactions.get? number = some txn →
    (past.replayed number).writes = txn.writes
  commits : ∀ commit ∈ past.commits, (past.replayed commit.1).writes = commit.2
  taken : ∀ label writes, run.checkpoints[label]? = some writes →
    ∃ number, (number, label) ∈ past.taken ∧
      (past.replayed number).saved.get? label = some writes
  saved : ∀ number label writes, (past.replayed number).saved.get? label = some writes →
    run.checkpoints[label]? = some writes
  answers : ∀ number < run.begun, ∀ table : Table,
    (∀ key, past.DependsOn number key → table.get? key = (past.before number).value key) →
      past.answers number =
        (Replay.initial.answers table (past.program number)).map .ok

namespace Recorded

variable {run : Run} {past : History} {number : Nat} {txn : Transaction}

theorem initial : Recorded .initial [] where
  buffers := by simp [Run.initial]
  commits := nofun
  taken := by simp [Run.initial]
  saved := by
    intro number label writes hwrites
    cases hwrites
  answers := by simp [Run.initial]

/-! ## Beginning -/

theorem program_eq_nil (h : Consistent run past) (hnumber : run.begun ≤ number) :
    past.program number = [] := by
  apply List.filterMap_eq_nil_iff.mpr
  intro event hevent
  apply if_neg
  intro hactor
  exact Nat.not_lt_of_le hnumber (h.actors event hevent number hactor)

theorem answers_eq_nil (h : Consistent run past) (hnumber : run.begun ≤ number) :
    past.answers number = [] := by
  apply List.filterMap_eq_nil_iff.mpr
  intro event hevent
  apply if_neg
  intro hactor
  exact Nat.not_lt_of_le hnumber (h.actors event hevent number hactor)

/-- What others do changes nothing that a transaction did or was answered. -/
theorem answers_of_ne (hrecorded : Recorded run past) (h : Consistent run past) {event : Event}
    (hactor : event.step.actor? ≠ some number) (hnumber : number < run.begun) (table : Table)
    (htable : ∀ key, History.DependsOn (past ++ [event]) number key →
      table.get? key = (History.before (past ++ [event]) number).value key) :
    History.answers (past ++ [event]) number =
      (Replay.initial.answers table (History.program (past ++ [event]) number)).map .ok := by
  rw [History.answers_concat_of_ne hactor, History.program_concat_of_ne hactor]
  apply hrecorded.answers number hnumber table
  intro key hdepends
  rw [← History.before_append (h.begun_iff.mpr hnumber) [event]]
  exact htable key (History.dependsOn_concat_iff.mpr (.inl hdepends))

theorem step_begin (hrecorded : Recorded run past) (h : Consistent run past) :
    Recorded (run.step .begin).2 (past ++ [⟨.begin, (run.step .begin).1, .empty⟩]) := by
  have hactor : ∀ number, Run.Step.begin.actor? ≠ some number := nofun
  have hreplayed : ∀ answer number, History.replayed (past ++ [⟨.begin, answer, .empty⟩]) number =
      past.replayed number :=
    fun answer number => History.replayed_concat_of_ne (hactor number)
  obtain ⟨active, _, hstep⟩ := h.step_begin_eq
  refine ⟨fun number txn hopen => ?_, ?_, ?_, ?_, ?_⟩
  · rw [hreplayed]
    simp only [hstep, OrderedMap.get?_insert] at hopen
    split at hopen
    · rename_i hnumber
      cases hopen
      rw [hnumber, History.replayed, program_eq_nil h (Nat.le_refl _)]
      rfl
    · exact hrecorded.buffers number txn hopen
  · simpa [hreplayed, Event.commit?] using hrecorded.commits
  · simpa [hreplayed, hstep, Event.taken?] using hrecorded.taken
  · simpa [hreplayed, hstep] using hrecorded.saved
  · intro number hnumber table htable
    rw [hstep] at hnumber
    rcases Nat.lt_succ_iff_lt_or_eq.mp hnumber with hlt | heq
    · exact hrecorded.answers_of_ne h (hactor number) hlt table htable
    · have hle := Nat.le_of_eq heq.symm
      rw [History.answers_concat_of_ne (hactor number),
        History.program_concat_of_ne (hactor number), answers_eq_nil h hle, program_eq_nil h hle]
      rfl

/-! ## Buffers and checkpoints -/

/-- A checkpoint that nobody else has taken is there for a transaction as it is in the run. -/
theorem saved_eq (hrecorded : Recorded run past) {label : Nat}
    (hown : ∀ taken ∈ past.taken, taken.2 = label → taken.1 = number) :
    (past.replayed number).saved.get? label = run.checkpoints[label]? := by
  cases hsaved : (past.replayed number).saved.get? label with
  | some writes => exact (hrecorded.saved number label writes hsaved).symm
  | none =>
      cases hcheckpoint : run.checkpoints[label]? with
      | none => rfl
      | some writes =>
          -- Somebody took it, and that can only have been this transaction.
          obtain ⟨other, htaken, hother⟩ := hrecorded.taken label writes hcheckpoint
          have hsame : other = number := hown (other, label) htaken rfl
          rw [hsame, hsaved] at hother
          cases hother

theorem step_checkpoint_answer (hopen : run.transactions.get? number = some txn) :
    (run.step (.checkpoint number)).1 = .ok (.checkpoint run.checkpoints.length) := by
  simp only [Run.step, Run.withOpen, hopen]

/-- A step leaves the same in the buffer of the run and in that of the replay. -/
theorem replayed_writes (hrecorded : Recorded run past)
    (hopen : run.transactions.get? number = some txn) {step : Run.Step}
    (hactor : step.actor? = some number) {answer : Except Error Run.Answer}
    (hown : History.OwnCheckpoints (past ++ [⟨step, answer, txn.writes⟩])) :
    (History.replayed (past ++ [⟨step, answer, txn.writes⟩]) number).writes =
      step.buffered run.checkpoints txn.writes := by
  have hwrites := hrecorded.buffers number txn hopen
  rw [History.replayed_concat past hactor]
  cases step <;> cases hactor
  case restore.refl label =>
    have hsaved : (past.replayed number).saved.get? label = run.checkpoints[label]? := by
      apply hrecorded.saved_eq
      intro taken htaken hlabel
      rw [History.OwnCheckpoints, History.taken_concat, History.restored_concat] at hown
      exact hown (number, label) (by simp [Event.restored?]) taken (List.mem_append_left _ htaken)
        hlabel
    simp [Event.operation?, Replay.after, Replay.next, Run.Step.buffered, hsaved, hwrites]
  case checkpoint.refl =>
    rcases answer with error | (_ | _ | _ | label | _) <;>
      simp [Event.operation?, Replay.after, Replay.next, Run.Step.buffered, hwrites]
  all_goals simp [Event.operation?, Replay.after, Replay.next, Run.Step.buffered, hwrites]

/-- Only a checkpoint adds to the checkpoints of the replay, as it does in the run. -/
theorem replayed_saved (past : History) (hopen : run.transactions.get? number = some txn)
    {step : Run.Step} (hactor : step.actor? = some number) :
    (History.replayed (past ++ [⟨step, (run.step step).1, txn.writes⟩]) number).saved =
      if step = .checkpoint number then
        (past.replayed number).saved.insert run.checkpoints.length (past.replayed number).writes
      else (past.replayed number).saved := by
  rw [History.replayed_concat past hactor]
  cases step <;> cases hactor
  case checkpoint.refl =>
    rw [step_checkpoint_answer hopen, if_pos rfl]
    rfl
  all_goals simp [Event.operation?, Replay.after, Replay.next]

/-! ## Answers -/

/-- The table of a replay with the buffer on top holds what the transaction finds in the run. -/
theorem get?_overlay_eq_found {table : Table} {writes : Writes} {key : Bytes}
    (htable : writes.contains key = false → table.get? key = (past.before number).value key) :
    (overlay table writes).get? key = past.found number writes key := by
  rw [get?_overlay, History.found]
  cases hwrite : writes.get? key with
  | some write => rfl
  | none => exact htable (by rw [OrderedMap.contains, hwrite]; rfl)

/-- A read answers in the run what it answers in a replay on a table that agrees. -/
theorem readAnswer_eq (hrecorded : Recorded run past) (h : Consistent run past)
    (hreadable : HoldsReadable run past) (hopen : run.transactions.get? number = some txn)
    {step : Run.Step} (hactor : step.actor? = some number) {table : Table}
    (htable : ∀ key,
      History.DependsOn (past ++ [⟨step, (run.step step).1, txn.writes⟩]) number key →
        table.get? key = (past.before number).value key) :
    (Event.mk step (run.step step).1 txn.writes).readAnswer?.toList =
      ((past.replayed number).answers table
        (Event.mk step (run.step step).1 txn.writes).operation?.toList).map .ok := by
  have hwrites := hrecorded.buffers number txn hopen
  cases step <;> cases hactor
  case get.refl key =>
    have hfound : (overlay table txn.writes).get? key = past.found number txn.writes key := by
      apply get?_overlay_eq_found
      intro hkey
      apply htable key
      exact History.dependsOn_concat_iff.mpr (.inr (.inl (by simp [Event.read?, hkey])))
    simp [Event.readAnswer?, Event.operation?, Replay.answers, Replay.answer, hwrites, hfound,
      h.step_get_eq hreadable hopen]
  case scanPrefix.refl start =>
    obtain ⟨entries, hanswer, hsorted, hmem⟩ := h.step_scanPrefix_eq hreadable hopen start
    have hentries : entries = (overlay table txn.writes).entries.filter fun entry =>
        start.isPrefixOf entry.1 := by
      apply OrderedMap.eq_of_mem_iff hsorted ((overlay table txn.writes).sorted.filter _)
      rintro ⟨key, value⟩
      rw [hmem, List.mem_filter, ← OrderedMap.get?_eq_some_iff, List.isPrefixOf_iff_prefix,
        and_comm]
      apply and_congr_left
      intro hstart
      rw [get?_overlay_eq_found fun _ => htable key (History.dependsOn_concat_iff.mpr
        (.inr (.inr ⟨start, rfl, hstart⟩)))]
    simp [Event.readAnswer?, Event.operation?, Replay.answers, Replay.answer, hwrites, hanswer,
      hentries]
  case checkpoint.refl =>
    rw [step_checkpoint_answer hopen]
    rfl
  all_goals rfl

/-! ## Any steps -/

/-- What a transaction of the replay has under a label after a step of the run. -/
theorem get?_replayed_saved (hrecorded : Recorded run past)
    (hopen : run.transactions.get? number = some txn) {step : Run.Step}
    (hactor : step.actor? = some number) (other label : Nat) :
    (History.replayed (past ++ [⟨step, (run.step step).1, txn.writes⟩]) other).saved.get? label =
      if step = .checkpoint other ∧ label = run.checkpoints.length then some txn.writes
      else (past.replayed other).saved.get? label := by
  by_cases hother : other = number
  · subst hother
    rw [replayed_saved past hopen hactor]
    by_cases hcheckpoint : step = .checkpoint other
    · simp [hcheckpoint, hrecorded.buffers other txn hopen]
    · simp [hcheckpoint]
  · have hactor' : step.actor? ≠ some other := by
      rw [hactor]
      simpa using Ne.symm hother
    have hcheckpoint : step ≠ .checkpoint other := by
      rintro rfl
      exact hactor' rfl
    rw [History.replayed_concat_of_ne hactor']
    simp [hcheckpoint]

/-- What the run has under a label after a step. -/
theorem getElem?_checkpoints (hopen : run.transactions.get? number = some txn) {step : Run.Step}
    (hactor : step.actor? = some number) (label : Nat) :
    (run.step step).2.checkpoints[label]? =
      if step = .checkpoint number ∧ label = run.checkpoints.length then some txn.writes
      else run.checkpoints[label]? := by
  rw [(Run.step_buffers hactor hopen).2]
  cases step <;> cases hactor
  case checkpoint.refl =>
    simp only [Run.Step.saved, List.getElem?_append, List.getElem?_singleton, true_and]
    grind
  all_goals simp [Run.Step.saved]

/-- Every checkpoint of the run is there for the transaction that took it. -/
theorem step_taken (hrecorded : Recorded run past)
    (hopen : run.transactions.get? number = some txn) {step : Run.Step}
    (hactor : step.actor? = some number) {label : Nat} {writes : Writes}
    (hlabel : (run.step step).2.checkpoints[label]? = some writes) :
    ∃ other, (other, label) ∈
        History.taken (past ++ [⟨step, (run.step step).1, txn.writes⟩]) ∧
      (History.replayed (past ++ [⟨step, (run.step step).1, txn.writes⟩]) other).saved.get? label =
        some writes := by
  rw [getElem?_checkpoints hopen hactor] at hlabel
  split at hlabel
  · rename_i hnew
    cases hlabel
    refine ⟨number, ?_, ?_⟩
    · simp [hnew.1, hnew.2, step_checkpoint_answer hopen, Event.taken?]
    · rw [hrecorded.get?_replayed_saved hopen hactor, if_pos hnew]
  · rename_i hold
    obtain ⟨other, htaken, hsaved⟩ := hrecorded.taken label writes hlabel
    refine ⟨other, by simp [htaken], ?_⟩
    rw [hrecorded.get?_replayed_saved hopen hactor, if_neg, hsaved]
    rintro ⟨rfl, hlength⟩
    cases hactor
    exact hold ⟨rfl, hlength⟩

/-- Every checkpoint of the replay is one of the run. -/
theorem step_saved (hrecorded : Recorded run past)
    (hopen : run.transactions.get? number = some txn) {step : Run.Step}
    (hactor : step.actor? = some number) {other label : Nat} {writes : Writes}
    (hlabel : (History.replayed (past ++ [⟨step, (run.step step).1, txn.writes⟩])
      other).saved.get? label = some writes) :
    (run.step step).2.checkpoints[label]? = some writes := by
  rw [hrecorded.get?_replayed_saved hopen hactor] at hlabel
  rw [getElem?_checkpoints hopen hactor]
  split at hlabel
  · rename_i hnew
    obtain ⟨rfl, hlength⟩ := hnew
    cases hactor
    rw [if_pos ⟨rfl, hlength⟩, hlabel]
  · have hcheckpoint := hrecorded.saved other label writes hlabel
    have hlt := (List.getElem?_eq_some_iff.mp hcheckpoint).1
    rw [if_neg fun hnew => Nat.ne_of_lt hlt hnew.2, hcheckpoint]

/-- A transaction's own step adds the same answer to the run and to the replay. -/
theorem answers_own (hrecorded : Recorded run past) (h : Consistent run past)
    (hreadable : HoldsReadable run past) (hopen : run.transactions.get? number = some txn)
    {step : Run.Step} (hactor : step.actor? = some number) (table : Table)
    (htable : ∀ key,
      History.DependsOn (past ++ [⟨step, (run.step step).1, txn.writes⟩]) number key →
        table.get? key = (History.before (past ++ [⟨step, (run.step step).1, txn.writes⟩])
          number).value key) :
    History.answers (past ++ [⟨step, (run.step step).1, txn.writes⟩]) number =
      (Replay.initial.answers table
        (History.program (past ++ [⟨step, (run.step step).1, txn.writes⟩]) number)).map .ok := by
  have hbegun := (h.follows number txn hopen).begun
  rw [History.before_append hbegun] at htable
  have hpast := hrecorded.answers number (h.begun_iff.mp hbegun) table fun key hdepends =>
    htable key (History.dependsOn_concat_iff.mpr (.inl hdepends))
  have hread := hrecorded.readAnswer_eq h hreadable hopen hactor htable
  rw [History.answers_concat past hactor, History.program_concat past hactor,
    Replay.answers_append, List.map_append, hpast, hread]
  rfl

/-- A step of an open transaction is replayed with it. -/
theorem step_open (hrecorded : Recorded run past) (h : Consistent run past)
    (hreadable : HoldsReadable run past) (hopen : run.transactions.get? number = some txn)
    {step : Run.Step} (hactor : step.actor? = some number)
    (hown : History.OwnCheckpoints (past ++ [⟨step, (run.step step).1, txn.writes⟩])) :
    Recorded (run.step step).2 (past ++ [⟨step, (run.step step).1, txn.writes⟩]) := by
  obtain ⟨hbuffer, _⟩ := Run.step_buffers hactor hopen
  obtain ⟨hbegun, htransactions⟩ := run.step_of_actor? hactor
  have hwrites := hrecorded.replayed_writes hopen hactor hown
  have hactor_iff : ∀ other, step.actor? = some other ↔ other = number := by
    intro other
    rw [hactor, Option.some.injEq, eq_comm]
  have hothers : ∀ other, other ≠ number →
      History.replayed (past ++ [⟨step, (run.step step).1, txn.writes⟩]) other =
        past.replayed other :=
    fun other hne => History.replayed_concat_of_ne (mt (hactor_iff other).mp hne)
  refine ⟨fun other left hleft => ?_, fun commit hcommit => ?_,
    fun label writes => hrecorded.step_taken hopen hactor,
    fun other label writes => hrecorded.step_saved hopen hactor,
    fun other hother table htable => ?_⟩
  · by_cases hne : other = number
    · subst hne
      rw [hwrites, hbuffer left hleft]
    · rw [hothers other hne]
      exact hrecorded.buffers other left (htransactions other hne ▸ hleft)
  · rcases History.mem_commits_concat_iff.mp hcommit with hcommit | hcommit
    · rw [hothers _ (h.ne_of_mem_commits hopen hcommit)]
      exact hrecorded.commits commit hcommit
    · obtain ⟨hstep, _, hwritten⟩ := Event.commit?_eq_some_iff.mp hcommit
      simp only at hstep hwritten
      subst hstep
      cases hactor
      rw [hwrites, ← hwritten]
      rfl
  · rw [hbegun] at hother
    by_cases hne : other = number
    · subst hne
      exact hrecorded.answers_own h hreadable hopen hactor table htable
    · exact hrecorded.answers_of_ne h (mt (hactor_iff other).mp hne) hother table htable

end Recorded

theorem recorded_reached {script : List Run.Step} (hfits : Run.CounterFits script)
    (hvalues : Run.ValuesFit script) (hown : (Run.past script).OwnCheckpoints) :
    Recorded (Run.reached script) (Run.past script) := by
  refine (reached_induction (motive := fun run past =>
    HoldsReadable run past ∧ (past.OwnCheckpoints → Recorded run past)) hfits
      ⟨.initial, fun _ => .initial⟩ ?_ ?_).2 hown
  · rintro run past h _ ⟨hreadable, hrecorded⟩
    exact ⟨hreadable.step_begin h, fun hown => (hrecorded hown.of_concat).step_begin h⟩
  · rintro run past h ⟨hreadable, hrecorded⟩ step hmem number txn hactor hopen
    exact ⟨hreadable.step_open (hvalues.of_mem hmem) hactor hopen, fun hown =>
      (hrecorded hown.of_concat).step_open h hreadable hopen hactor hown⟩

end Transact.Mvcc
