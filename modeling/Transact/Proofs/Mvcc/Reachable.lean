/-
# What a run keeps

Each step keeps the invariant, and so it holds after any script. The one step
that needs an argument is a commit: it goes through exactly when there is no
conflict, so whoever wrote one of its keys before came before its beginning and
has a lower number.
-/

import Transact.Proofs.Mvcc.Conflict
import Transact.Proofs.Mvcc.Step

namespace Transact.Mvcc

namespace Consistent

variable {run : Run} {past : History} {number : Nat} {txn : Transaction}

/-! ## What a step keeps -/

/-- An open transaction follows the history through the steps of others. -/
theorem follows_other (h : Consistent run past) (hopen : run.transactions.get? number = some txn)
    {event : Event} (hactor : event.step.actor? = some number) {other : Nat}
    {otherTxn : Transaction} (hother : run.transactions.get? other = some otherTxn)
    (hne : other ≠ number) : Follows (past ++ [event]) other otherTxn := by
  have hfollows := h.follows other otherTxn hother
  have hactor' : event.step.actor? ≠ some other := by
    rw [hactor]
    simpa using Ne.symm hne
  apply hfollows.concat rfl
  · exact mt Event.actor?_of_finish? hactor'
  · intro commit hcommit
    have hown := Event.actor?_of_finish? (Event.finish?_of_commit? hcommit)
    rw [hactor] at hown
    have hrunning := h.follows number txn hopen
    rw [← Option.some.inj hown]
    exact hfollows.concurrent number ⟨hrunning.begun, hrunning.running⟩ (Ne.symm hne)
  · simp [Event.begins, Event.beginning?_of_actor? hactor]
  · intro key
    exact (or_iff_left (mt Event.actor?_of_read? hactor')).symm
  · intro start
    exact (or_iff_left (mt Event.actor?_of_scan? hactor')).symm

/-- A step of an open transaction keeps the invariant, if the store holds what it should and
the transaction is gone or follows the history. -/
theorem act (h : Consistent run past) (hopen : run.transactions.get? number = some txn)
    {event : Event} {next : Run} {left : Option Transaction}
    (hactor : event.step.actor? = some number) (hbegun : next.begun = run.begun)
    (htransactions : ∀ other, next.transactions.get? other =
      if other = number then left else run.transactions.get? other)
    (hholds : Holds next.store (past ++ [event]))
    (hleft : ∀ txn, left = some txn → Follows (past ++ [event]) number txn)
    (hcommit : ∀ commit, event.commit? = some commit → ∀ earlier ∈ past.commits, ∀ key,
      earlier.2.contains key = true → commit.2.contains key = true → earlier.1 < commit.1) :
    Consistent next (past ++ [event]) where
  fits := hbegun ▸ h.fits
  numbered := by
    rw [hbegun, History.beginnings_append, h.numbered]
    simp [Event.beginning?_of_actor? hactor]
  actors := by
    intro other hother actor hactor'
    rw [hbegun]
    rcases List.mem_append.mp hother with hmem | hmem
    · exact h.actors other hmem actor hactor'
    · rw [List.mem_singleton.mp hmem, hactor] at hactor'
      cases hactor'
      exact h.begun_iff.mp (h.follows number txn hopen).begun
  ascending := by
    rw [History.commits_append, History.commits_singleton, List.pairwise_append]
    refine ⟨h.ascending, by cases event.commit? <;> simp, ?_⟩
    intro earlier hearlier commit hmem
    exact hcommit commit (Option.mem_toList.mp hmem) earlier hearlier
  holds := hholds
  follows := by
    intro other otherTxn hother
    rw [htransactions] at hother
    by_cases hne : other = number
    · subst hne
      rw [if_pos rfl] at hother
      exact hleft otherTxn hother
    · rw [if_neg hne] at hother
      exact h.follows_other hopen hactor hother hne

/-- A step that finishes nothing and leaves the store alone keeps the invariant, if the
transaction notes what it reads. -/
theorem act_quiet (h : Consistent run past) (hopen : run.transactions.get? number = some txn)
    {event : Event} {next : Run} {left : Option Transaction}
    (hactor : event.step.actor? = some number) (hbegun : next.begun = run.begun)
    (htransactions : ∀ other, next.transactions.get? other =
      if other = number then left else run.transactions.get? other)
    (hstore : next.store = run.store) (hfinish : event.finish? = none)
    (hleft : ∀ noted, left = some noted → noted.snapshot = txn.snapshot ∧
      (∀ key, noted.reads.contains key = true ↔
        txn.reads.contains key = true ∨ event.read? = some (number, key)) ∧
      ∀ start, noted.prefixes.contains start = true ↔
        txn.prefixes.contains start = true ∨ event.scan? = some (number, start)) :
    Consistent next (past ++ [event]) := by
  apply h.act hopen hactor hbegun htransactions
  · rw [hstore]
    exact h.holds.concat_quiet (Event.beginning?_of_actor? hactor) hfinish
  · intro noted hnoted
    obtain ⟨hsnapshot, hreads, hscans⟩ := hleft noted hnoted
    refine (h.follows number txn hopen).concat hsnapshot (by simp [hfinish]) ?_ ?_ hreads hscans
    · simp [Event.commit?_of_finish? hfinish]
    · simp [Event.begins, Event.beginning?_of_actor? hactor]
  · simp [Event.commit?_of_finish? hfinish]

/-! ## Finishing -/

theorem versionOf_active_inj (h : Consistent run past)
    (hopen : run.transactions.get? number = some txn) {other : Nat} (hother : past.Active other)
    (heq : versionOf other = versionOf number) : other = number := by
  have hfits := h.fits
  have hother := h.active_lt hother
  have hnumber := h.begun_iff.mp (h.follows number txn hopen).begun
  exact (versionOf_inj (by omega) (by omega)).mp heq

/-- No commit has the number of an open transaction. -/
theorem versionOf_commit_ne (h : Consistent run past)
    (hopen : run.transactions.get? number = some txn) {commit : Nat × Writes}
    (hcommit : commit ∈ past.commits) : versionOf number ≠ versionOf commit.1 := by
  intro heq
  have hfits := h.fits
  have hlt := h.commit_lt hcommit
  have hnumber := h.begun_iff.mp (h.follows number txn hopen).begun
  rw [versionOf_inj (by omega) (by omega)] at heq
  exact h.ne_of_mem_commits hopen hcommit heq.symm

/-- Without a commit, finishing leaves the versions that there were. -/
theorem holds_release (h : Consistent run past)
    (hopen : run.transactions.get? number = some txn) {event : Event}
    (hfinish : event.finish? = some number) (hcommit : event.commit? = none) :
    Holds (txn.release run.store) (past ++ [event]) := by
  have hbeginning := Event.beginning?_of_actor? (Event.actor?_of_finish? hfinish)
  apply h.holds.concat_finish hbeginning hfinish (h.follows number txn hopen).version
    (fun other => h.versionOf_active_inj hopen) h.holds.keyed rfl (fun _ => rfl)
  simpa [hcommit] using h.holds.version

/-- A commit adds its versions to those that there were. -/
theorem holds_apply (h : Consistent run past)
    (hopen : run.transactions.get? number = some txn) {event : Event}
    (hcommit : event.commit? = some (number, txn.writes)) :
    Holds (txn.release (txn.apply run.store)) (past ++ [event]) := by
  have hfinish := Event.finish?_of_commit? hcommit
  have hversion := (h.follows number txn hopen).version
  have hbeginning := Event.beginning?_of_actor? (Event.actor?_of_finish? hfinish)
  have hcounter : (txn.apply run.store).get? Key.nextVersion.encode =
      run.store.get? Key.nextVersion.encode := Transaction.get?_apply_of_ne (by simp) run.store
  have hmarker : ∀ version, (txn.apply run.store).get? (Key.active version).encode =
      run.store.get? (Key.active version).encode :=
    fun version => Transaction.get?_apply_of_ne (by simp) run.store
  apply h.holds.concat_finish hbeginning hfinish hversion
    (fun other => h.versionOf_active_inj hopen) (Holds.keyed_apply h.holds.keyed txn) hcounter
    hmarker
  intro key version stored
  rw [History.commits_append, History.commits_singleton, hcommit]
  simp only [Option.toList_some, List.mem_append, List.mem_singleton, or_and_right, exists_or,
    exists_eq_left]
  by_cases hown : version = versionOf number
  · have hnone : run.store.get? (Key.version key (versionOf number)).encode = none := by
      rw [Option.eq_none_iff_forall_ne_some]
      intro stored hstored
      obtain ⟨commit, hmem, _, heq, _⟩ := (h.holds.version key _ stored).mp hstored
      exact h.versionOf_commit_ne hopen hmem heq
    have hothers : ∀ commit ∈ past.commits, versionOf number ≠ versionOf commit.1 :=
      fun commit => h.versionOf_commit_ne hopen
    rw [hown, ← hversion, Transaction.get?_apply_version, hversion, hnone, Option.or_none,
      Option.map_eq_some_iff]
    grind
  · have hsame : (txn.apply run.store).get? (Key.version key version).encode =
        run.store.get? (Key.version key version).encode := by
      refine Transaction.get?_apply_of_ne ?_ _
      simp [hversion, hown]
    rw [hsame, h.holds.version]
    grind

/-- Committing keeps the invariant: whoever wrote one of the keys before has a lower number. -/
theorem step_commit (h : Consistent run past) (hopen : run.transactions.get? number = some txn) :
    Consistent (run.step (.commit number)).2
      (past ++ [⟨.commit number, (run.step (.commit number)).1, txn.writes⟩]) := by
  have hfollows := h.follows number txn hopen
  rcases h.step_commit_eq hopen with ⟨hnone, hstep⟩ | ⟨_, hstep⟩
  · rw [hstep]
    refine h.act hopen rfl rfl (run.get?_close number) (h.holds_apply hopen rfl) (by simp) ?_
    intro commit hcommit earlier hearlier key hfirst hsecond
    cases hcommit
    have hlater : earlier ∉ (past.since number).commits := by
      intro hlater
      exact hnone ⟨earlier, hlater, h.ne_of_mem_commits hopen hearlier, key, hfirst, .inr hsecond⟩
    rw [History.commits_eq_before_append_since past number, List.mem_append] at hearlier
    exact (hfollows.earlier earlier (hearlier.resolve_right hlater)).1
  · rw [hstep]
    exact h.act hopen rfl rfl (run.get?_close number) (h.holds_release hopen rfl rfl) (by simp)
      (by simp [Event.commit?])

theorem step_rollback (h : Consistent run past)
    (hopen : run.transactions.get? number = some txn) :
    Consistent (run.step (.rollback number)).2
      (past ++ [⟨.rollback number, (run.step (.rollback number)).1, txn.writes⟩]) := by
  have hstep : run.step (.rollback number) =
      (.ok .done, { run.close number with store := txn.release run.store }) := by
    simp [Run.step, Run.withOpen, hopen, Run.finish, Transaction.rollback, Call.run, Call.of,
      Except.map]
  rw [hstep]
  exact h.act hopen rfl rfl (run.get?_close number) (h.holds_release hopen rfl rfl) (by simp)
    (by simp [Event.commit?])

/-! ## Beginning -/

/-- The counter names the next version, also before the first beginning. -/
theorem nextVersion_eq (h : Consistent run past) :
    nextVersion run.store = .ok (versionOf run.begun) := by
  rw [nextVersion, h.holds.counter, h.numbered, List.length_map, List.length_range]
  by_cases hbegun : run.begun = 0
  · simp [hbegun, versionOf]
  · simp [hbegun]

/-- A beginning succeeds, with the next version, and takes for active whoever is. -/
theorem step_begin_eq (h : Consistent run past) :
    ∃ active : OrderedSet UInt64,
      (∀ version, active.contains version = true ↔
        ∃ number, past.Active number ∧ version = versionOf number) ∧
      run.step .begin = (.ok (.begun run.begun (versionOf run.begun)),
        { store := (run.store.insert Key.nextVersion.encode
              (encodeCounter (versionOf run.begun + 1))).insert
            (Key.active (versionOf run.begun)).encode []
          transactions := run.transactions.insert run.begun
            ⟨⟨versionOf run.begun, active⟩, .empty, .empty, .empty⟩
          begun := run.begun + 1
          checkpoints := run.checkpoints }) := by
  obtain ⟨active, hactive, hbegin⟩ :=
    Transaction.begin_eq h.holds.markersKeyed h.nextVersion_eq
  refine ⟨active, fun version => ?_, ?_⟩
  · rw [hactive, OrderedMap.contains_iff]
    simp only [h.holds.marker]
    grind
  · simp only [Run.step, Run.begin, hbegin]
    rfl

/-- A snapshot that leaves out whoever is active sees every commit so far. -/
theorem begin_sees_commit (h : Consistent run past) (hfits : run.begun + 1 < UInt64.size)
    {active : OrderedSet UInt64}
    (hactive : ∀ version, active.contains version = true ↔
      ∃ number, past.Active number ∧ version = versionOf number)
    {commit : Nat × Writes} (hcommit : commit ∈ past.commits) :
    (Snapshot.mk (versionOf run.begun) active).sees (versionOf commit.1) = true := by
  have hlt := h.commit_lt hcommit
  have hinactive : active.contains (versionOf commit.1) = false := by
    rw [Bool.eq_false_iff]
    intro hcontains
    obtain ⟨other, hother, heq⟩ := (hactive _).mp hcontains
    have hotherlt := h.active_lt hother
    rw [versionOf_inj (by omega) (by omega)] at heq
    exact hother.2 (heq ▸ History.finished_of_mem_commits hcommit)
  rw [Snapshot.sees, hinactive]
  simpa using (versionOf_le_iff (by omega) hfits).mpr (Nat.le_of_lt hlt)

/-- A new transaction sees the commits so far and nobody who is active. -/
theorem follows_begin (h : Consistent run past) (hfits : run.begun + 1 < UInt64.size)
    {active : OrderedSet UInt64}
    (hactive : ∀ version, active.contains version = true ↔
      ∃ number, past.Active number ∧ version = versionOf number)
    {event : Event} (hbeginning : event.beginning? = some (run.begun, versionOf run.begun))
    (hfinish : event.finish? = none) (hread : event.read? = none) (hscan : event.scan? = none) :
    Follows (past ++ [event]) run.begun
      ⟨⟨versionOf run.begun, active⟩, .empty, .empty, .empty⟩ := by
  have hbegins : event.begins run.begun = true := by
    simp [Event.begins, hbeginning]
  have hfresh := h.begun_notMem
  refine ⟨?_, ?_, rfl, ?_, ?_, ?_, ?_, ?_⟩
  · simp [hbeginning]
  · rw [History.finished_append, History.finished_singleton, hfinish]
    simpa using fun hfinished => Nat.lt_irrefl _ (h.finished_lt hfinished)
  · intro commit hcommit
    rw [History.before_concat hfresh hbegins] at hcommit
    exact ⟨h.commit_lt hcommit, h.begin_sees_commit hfits hactive hcommit⟩
  · simp [History.since_concat hfresh hbegins, Event.commit?_of_finish? hfinish]
  · intro other hother hne
    rw [History.active_concat_iff] at hother
    obtain ⟨hbegun, hrunning, _⟩ := hother
    rcases hbegun with hbegun | hbegun
    · have hcontains := (hactive (versionOf other)).mpr ⟨other, ⟨hbegun, hrunning⟩, rfl⟩
      simp [Snapshot.sees, hcontains]
    · simp only [Event.begins, hbeginning, Option.map_some, beq_iff_eq, Option.some.injEq] at hbegun
      exact absurd hbegun.symm hne
  · intro key
    rw [History.reads_append, History.reads_singleton, hread]
    simpa using fun hmem => Nat.lt_irrefl _ (h.read_lt hmem)
  · intro start
    rw [History.scans_append, History.scans_singleton, hscan]
    simpa using fun hmem => Nat.lt_irrefl _ (h.scan_lt hmem)

theorem step_begin (h : Consistent run past) (hfits : run.begun + 1 < UInt64.size) :
    Consistent (run.step .begin).2 (past ++ [⟨.begin, (run.step .begin).1, .empty⟩]) := by
  obtain ⟨active, hactive, hstep⟩ := h.step_begin_eq
  rw [hstep]
  refine ⟨hfits, ?_, ?_, ?_, ?_, ?_⟩
  · rw [History.beginnings_append, h.numbered, List.range_succ, List.map_append]
    rfl
  · intro event hevent actor hactor
    rcases List.mem_append.mp hevent with hmem | hmem
    · exact Nat.lt_succ_of_lt (h.actors event hmem actor hactor)
    · rw [List.mem_singleton.mp hmem] at hactor
      cases hactor
  · simpa [Event.commit?] using h.ascending
  · apply h.holds.concat_begin rfl rfl (by simp [h.numbered])
    intro hfinished
    exact Nat.lt_irrefl _ (h.finished_lt hfinished)
  · intro number txn hopen
    simp only [OrderedMap.get?_insert] at hopen
    split at hopen
    · rename_i hnumber
      subst hnumber
      cases hopen
      exact h.follows_begin hfits hactive rfl rfl rfl rfl
    · have hfollows := h.follows number txn hopen
      refine hfollows.concat rfl (by simp [Event.finish?]) (by simp [Event.commit?]) ?_
        (by simp [Event.read?]) (by simp [Event.scan?])
      intro other hbegins
      simp only [Event.begins, Event.beginning?, Option.map_some, beq_iff_eq,
        Option.some.injEq] at hbegins
      rw [← hbegins]
      exact hfollows.unseen_of_lt (h.begun_iff.mp hfollows.begun) hfits

/-! ## Any steps -/

/-- Reading, buffering and checkpoints leave the store alone. -/
theorem step_open (h : Consistent run past) (hopen : run.transactions.get? number = some txn)
    {step : Run.Step} (hactor : step.actor? = some number) :
    Consistent (run.step step).2 (past ++ [⟨step, (run.step step).1, txn.writes⟩]) := by
  -- Checkpoints, and restoring one that is missing, leave all transactions as they are.
  have hsame : ∀ other, run.transactions.get? other =
      if other = number then some txn else run.transactions.get? other := by
    grind
  cases step with
  | begin => cases hactor
  | get own key =>
      cases hactor
      simp only [Run.step, Run.withOpen, hopen]
      refine h.act_quiet hopen rfl rfl (run.get?_update number · _) rfl rfl ?_
      rintro _ ⟨⟩
      simp only [Transaction.get, Transaction.noteRead, Event.read?, Event.scan?]
      split <;> simp [@eq_comm _ key, or_comm]
  | scanPrefix own start =>
      cases hactor
      simp only [Run.step, Run.withOpen, hopen]
      refine h.act_quiet hopen rfl rfl (run.get?_update number · _) rfl rfl ?_
      rintro _ ⟨⟩
      simp [Transaction.scanPrefix, Transaction.notePrefix, Event.read?, Event.scan?,
        @eq_comm _ start, or_comm]
  | set own key value =>
      cases hactor
      simp only [Run.step, Run.withOpen, hopen]
      refine h.act_quiet hopen rfl rfl (run.get?_update number · _) rfl rfl ?_
      rintro _ ⟨⟩
      simp [Transaction.set, Event.read?, Event.scan?]
  | delete own key =>
      cases hactor
      simp only [Run.step, Run.withOpen, hopen]
      refine h.act_quiet hopen rfl rfl (run.get?_update number · _) rfl rfl ?_
      rintro _ ⟨⟩
      simp [Transaction.delete, Event.read?, Event.scan?]
  | checkpoint own =>
      cases hactor
      simp only [Run.step, Run.withOpen, hopen]
      refine h.act_quiet hopen rfl rfl hsame rfl rfl ?_
      rintro _ ⟨⟩
      simp [Event.read?, Event.scan?]
  | restore own checkpoint =>
      cases hactor
      simp only [Run.step, Run.withOpen, hopen]
      split
      · refine h.act_quiet hopen rfl rfl (run.get?_update number · _) rfl rfl ?_
        rintro _ ⟨⟩
        simp [Transaction.restore, Event.read?, Event.scan?]
      · apply h.act_quiet hopen rfl rfl hsame rfl rfl
        rintro _ ⟨⟩
        simp [Event.read?, Event.scan?]
  | commit own =>
      cases hactor
      exact h.step_commit hopen
  | rollback own =>
      cases hactor
      exact h.step_rollback hopen
  | drop own =>
      cases hactor
      simp only [Run.step, Run.withOpen, hopen]
      exact h.act_quiet hopen rfl rfl (run.get?_close number) rfl rfl (by simp)

/-- Every step keeps the invariant. -/
theorem step (h : Consistent run past) (step : Run.Step) (hfits : run.begun + 1 < UInt64.size) :
    Consistent (run.step step).2 (past ++ (run.event? step).toList) :=
  Run.step_cases step h (fun _ => h.step_begin hfits) fun _ _ hactor hopen =>
    h.step_open hopen hactor

/-- The number of transactions is the number of beginnings, all of which succeed. -/
theorem begun_step (h : Consistent run past) (step : Run.Step) :
    (run.step step).2.begun = run.begun + [step].count .begin := by
  cases hactor : step.actor? with
  | none =>
      rw [Run.Step.actor?_eq_none_iff] at hactor
      subst hactor
      obtain ⟨active, _, hstep⟩ := h.step_begin_eq
      rw [hstep]
      rfl
  | some number =>
      have hne : step ≠ .begin := by
        rintro rfl
        cases hactor
      rw [(run.step_of_actor? hactor).1, List.count_singleton, if_neg (by simpa using hne)]
      rfl

/-- What is kept by beginnings and by the steps of open transactions is kept by any steps in any
order, as is the invariant itself. -/
theorem after (h : Consistent run past) {motive : Run → History → Prop} {script : List Run.Step}
    (hfits : run.begun + script.count .begin + 1 < UInt64.size) (hmotive : motive run past)
    (hbegin : ∀ run past, Consistent run past → run.begun + 1 < UInt64.size → motive run past →
      motive (run.step .begin).2 (past ++ [⟨.begin, (run.step .begin).1, .empty⟩]))
    (hopen : ∀ run past, Consistent run past → motive run past → ∀ step ∈ script,
      ∀ number txn, step.actor? = some number → run.transactions.get? number = some txn →
        motive (run.step step).2 (past ++ [⟨step, (run.step step).1, txn.writes⟩])) :
    Consistent (run.after script) (past ++ run.history script) ∧
      (run.after script).begun = run.begun + script.count .begin ∧
      motive (run.after script) (past ++ run.history script) := by
  induction script generalizing run past with
  | nil => simpa [Run.after, Run.steps, Run.history] using ⟨h, hmotive⟩
  | cons step script ih =>
      have hcount : (step :: script).count .begin = [step].count .begin + script.count .begin := by
        rw [← List.count_append]
        rfl
      have hbegun := h.begun_step step
      have hstep : motive (run.step step).2 (past ++ (run.event? step).toList) :=
        Run.step_cases step hmotive (fun _ => hbegin run past h (by omega) hmotive)
          (hopen run past h hmotive step List.mem_cons_self)
      have hrest := ih (h.step step (by omega)) (by omega) hstep
        fun run past h hmotive step hmem =>
          hopen run past h hmotive step (List.mem_cons_of_mem _ hmem)
      rw [List.append_assoc, hbegun] at hrest
      rw [hcount, ← Nat.add_assoc]
      exact hrest

end Consistent

theorem begun_initial_add {script : List Run.Step} (hfits : Run.CounterFits script) :
    Run.initial.begun + script.count .begin + 1 < UInt64.size := by
  simpa [Run.initial, Run.CounterFits] using hfits

/-- After any script the run is what its history says. -/
theorem consistent_reached {script : List Run.Step} (hfits : Run.CounterFits script) :
    Consistent (Run.reached script) (Run.past script) ∧
      (Run.reached script).begun = script.count .begin := by
  have hafter := consistent_initial.after (motive := fun _ _ => True) (begun_initial_add hfits)
    trivial (fun _ _ _ _ _ => trivial) fun _ _ _ _ _ _ _ _ _ _ => trivial
  simpa [Run.reached, Run.past, Run.initial] using hafter

/-- What holds at first and is kept by beginnings and by the steps of open transactions holds after
a script. -/
theorem reached_induction {motive : Run → History → Prop} {script : List Run.Step}
    (hfits : Run.CounterFits script) (hinitial : motive .initial [])
    (hbegin : ∀ run past, Consistent run past → run.begun + 1 < UInt64.size → motive run past →
      motive (run.step .begin).2 (past ++ [⟨.begin, (run.step .begin).1, .empty⟩]))
    (hopen : ∀ run past, Consistent run past → motive run past → ∀ step ∈ script,
      ∀ number txn, step.actor? = some number → run.transactions.get? number = some txn →
        motive (run.step step).2 (past ++ [⟨step, (run.step step).1, txn.writes⟩])) :
    motive (Run.reached script) (Run.past script) :=
  (consistent_initial.after (begun_initial_add hfits) hinitial hbegin hopen).2.2

end Transact.Mvcc
