/-
# Serializability

The committed transactions, taken in the order of their commits and replayed one
after the other on a plain table, read what they read in the run. Two facts meet
here. What a transaction read is what it reads alone on any table that agrees,
on the keys that it depends on, with the commits before its beginning. And the
commits that came between its beginning and its own commit wrote none of these
keys, so the table that the replay has reached is such a table.

The buffer of a transaction depends on its own steps alone, as long as it goes
back to its own checkpoints.
-/

import Transact.Proofs.Mvcc.Recorded

namespace Transact.Mvcc

/-! ## Commits between a beginning and its commit -/

/-- Whatever was committed before a commit came before its beginning, or wrote nothing that it
depends on. -/
def History.Undisturbed (past : History) : Prop :=
  ∀ front commit back, past.commits = front ++ commit :: back →
    ∃ later, front = (past.before commit.1).commits ++ later ∧
      ∀ other ∈ later, ∀ key, past.DependsOn commit.1 key → other.2.contains key = false

namespace Consistent

variable {run : Run} {past : History} {number : Nat} {txn : Transaction}

theorem before_concat_commit (h : Consistent run past) {commit : Nat × Writes}
    (hcommit : commit ∈ past.commits) (event : Event) :
    History.before (past ++ [event]) commit.1 = past.before commit.1 :=
  History.before_append (h.begun_iff.mpr (h.commit_lt hcommit)) [event]

/-- An event that is no step of a committed transaction and no commit disturbs nobody. -/
theorem undisturbed_concat (h : Consistent run past) (hpast : past.Undisturbed) {event : Event}
    (hactor : ∀ commit ∈ past.commits, event.step.actor? ≠ some commit.1)
    (hcommit : ∀ commit, event.commit? = some commit → ¬ past.Conflict commit.1 commit.2 ∧
      commit.1 ∈ past.beginnings.map Prod.fst ∧ ∀ other ∈ past.commits, other.1 ≠ commit.1) :
    History.Undisturbed (past ++ [event]) := by
  have hold : ∀ front commit back, past.commits = front ++ commit :: back →
      ∃ later, front = (History.before (past ++ [event]) commit.1).commits ++ later ∧
        ∀ other ∈ later, ∀ key, History.DependsOn (past ++ [event]) commit.1 key →
          other.2.contains key = false := by
    intro front commit back hsplit
    have hmem : commit ∈ past.commits := by
      rw [hsplit]
      exact List.mem_append_right _ List.mem_cons_self
    rw [h.before_concat_commit hmem]
    simp only [History.dependsOn_concat_iff_of_ne (hactor commit hmem)]
    exact hpast front commit back hsplit
  intro front commit back hsplit
  -- The event adds at most one split, the one at its own commit.
  rw [History.commits_append, History.commits_singleton] at hsplit
  cases hevent : event.commit? with
  | none =>
      rw [hevent, Option.toList_none, List.append_nil] at hsplit
      exact hold front commit back hsplit
  | some last =>
      rw [hevent, Option.toList_some] at hsplit
      rcases List.eq_nil_or_concat back with rfl | ⟨back, newest, rfl⟩
      · obtain ⟨rfl, hlast⟩ := List.append_inj' hsplit rfl
        obtain ⟨hnone, hbegun, hothers⟩ := hcommit last hevent
        cases hlast
        refine ⟨(past.since commit.1).commits, ?_, fun other hother key hdepends => ?_⟩
        · rw [History.before_append hbegun, ← History.commits_eq_before_append_since]
        · rw [Bool.eq_false_iff]
          intro hkey
          have hown : event.step = .commit commit.1 := (Event.commit?_eq_some_iff.mp hevent).1
          have hbefore : past.DependsOn commit.1 key := by
            rw [History.dependsOn_concat_iff] at hdepends
            simpa [Event.read?, Event.scan?, hown] using hdepends
          exact hnone ⟨other, hother, hothers other (History.mem_commits_of_mem_since hother), key,
            hkey, .inl hbefore⟩
      · rw [List.concat_eq_append, ← List.cons_append, ← List.append_assoc] at hsplit
        exact hold front commit back (List.append_inj' hsplit rfl).1

end Consistent

theorem undisturbed_past {script : List Run.Step} (hfits : Run.CounterFits script) :
    (Run.past script).Undisturbed := by
  refine reached_induction (motive := fun _ past => past.Undisturbed) hfits ?_ ?_ ?_
  · intro front commit back hsplit
    cases front <;> cases hsplit
  · intro run past h _ hpast
    exact h.undisturbed_concat hpast (by simp [Run.Step.actor?]) (by simp [Event.commit?])
  · intro run past h hpast step _ number txn hactor hopen
    refine h.undisturbed_concat hpast (fun commit hcommit heq => ?_) fun commit hcommit => ?_
    · rw [hactor] at heq
      exact h.ne_of_mem_commits hopen hcommit (Option.some.inj heq).symm
    · obtain ⟨hstep, ⟨answer, hanswer⟩, hbuffer⟩ := Event.commit?_eq_some_iff.mp hcommit
      simp only at hstep hanswer hbuffer
      subst hstep
      cases hactor
      refine ⟨?_, (h.follows _ txn hopen).begun, fun other => h.ne_of_mem_commits hopen⟩
      rw [← hbuffer]
      rcases h.step_commit_eq hopen with ⟨hnone, _⟩ | ⟨_, hconflict⟩
      · exact hnone
      · rw [hconflict] at hanswer
        cases hanswer

/-! ## The replay -/

theorem filterMap_get?_eq_nil {commits : List (Nat × Writes)} {key : Bytes}
    (h : ∀ commit ∈ commits, commit.2.contains key = false) :
    (commits.filterMap fun commit => commit.2.get? key) = [] := by
  apply List.filterMap_eq_nil_iff.mpr
  intro commit hcommit
  have hkey := h commit hcommit
  rwa [OrderedMap.contains, Option.isSome_eq_false_iff, Option.isNone_iff_eq_none] at hkey

/-- When the replay comes to a transaction, its table agrees with what was committed before the
beginning, on all keys that the transaction depends on. -/
theorem History.Undisturbed.get?_tableOf {past : History} (h : past.Undisturbed)
    {front back : List (Nat × Writes)} {commit : Nat × Writes}
    (hsplit : past.commits = front ++ commit :: back) {key : Bytes}
    (hdepends : past.DependsOn commit.1 key) :
    (tableOf front).get? key = (past.before commit.1).value key := by
  obtain ⟨later, hfront, hlater⟩ := h front commit back hsplit
  have hnone := filterMap_get?_eq_nil fun other hother => hlater other hother key hdepends
  rw [Mvcc.get?_tableOf, hfront, List.filterMap_append, hnone, List.append_nil, History.value]

/-- From any point of the commits on, the replay answers what the run answered. -/
theorem Recorded.serial_eq {run : Run} {past : History} (hrecorded : Recorded run past)
    (h : Consistent run past) (hpast : past.Undisturbed) {front back : List (Nat × Writes)}
    (hsplit : past.commits = front ++ back) :
    (serial (tableOf front) (back.map fun commit => past.program commit.1)).1.map (List.map .ok) =
        back.map (fun commit => past.answers commit.1) ∧
      (serial (tableOf front) (back.map fun commit => past.program commit.1)).2 =
        tableOf past.commits := by
  induction back generalizing front with
  | nil => simp [serial, hsplit]
  | cons commit back ih =>
      have hmem : commit ∈ past.commits := by
        rw [hsplit]
        exact List.mem_append_right _ List.mem_cons_self
      have htable : overlay (tableOf front) (Replay.initial.after (past.program commit.1)).writes =
          tableOf (front ++ [commit]) := by
        rw [tableOf_concat, ← hrecorded.commits commit hmem, History.replayed]
      have hanswers := hrecorded.answers commit.1 (h.commit_lt hmem) (tableOf front)
        fun key hdepends => hpast.get?_tableOf hsplit hdepends
      have hnext : past.commits = (front ++ [commit]) ++ back := by
        rw [hsplit, List.append_assoc, List.singleton_append]
      obtain ⟨hrest, hfinal⟩ := ih hnext
      simp only [List.map_cons, serial, htable]
      exact ⟨by rw [hrest, hanswers], hfinal⟩

/-- A transaction that begins now finds the table that the commits leave behind. -/
theorem Consistent.begin_sees_table {run : Run} {past : History} (h : Consistent run past)
    (hreadable : HoldsReadable run past) (hfits : run.begun + 1 < UInt64.size) :
    ∃ next, run.step .begin = (.ok (.begun run.begun (versionOf run.begun)), next) ∧
      (∀ key, (next.step (.get run.begun key)).1 =
        .ok (.value ((tableOf past.commits).get? key))) ∧
      ∀ start, (next.step (.scanPrefix run.begun start)).1 =
        .ok (.entries ((tableOf past.commits).entries.filter fun entry =>
          start.isPrefixOf entry.1)) := by
  obtain ⟨active, _, hstep⟩ := h.step_begin_eq
  have hnext := h.step_begin hfits
  have hnextreadable := hreadable.step_begin h
  rw [hstep] at hnext hnextreadable
  have hopen := OrderedMap.get?_insert run.transactions run.begun run.begun
    ⟨⟨versionOf run.begun, active⟩, .empty, .empty, .empty⟩
  rw [if_pos rfl] at hopen
  have hfound : ∀ answer key, History.found
      (past ++ [⟨.begin, .ok (.begun run.begun answer), .empty⟩]) run.begun .empty key =
        (tableOf past.commits).get? key := by
    intro answer key
    have hbegins : (Event.mk .begin (.ok (.begun run.begun answer)) .empty).begins run.begun =
        true := by
      simp [Event.begins, Event.beginning?]
    rw [History.found, History.before_concat h.begun_notMem hbegins, get?_tableOf]
    rfl
  refine ⟨_, hstep, fun key => ?_, fun start => ?_⟩
  · rw [hnext.step_get_eq hnextreadable hopen, hfound]
  · obtain ⟨entries, hanswer, hsorted, hmem⟩ :=
      hnext.step_scanPrefix_eq hnextreadable hopen start
    rw [hanswer]
    congr 2
    apply OrderedMap.eq_of_mem_iff hsorted ((tableOf past.commits).sorted.filter _)
    rintro ⟨key, value⟩
    rw [hmem, hfound, List.mem_filter, ← OrderedMap.get?_eq_some_iff, List.isPrefixOf_iff_prefix,
      and_comm]

namespace Run

/-- Replaying the committed transactions whole, in the order of their commits, gives every read the
answer that it had in the run, and leaves the table that the next transaction sees. -/
theorem serializable {script : List Step} (hfits : CounterFits script)
    (hvalues : ValuesFit script) (hown : (past script).OwnCheckpoints) :
    let number := script.count .begin
    let replayed :=
      serial .empty ((past script).commits.map fun commit => (past script).program commit.1)
    replayed.1.map (List.map .ok) =
        (past script).commits.map (fun commit => (past script).answers commit.1) ∧
      ∃ next, (reached script).step .begin = (.ok (.begun number (versionOf number)), next) ∧
        (∀ key, (next.step (.get number key)).1 = .ok (.value (replayed.2.get? key))) ∧
        ∀ start, (next.step (.scanPrefix number start)).1 =
          .ok (.entries (replayed.2.entries.filter fun entry => start.isPrefixOf entry.1)) := by
  intro number replayed
  obtain ⟨h, hbegun⟩ := consistent_reached hfits
  have hreadable := holdsReadable_reached hfits hvalues
  have hrecorded := recorded_reached hfits hvalues hown
  have hwhole : (past script).commits = [] ++ (past script).commits := rfl
  obtain ⟨hanswers, hfinal⟩ := hrecorded.serial_eq h (undisturbed_past hfits) hwhole
  obtain ⟨next, hstep, hsees⟩ := h.begin_sees_table hreadable (by rw [hbegun]; exact hfits)
  rw [hbegun, ← hfinal] at hsees
  rw [hbegun] at hstep
  exact ⟨hanswers, next, hstep, hsees⟩

/-- The second transaction commits first; the first one goes back to a checkpoint and has read a key
that nobody writes; the third one scans what both have left. -/
theorem serializable_restored :
    let script : List Step := [.begin, .begin, .set 1 [97] [1], .get 0 [98], .checkpoint 0,
      .set 0 [98] [2], .restore 0 0, .set 0 [99] [3], .commit 1, .commit 0, .begin,
      .scanPrefix 2 [], .commit 2]
    CounterFits script ∧ ValuesFit script ∧ (past script).OwnCheckpoints ∧
      (past script).commits.map Prod.fst = [1, 0, 2] ∧
      (past script).commits.map (fun commit => (past script).answers commit.1) =
        [[], [.ok (.value none)], [.ok (.entries [([97], [1]), ([99], [3])])]] := by
  intro script
  have hfits : CounterFits script := by decide
  have hvalues : ValuesFit script := by decide
  have hown : (past script).OwnCheckpoints := by decide +kernel
  have hserial :
      (serial .empty ((past script).commits.map fun commit => (past script).program commit.1)).1 =
        [[], [.value none], [.entries [([97], [1]), ([99], [3])]]] := by decide +kernel
  refine ⟨hfits, hvalues, hown, by decide +kernel, ?_⟩
  rw [← (serializable hfits hvalues hown).1, hserial]
  rfl

end Run

end Transact.Mvcc
