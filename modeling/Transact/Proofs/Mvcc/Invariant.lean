/-
# The invariant of a run

After any steps in any order, the store holds what the history says: a counter,
a marker for each active transaction, and one version for each key that a
commit wrote. Of two commits that wrote a key the later one has the higher
number, although numbers are given at the beginning and not at the commit; this
is what checking the written keys at each commit buys.

An open transaction sees the versions of exactly those commits that came before
its beginning. Of the others, some have a higher number and the rest were active
when it began. Both kinds stay unseen, since whoever is active now is unseen too.
-/

import Transact.Proofs.Mvcc.Effect
import Transact.Proofs.Mvcc.History
import Transact.Proofs.Mvcc.Validation

namespace Transact.Mvcc

/-! ## Version numbers -/

theorem toNat_versionOf {number : Nat} (h : number + 1 < UInt64.size) :
    (versionOf number).toNat = number + 1 :=
  UInt64.toNat_ofNat_of_lt' h

theorem versionOf_inj {first second : Nat} (hfirst : first + 1 < UInt64.size)
    (hsecond : second + 1 < UInt64.size) : versionOf first = versionOf second ↔ first = second := by
  rw [← UInt64.toNat_inj, toNat_versionOf hfirst, toNat_versionOf hsecond]
  omega

theorem versionOf_le_iff {first second : Nat} (hfirst : first + 1 < UInt64.size)
    (hsecond : second + 1 < UInt64.size) : versionOf first ≤ versionOf second ↔ first ≤ second := by
  rw [UInt64.le_iff_toNat_le, toNat_versionOf hfirst, toNat_versionOf hsecond]
  omega

theorem versionOf_succ (number : Nat) : versionOf number + 1 = versionOf (number + 1) := by
  simp [versionOf, UInt64.ofNat_add]

/-! ## The parts of the invariant -/

/-- What a store holds after a history. -/
structure Holds (store : Store) (past : History) : Prop where
  /-- Every entry belongs to a key. -/
  keyed : ∀ entry ∈ store.entries, ∃ key : Key, entry.1 = key.encode
  /-- The counter names the next version, once a transaction has begun. -/
  counter : store.get? Key.nextVersion.encode =
    if past.beginnings = [] then none
    else some (encodeCounter (versionOf past.beginnings.length))
  /-- There is an empty marker for each active transaction. -/
  marker : ∀ version stored, store.get? (Key.active version).encode = some stored ↔
    stored = [] ∧ ∃ number, past.Active number ∧ version = versionOf number
  /-- There is a version for each key that a commit wrote. -/
  version : ∀ key version stored, store.get? (Key.version key version).encode = some stored ↔
    ∃ commit ∈ past.commits, ∃ write, version = versionOf commit.1 ∧
      commit.2.get? key = some write ∧ stored = encodeVersion write

/-- An open transaction has noted what it read, and it sees the commits before its beginning
and none that has come since or can still come. -/
structure Follows (past : History) (number : Nat) (txn : Transaction) : Prop where
  begun : number ∈ past.beginnings.map Prod.fst
  running : number ∉ past.finished
  version : txn.version = versionOf number
  earlier : ∀ commit ∈ (past.before number).commits,
    commit.1 < number ∧ txn.snapshot.sees (versionOf commit.1) = true
  later : ∀ commit ∈ (past.since number).commits,
    txn.snapshot.sees (versionOf commit.1) = false
  concurrent : ∀ other, past.Active other → other ≠ number →
    txn.snapshot.sees (versionOf other) = false
  reads : ∀ key, txn.reads.contains key = true ↔ (number, key) ∈ past.reads
  scans : ∀ start, txn.prefixes.contains start = true ↔ (number, start) ∈ past.scans

/-- What holds of a run and its history after any steps. -/
structure Consistent (run : Run) (past : History) : Prop where
  fits : run.begun < UInt64.size
  numbered : past.beginnings = (List.range run.begun).map fun number => (number, versionOf number)
  actors : ∀ event ∈ past, ∀ number, event.step.actor? = some number → number < run.begun
  /-- Commits of one key come in the order of their numbers. -/
  ascending : past.commits.Pairwise fun first second => ∀ key,
    first.2.contains key = true → second.2.contains key = true → first.1 < second.1
  holds : Holds run.store past
  follows : ∀ number txn, run.transactions.get? number = some txn → Follows past number txn

theorem consistent_initial : Consistent .initial [] where
  fits := by decide
  numbered := rfl
  actors := by simp
  ascending := .nil
  holds := {
    keyed := by simp [Run.initial, OrderedMap.empty]
    counter := rfl
    marker := by simp [Run.initial, History.Active, History.beginnings]
    version := by simp [Run.initial, History.commits] }
  follows := by simp [Run.initial]

namespace Consistent

variable {run : Run} {past : History}

theorem begun_iff (h : Consistent run past) {number : Nat} :
    number ∈ past.beginnings.map Prod.fst ↔ number < run.begun := by
  simp [h.numbered]

/-- The next number is that of no transaction. -/
theorem begun_notMem (h : Consistent run past) : run.begun ∉ past.beginnings.map Prod.fst := by
  rw [h.begun_iff]
  exact Nat.lt_irrefl _

theorem finished_lt (h : Consistent run past) {number : Nat} (hfinished : number ∈ past.finished) :
    number < run.begun := by
  obtain ⟨event, hevent, hfinish⟩ := List.mem_filterMap.mp hfinished
  exact h.actors event hevent number (Event.actor?_of_finish? hfinish)

theorem commit_lt (h : Consistent run past) {commit : Nat × Writes}
    (hcommit : commit ∈ past.commits) : commit.1 < run.begun :=
  h.finished_lt (History.finished_of_mem_commits hcommit)

/-- An open transaction has not committed. -/
theorem ne_of_mem_commits (h : Consistent run past) {number : Nat} {txn : Transaction}
    (hopen : run.transactions.get? number = some txn) {commit : Nat × Writes}
    (hcommit : commit ∈ past.commits) : commit.1 ≠ number := by
  rintro rfl
  exact (h.follows commit.1 txn hopen).running (History.finished_of_mem_commits hcommit)

theorem read_lt (h : Consistent run past) {read : Nat × Bytes} (hread : read ∈ past.reads) :
    read.1 < run.begun := by
  obtain ⟨event, hevent, hevent'⟩ := List.mem_filterMap.mp hread
  exact h.actors event hevent read.1 (Event.actor?_of_read? hevent')

theorem scan_lt (h : Consistent run past) {scan : Nat × Bytes} (hscan : scan ∈ past.scans) :
    scan.1 < run.begun := by
  obtain ⟨event, hevent, hevent'⟩ := List.mem_filterMap.mp hscan
  exact h.actors event hevent scan.1 (Event.actor?_of_scan? hevent')

theorem active_lt (h : Consistent run past) {number : Nat} (hactive : past.Active number) :
    number < run.begun :=
  h.begun_iff.mp hactive.1

end Consistent

/-! ## What a step does to the parts -/

namespace Holds

variable {store : Store} {past : History} {event : Event}

/-- Entries set under the key of an entry belong to keys. -/
theorem keyed_insert (h : ∀ entry ∈ store.entries, ∃ key : Key, entry.1 = key.encode) (own : Key)
    (value : Bytes) : ∀ entry ∈ (store.insert own.encode value).entries,
      ∃ key : Key, entry.1 = key.encode := by
  rintro ⟨encoded, stored⟩ hentry
  rw [← OrderedMap.get?_eq_some_iff, OrderedMap.get?_insert] at hentry
  by_cases hown : encoded = own.encode
  · exact ⟨own, hown⟩
  · rw [if_neg hown, OrderedMap.get?_eq_some_iff] at hentry
    exact h _ hentry

/-- Applying writes adds keys of versions. -/
theorem keyed_apply (h : ∀ entry ∈ store.entries, ∃ key : Key, entry.1 = key.encode)
    (txn : Transaction) : ∀ entry ∈ (txn.apply store).entries,
      ∃ key : Key, entry.1 = key.encode := by
  unfold Transaction.apply
  generalize txn.writes.entries = writes
  induction writes generalizing store with
  | nil => exact h
  | cons write writes ih => exact ih (keyed_insert h _ _)

theorem versionsKeyed (h : Holds store past) : VersionsKeyed store := by
  intro entry hentry hfamily
  obtain ⟨key, hkey⟩ := h.keyed entry hentry
  cases key with
  | nextVersion => simp [hkey, Key.encode] at hfamily
  | active version => simp [hkey, Key.encode] at hfamily
  | version key version => exact ⟨key, version, hkey⟩

/-- Of the keys, those that begin as markers do are markers. -/
theorem keyed_markers (h : ∀ entry ∈ store.entries, ∃ key : Key, entry.1 = key.encode) :
    Transaction.MarkersKeyed store := by
  intro entry hentry hfamily
  obtain ⟨key, hkey⟩ := h entry hentry
  rw [hkey, active_prefix_encode_iff] at hfamily
  obtain ⟨version, rfl⟩ := hfamily
  exact ⟨version, hkey⟩

theorem markersKeyed (h : Holds store past) : Transaction.MarkersKeyed store :=
  keyed_markers h.keyed

/-- An event that begins and finishes nothing leaves what the store has to hold. -/
theorem concat_quiet (h : Holds store past) (hbeginning : event.beginning? = none)
    (hfinish : event.finish? = none) : Holds store (past ++ [event]) where
  keyed := h.keyed
  counter := by simpa [hbeginning] using h.counter
  marker := by
    have hactive : ∀ number, (past ++ [event]).Active number ↔ past.Active number := by
      intro number
      rw [History.active_concat_iff, History.Active]
      simp [Event.begins, hbeginning, hfinish]
    simpa only [hactive] using h.marker
  version := by simpa [Event.commit?_of_finish? hfinish] using h.version

/-- A beginning sets the counter and adds a marker. -/
theorem concat_begin (h : Holds store past) {number : Nat}
    (hbeginning : event.beginning? = some (number, versionOf number))
    (hfinish : event.finish? = none) (hnumber : number = past.beginnings.length)
    (hfresh : number ∉ past.finished) :
    Holds ((store.insert Key.nextVersion.encode (encodeCounter (versionOf number + 1))).insert
      (Key.active (versionOf number)).encode []) (past ++ [event]) where
  keyed := keyed_insert (keyed_insert h.keyed _ _) _ _
  counter := by
    have hcounter : (past ++ [event]).beginnings.length = number + 1 := by
      simp [hbeginning, hnumber]
    have hsome : (past ++ [event]).beginnings ≠ [] := by
      simp [hbeginning]
    rw [if_neg hsome, hcounter, ← versionOf_succ]
    simp
  marker := by
    intro version stored
    have hactive : ∀ other,
        (past ++ [event]).Active other ↔ past.Active other ∨ other = number := by
      intro other
      rw [History.active_concat_iff, History.Active]
      simp only [Event.begins, hbeginning, hfinish, Option.map_some, beq_iff_eq, Option.some.injEq]
      grind
    by_cases hversion : version = versionOf number
    · simp only [hversion, OrderedMap.get?_insert, if_true, Option.some.injEq, hactive]
      grind
    · simp only [OrderedMap.get?_insert, Key.encode_inj, Key.active.injEq, hversion, if_false,
        reduceCtorEq, h.marker, hactive]
      grind
  version := by simpa [Event.commit?_of_finish? hfinish] using h.version

/-- Finishing removes a marker; what else the store holds was there before. -/
theorem concat_finish (h : Holds store past) {txn : Transaction} {number : Nat}
    (hbeginning : event.beginning? = none) (hfinish : event.finish? = some number)
    (hversion : txn.version = versionOf number)
    (hinj : ∀ other, past.Active other → versionOf other = versionOf number → other = number)
    {applied : Store} (hkeyed : ∀ entry ∈ applied.entries, ∃ key : Key, entry.1 = key.encode)
    (hcounter : applied.get? Key.nextVersion.encode = store.get? Key.nextVersion.encode)
    (hmarker : ∀ version, applied.get? (Key.active version).encode =
      store.get? (Key.active version).encode)
    (happlied : ∀ key version stored,
      applied.get? (Key.version key version).encode = some stored ↔
        ∃ commit ∈ (past ++ [event]).commits, ∃ write, version = versionOf commit.1 ∧
          commit.2.get? key = some write ∧ stored = encodeVersion write) :
    Holds (txn.release applied) (past ++ [event]) where
  keyed := by
    rintro ⟨encoded, stored⟩ hentry
    rw [← OrderedMap.get?_eq_some_iff, Transaction.get?_release] at hentry
    split at hentry
    · cases hentry
    · exact hkeyed _ (OrderedMap.get?_eq_some_iff.mp hentry)
  counter := by
    rw [Transaction.get?_release, if_neg (by simp), hcounter]
    simpa [hbeginning] using h.counter
  marker := by
    intro version stored
    have hactive : ∀ other,
        (past ++ [event]).Active other ↔ past.Active other ∧ other ≠ number := by
      intro other
      rw [History.active_concat_iff, History.Active]
      simp only [Event.begins, hbeginning, hfinish]
      grind
    simp only [Transaction.get?_release, Key.encode_inj, Key.active.injEq, hversion, hmarker]
    by_cases hown : version = versionOf number
    · simp only [hown, if_true, hactive, reduceCtorEq, false_iff, not_and, not_exists]
      rintro _ other ⟨hother, hne⟩ heq
      exact hne (hinj other hother heq.symm)
    · simp only [hown, if_false, h.marker, hactive]
      grind
  version := by
    intro key version stored
    rw [Transaction.get?_release, if_neg (by simp), happlied]

end Holds

namespace Follows

variable {past : History} {number : Nat} {txn : Transaction}

/-- An open transaction still follows the history when something else happens, if whoever
commits or begins is not seen. -/
theorem concat (h : Follows past number txn) {event : Event} {next : Transaction}
    (hsnapshot : next.snapshot = txn.snapshot) (hfinish : event.finish? ≠ some number)
    (hcommit : ∀ commit, event.commit? = some commit →
      txn.snapshot.sees (versionOf commit.1) = false)
    (hbegins : ∀ other, event.begins other = true →
      txn.snapshot.sees (versionOf other) = false)
    (hreads : ∀ key, next.reads.contains key = true ↔
      txn.reads.contains key = true ∨ event.read? = some (number, key))
    (hscans : ∀ start, next.prefixes.contains start = true ↔
      txn.prefixes.contains start = true ∨ event.scan? = some (number, start)) :
    Follows (past ++ [event]) number next where
  begun := by
    rw [History.beginnings_append, List.map_append, List.mem_append]
    exact .inl h.begun
  running := by
    rw [History.finished_append, History.finished_singleton, List.mem_append, not_or]
    exact ⟨h.running, by simpa using hfinish⟩
  version := by
    rw [Transaction.version, hsnapshot]
    exact h.version
  earlier := by
    rw [History.before_append h.begun, hsnapshot]
    exact h.earlier
  later := by
    intro commit hmem
    rw [History.since_append h.begun] at hmem
    rw [hsnapshot]
    rcases History.mem_commits_concat_iff.mp hmem with hmem | hmem
    · exact h.later commit hmem
    · exact hcommit commit hmem
  concurrent := by
    intro other hactive hne
    rw [History.active_concat_iff] at hactive
    obtain ⟨hbegun, hrunning, _⟩ := hactive
    rw [hsnapshot]
    rcases hbegun with hbegun | hbegun
    · exact h.concurrent other ⟨hbegun, hrunning⟩ hne
    · exact hbegins other hbegun
  reads := by
    intro key
    rw [hreads, h.reads]
    simp
  scans := by
    intro start
    rw [hscans, h.scans]
    simp

/-- A transaction does not see one that begins after it. -/
theorem unseen_of_lt (h : Follows past number txn) {other : Nat} (hlt : number < other)
    (hother : other + 1 < UInt64.size) : txn.snapshot.sees (versionOf other) = false := by
  rw [Bool.eq_false_iff]
  intro hsees
  have hle := le_of_sees hsees
  rw [show txn.snapshot.version = versionOf number from h.version,
    versionOf_le_iff hother (by omega)] at hle
  omega

/-- A commit is seen exactly if it came before the beginning. -/
theorem sees_iff (h : Follows past number txn) {commit : Nat × Writes}
    (hcommit : commit ∈ past.commits) :
    txn.snapshot.sees (versionOf commit.1) = true ↔ commit ∉ (past.since number).commits := by
  constructor
  · intro hsees hlater
    rw [h.later commit hlater] at hsees
    cases hsees
  · intro hlater
    rw [History.commits_eq_before_append_since past number, List.mem_append] at hcommit
    exact (h.earlier commit (hcommit.resolve_right hlater)).2

end Follows

end Transact.Mvcc
