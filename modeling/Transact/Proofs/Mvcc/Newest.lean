/-
# The newest version is enough

Of each key that it read or is about to write, a commit looks at one version, the newest.
This could miss something: numbers are given at the beginning and not at the commit, so
the newest number need not be the last that was committed, and a transaction may see it
and not see another one.

In a run this does not happen. The versions of one key are committed in the order of
their numbers, because every commit checks the keys that it writes. So the newest version
of a key is the last that was committed, and if it was committed before a transaction
began, all of them were. Checking every version of every key would give the same answer.
-/

import Mathlib.Data.List.Basic
import Transact.Proofs.Mvcc.Snapshot

namespace Transact.Mvcc

namespace Transaction

/-- All stored versions of a key, newest first. -/
def everyVersion (store : Store) (key : Bytes) : List (Bytes × Bytes) :=
  versionsUpTo store key 0xFFFFFFFFFFFFFFFF

/-- What a commit would check if it looked at every version of its keys. -/
def thoroughFootprint (txn : Transaction) (store : Store) : List (Bytes × Bytes) :=
  txn.reads.keys.flatMap (everyVersion store) ++ txn.writes.keys.flatMap (everyVersion store)
    ++ txn.prefixes.keys.flatMap fun start => store.scanPrefix (versionPrefix start)

/-- A snapshot sees the versions among some entries. -/
def SeesAll (snapshot : Snapshot) (entries : List (Bytes × Bytes)) : Prop :=
  ∀ key version stored, ((Key.version key version).encode, stored) ∈ entries →
    snapshot.sees version = true

variable {store : Store} {snapshot : Snapshot} {txn : Transaction}

/-! ## Checking entries -/

@[simp] theorem seesAll_append {left right : List (Bytes × Bytes)} :
    SeesAll snapshot (left ++ right) ↔ SeesAll snapshot left ∧ SeesAll snapshot right := by
  simp only [SeesAll, List.mem_append, or_imp, forall_and]

@[simp] theorem seesAll_flatMap {keys : List Bytes} {entries : Bytes → List (Bytes × Bytes)} :
    SeesAll snapshot (keys.flatMap entries) ↔ ∀ key ∈ keys, SeesAll snapshot (entries key) := by
  simp only [SeesAll, List.mem_flatMap]
  constructor
  · intro hall key hkey own version stored hentry
    exact hall own version stored ⟨key, hkey, hentry⟩
  · rintro hall own version stored ⟨key, hkey, hentry⟩
    exact hall key hkey own version stored hentry

/-- Versions that are seen or not alike are checked alike. -/
theorem checkAllSeen_congr {left right : List (Bytes × Bytes)}
    (hleft : ∀ entry ∈ left, ∃ key version, entry.1 = (Key.version key version).encode)
    (hright : ∀ entry ∈ right, ∃ key version, entry.1 = (Key.version key version).encode)
    (hseen : SeesAll snapshot left ↔ SeesAll snapshot right) :
    checkAllSeen snapshot left = checkAllSeen snapshot right := by
  obtain ⟨hleftEnds, hleftOk⟩ := checkAllSeen_eq snapshot hleft
  obtain ⟨hrightEnds, hrightOk⟩ := checkAllSeen_eq snapshot hright
  have hok : checkAllSeen snapshot left = .ok () ↔ checkAllSeen snapshot right = .ok () :=
    hleftOk.trans (hseen.trans hrightOk.symm)
  rcases hrightEnds with hend | hend
  · rw [hend, hok, hend]
  · rw [hend]
    refine hleftEnds.resolve_left fun hleftEnd => ?_
    rw [hok, hend] at hleftEnd
    cases hleftEnd

/-! ## One version and all of them -/

/-- Links of one key are all seen if their numbers are. -/
@[simp] theorem seesAll_map {key : Bytes} {links : List (UInt64 × Bytes)} :
    SeesAll snapshot (links.map fun link => ((Key.version key link.1).encode, link.2)) ↔
      ∀ link ∈ links, snapshot.sees link.1 = true := by
  simp only [SeesAll, List.mem_map]
  constructor
  · intro hall link hlink
    exact hall key link.1 link.2 ⟨link, hlink, rfl⟩
  · rintro hall own version stored ⟨link, hlink, heq⟩
    simp only [Prod.mk.injEq, Key.encode_inj, Key.version.injEq] at heq
    rw [← heq.1.2]
    exact hall link hlink

theorem everyVersion_eq (h : VersionsKeyed store) (key : Bytes) :
    everyVersion store key =
      (chain store key).reverse.map fun link => ((Key.version key link.1).encode, link.2) := by
  rw [everyVersion, versionsUpTo_greatest_eq h, List.map_reverse]

theorem versions_of_mem_everyVersion (h : VersionsKeyed store) {key : Bytes}
    {entry : Bytes × Bytes} (hentry : entry ∈ everyVersion store key) :
    ∃ own version, entry.1 = (Key.version own version).encode := by
  rw [everyVersion_eq h] at hentry
  obtain ⟨link, _, rfl⟩ := List.mem_map.mp hentry
  exact ⟨key, link.1, rfl⟩

theorem seesAll_everyVersion_iff (h : VersionsKeyed store) {key : Bytes} :
    SeesAll snapshot (everyVersion store key) ↔
      ∀ link ∈ chain store key, snapshot.sees link.1 = true := by
  simp only [everyVersion_eq h, seesAll_map, List.mem_reverse]

theorem seesAll_newestVersion_iff (h : VersionsKeyed store) {key : Bytes} :
    SeesAll snapshot (newestVersion store key) ↔
      ∀ link, (chain store key).getLast? = some link → snapshot.sees link.1 = true := by
  have hnewest : newestVersion store key = (chain store key).getLast?.toList.map fun link =>
      ((Key.version key link.1).encode, link.2) := by
    rw [newestVersion_eq h]
    cases (chain store key).getLast? <;> rfl
  simp only [hnewest, seesAll_map, Option.mem_toList]

theorem newestVersion_subset (store : Store) (key : Bytes) :
    newestVersion store key ⊆ everyVersion store key :=
  List.take_subset 1 _

theorem footprint_subset (txn : Transaction) (store : Store) :
    txn.footprint store ⊆ txn.thoroughFootprint store := by
  intro entry hentry
  have hsubset := fun key => newestVersion_subset store key
  simp only [footprint, thoroughFootprint, List.mem_append, List.mem_flatMap] at hentry ⊢
  grind

/-- Checking looks at versions only, however thorough it is. -/
theorem versions_of_mem_thoroughFootprint (h : VersionsKeyed store) {entry : Bytes × Bytes}
    (hentry : entry ∈ txn.thoroughFootprint store) :
    ∃ key version, entry.1 = (Key.version key version).encode := by
  simp only [thoroughFootprint, List.mem_append, List.mem_flatMap] at hentry
  rcases hentry with (⟨key, _, hentry⟩ | ⟨key, _, hentry⟩) | ⟨start, _, hentry⟩
  · exact versions_of_mem_everyVersion h hentry
  · exact versions_of_mem_everyVersion h hentry
  · exact versions_of_mem_scanPrefix h hentry

/-- The newest of the versions may be seen while another one is not, on a store that no run leads
to. -/
example :
    let store : Store := (OrderedMap.empty.insert (Key.version [97] 2).encode
      (encodeVersion none)).insert (Key.version [97] 3).encode (encodeVersion none)
    let snapshot : Snapshot := ⟨4, OrderedMap.empty.insert 2 ()⟩
    checkAllSeen snapshot (newestVersion store [97]) = .ok () ∧
      checkAllSeen snapshot (everyVersion store [97]) = .error .conflictAborted := by
  decide +kernel

end Transaction

/-! ## Runs -/

/-- The versions of a key as they were committed, in this order. -/
def History.committed (past : History) (key : Bytes) : List (UInt64 × Bytes) :=
  (writesTo past.commits key).map fun entry => (versionOf entry.1, encodeVersion entry.2)

namespace Consistent

variable {run : Run} {past : History} {number : Nat} {txn : Transaction}

/-- The last version of a key tells whether all are seen. -/
theorem newest_seen_iff (h : Consistent run past) (hopen : run.transactions.get? number = some txn)
    (key : Bytes) :
    Transaction.SeesAll txn.snapshot (Transaction.newestVersion run.store key) ↔
      Transaction.SeesAll txn.snapshot (Transaction.everyVersion run.store key) := by
  have hkeyed := h.holds.versionsKeyed
  rw [Transaction.seesAll_newestVersion_iff hkeyed, Transaction.seesAll_everyVersion_iff hkeyed,
    h.last_link_seen_iff hopen, h.links_seen_iff hopen]

theorem checkAllSeen_newestVersion (h : Consistent run past)
    (hopen : run.transactions.get? number = some txn) (key : Bytes) :
    Transaction.checkAllSeen txn.snapshot (Transaction.newestVersion run.store key) =
      Transaction.checkAllSeen txn.snapshot (Transaction.everyVersion run.store key) := by
  have hversions : ∀ entry ∈ Transaction.everyVersion run.store key,
      ∃ key version, entry.1 = (Key.version key version).encode :=
    fun entry => Transaction.versions_of_mem_everyVersion h.holds.versionsKeyed
  apply Transaction.checkAllSeen_congr _ hversions (h.newest_seen_iff hopen key)
  exact fun entry hentry => hversions entry (Transaction.newestVersion_subset run.store key hentry)

/-- A commit answers as if it checked every version of its keys. -/
theorem validate_eq_thorough (h : Consistent run past)
    (hopen : run.transactions.get? number = some txn) :
    txn.validate run.store =
      Transaction.checkAllSeen txn.snapshot (txn.thoroughFootprint run.store) := by
  have hversions : ∀ entry ∈ txn.thoroughFootprint run.store,
      ∃ key version, entry.1 = (Key.version key version).encode :=
    fun entry => Transaction.versions_of_mem_thoroughFootprint h.holds.versionsKeyed
  apply Transaction.checkAllSeen_congr _ hversions
  · simp only [Transaction.footprint, Transaction.thoroughFootprint, Transaction.seesAll_append,
      Transaction.seesAll_flatMap, h.newest_seen_iff hopen]
  · exact fun entry hentry => hversions entry (Transaction.footprint_subset txn run.store hentry)

end Consistent

namespace Run

/-- After any script the versions of each key are those that were committed, and their numbers
ascend in the order of the commits. So a transaction that sees the newest sees them all, and a
commit answers as if it checked all versions of its keys and not the newest only. -/
theorem newest_version_decides {script : List Step} (hfits : CounterFits script) :
    (∀ key, chain (reached script).store key = (past script).committed key ∧
      ((past script).committed key).Pairwise fun first second => first.1 < second.1) ∧
    ∀ number txn, (reached script).transactions.get? number = some txn →
      (∀ key newest, (chain (reached script).store key).getLast? = some newest →
        (txn.snapshot.sees newest.1 = true ↔
          ∀ link ∈ chain (reached script).store key, txn.snapshot.sees link.1 = true)) ∧
      (∀ key, Transaction.checkAllSeen txn.snapshot
          (Transaction.newestVersion (reached script).store key) =
        Transaction.checkAllSeen txn.snapshot
          (Transaction.everyVersion (reached script).store key)) ∧
      txn.validate (reached script).store =
        Transaction.checkAllSeen txn.snapshot (txn.thoroughFootprint (reached script).store) := by
  obtain ⟨h, _⟩ := consistent_reached hfits
  constructor
  · intro key
    have hchain : chain (reached script).store key = (past script).committed key := h.chain_eq key
    exact ⟨hchain, hchain ▸ chain_sorted (reached script).store key⟩
  · intro number txn hopen
    refine ⟨fun key newest hnewest => ?_, h.checkAllSeen_newestVersion hopen,
      h.validate_eq_thorough hopen⟩
    have hseen := h.newest_seen_iff hopen key
    rw [Transaction.seesAll_newestVersion_iff h.holds.versionsKeyed,
      Transaction.seesAll_everyVersion_iff h.holds.versionsKeyed] at hseen
    simpa [hnewest] using hseen

/-- The third transaction overtakes the second, so all in all numbers do not ascend; under one key
they do. The second commits after the fourth began, which therefore sees the older version of the
key and not the newest. -/
theorem newest_version_decides_overtaken :
    let script : List Step := [.begin, .set 0 [97] [1], .commit 0, .begin, .begin,
      .set 2 [98] [2], .commit 2, .set 1 [97] [3], .begin, .get 3 [97], .commit 1]
    let store := (reached script).store
    let txn := ((reached script).transactions.get? 3).getD ⟨⟨0, .empty⟩, .empty, .empty, .empty⟩
    CounterFits script ∧ (reached script).transactions.get? 3 = some txn ∧
      (past script).commits.map Prod.fst = [0, 2, 1] ∧
      chain store [97] = [(1, encodeVersion (some [1])), (2, encodeVersion (some [3]))] ∧
      txn.snapshot.sees 1 = true ∧
      (¬ ∀ link ∈ chain store [97], txn.snapshot.sees link.1 = true) ∧
      Transaction.checkAllSeen txn.snapshot (Transaction.everyVersion store [98]) = .ok () ∧
      Transaction.checkAllSeen txn.snapshot (txn.thoroughFootprint store) =
        .error .conflictAborted := by
  intro script store txn
  have hfits : CounterFits script := by decide
  have hopen : (reached script).transactions.get? 3 = some txn := by decide +kernel
  obtain ⟨hcommitted, hdecides⟩ := newest_version_decides hfits
  obtain ⟨hseen, hchecked, hvalidated⟩ := hdecides 3 txn hopen
  have hlinks : (past script).committed [97] =
      [(1, encodeVersion (some [1])), (2, encodeVersion (some [3]))] := by
    decide +kernel
  have hchain : chain store [97] =
      [(1, encodeVersion (some [1])), (2, encodeVersion (some [3]))] :=
    (hcommitted [97]).1.trans hlinks
  have hnewest : (chain store [97]).getLast? = some (2, encodeVersion (some [3])) := by
    rw [hchain]
    rfl
  refine ⟨hfits, hopen, by decide +kernel, hchain, by decide +kernel, ?_, ?_, ?_⟩
  · rw [← hseen [97] _ hnewest]
    decide +kernel
  · rw [← hchecked [98]]
    decide +kernel
  · rw [← hvalidated]
    decide +kernel

end Run

end Transact.Mvcc
