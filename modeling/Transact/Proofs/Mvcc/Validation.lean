/-
# What a commit checks

A commit goes through when its transaction sees the last link of the chain of
every key that it read or is about to write, and all links of the chains under
the prefixes that it scanned. On a store whose versions can be told apart there
is one other outcome, a conflict.
-/

import Transact.Proofs.Mvcc.Chain

namespace Transact.Mvcc.Transaction

theorem checkSeen_encode_version (snapshot : Snapshot) (key : Bytes) (version : UInt64) :
    checkSeen snapshot (Key.version key version).encode =
      if snapshot.sees version then .ok () else .error .conflictAborted := by
  simp [checkSeen]

/-- Checking versions has two outcomes, and it goes through when all of them are seen. -/
theorem checkAllSeen_eq (snapshot : Snapshot) {entries : List (Bytes × Bytes)}
    (h : ∀ entry ∈ entries, ∃ key version, entry.1 = (Key.version key version).encode) :
    (checkAllSeen snapshot entries = .ok () ∨
        checkAllSeen snapshot entries = .error .conflictAborted) ∧
      (checkAllSeen snapshot entries = .ok () ↔
        ∀ key version stored, ((Key.version key version).encode, stored) ∈ entries →
          snapshot.sees version = true) := by
  induction entries with
  | nil => simp [checkAllSeen]
  | cons entry entries ih =>
      obtain ⟨encoded, stored⟩ := entry
      obtain ⟨key, version, hkey⟩ := h _ List.mem_cons_self
      simp only at hkey
      subst hkey
      have ih := ih fun entry hentry => h entry (List.mem_cons_of_mem _ hentry)
      simp only [checkAllSeen, checkSeen_encode_version]
      by_cases hsees : snapshot.sees version = true
      · simp only [hsees, if_true]
        refine ⟨ih.1, ih.2.trans ⟨fun hall own number value hmem => ?_,
          fun hall own number value hmem =>
            hall own number value (List.mem_cons_of_mem _ hmem)⟩⟩
        rcases List.mem_cons.mp hmem with heq | hmem
        · simp only [Prod.mk.injEq, Key.encode_inj, Key.version.injEq] at heq
          rw [heq.1.2]
          exact hsees
        · exact hall own number value hmem
      · refine ⟨.inr (by simp [hsees]), ⟨fun hok => by simp [hsees] at hok, fun hall => ?_⟩⟩
        exact absurd (hall key version stored List.mem_cons_self) hsees

/-- The stored versions of a key up to the greatest number are its whole chain. -/
theorem versionsUpTo_greatest_eq {store : Store} (h : VersionsKeyed store) (key : Bytes) :
    versionsUpTo store key 0xFFFFFFFFFFFFFFFF =
      ((chain store key).map fun link => ((Key.version key link.1).encode, link.2)).reverse := by
  rw [versionsUpTo_eq h, List.filter_eq_self.mpr]
  intro link _
  apply decide_eq_true
  have := link.1.toNat_lt
  rw [UInt64.le_iff_toNat_le]
  simp only [UInt64.toNat_ofNat]
  omega

/-- The newest stored version of a key is the last link of its chain. -/
theorem newestVersion_eq {store : Store} (h : VersionsKeyed store) (key : Bytes) :
    newestVersion store key =
      ((chain store key).getLast?.map fun link =>
        ((Key.version key link.1).encode, link.2)).toList := by
  rw [newestVersion, versionsUpTo_greatest_eq h, ← List.map_reverse, ← List.map_take,
    List.take_one, List.head?_reverse]
  cases (chain store key).getLast? <;> rfl

theorem mem_footprint_iff {store : Store} (h : VersionsKeyed store) {txn : Transaction}
    {entry : Bytes × Bytes} :
    entry ∈ txn.footprint store ↔
      (∃ key, (txn.reads.contains key = true ∨ txn.writes.contains key = true) ∧
        ∃ link, (chain store key).getLast? = some link ∧
          entry = ((Key.version key link.1).encode, link.2)) ∨
      ∃ start, txn.prefixes.contains start = true ∧
        entry ∈ store.scanPrefix (versionPrefix start) := by
  simp only [footprint, List.mem_append, List.mem_flatMap, OrderedMap.mem_keys_iff,
    newestVersion_eq h, Option.mem_toList, Option.map_eq_some_iff]
  grind

/-- A commit goes through when every last link that it depends on and every link under its
scanned prefixes is seen; otherwise there is a conflict. -/
theorem validate_eq {store : Store} (h : VersionsKeyed store) (txn : Transaction) :
    (txn.validate store = .ok () ∨ txn.validate store = .error .conflictAborted) ∧
      (txn.validate store = .ok () ↔
        (∀ key, txn.reads.contains key = true ∨ txn.writes.contains key = true →
          ∀ link, (chain store key).getLast? = some link → txn.snapshot.sees link.1 = true) ∧
        ∀ start, txn.prefixes.contains start = true → ∀ key, start <+: key →
          ∀ link ∈ chain store key, txn.snapshot.sees link.1 = true) := by
  have hkeyed : ∀ entry ∈ txn.footprint store,
      ∃ key version, entry.1 = (Key.version key version).encode := by
    intro entry hentry
    rcases (mem_footprint_iff h).mp hentry with ⟨key, _, link, _, rfl⟩ | ⟨start, _, hscan⟩
    · exact ⟨key, link.1, rfl⟩
    · exact versions_of_mem_scanPrefix h hscan
  refine ⟨(checkAllSeen_eq txn.snapshot hkeyed).1, (checkAllSeen_eq txn.snapshot hkeyed).2.trans ?_⟩
  constructor
  · intro hall
    refine ⟨fun key hkey link hlink => ?_, fun start hstart key hkey link hlink => ?_⟩
    · exact hall key link.1 link.2 ((mem_footprint_iff h).mpr (.inl ⟨key, hkey, link, hlink, rfl⟩))
    · refine hall key link.1 link.2 ((mem_footprint_iff h).mpr (.inr ⟨start, hstart, ?_⟩))
      have hentry := OrderedMap.get?_eq_some_iff.mp (mem_chain_iff.mp hlink)
      apply Store.mem_scanPrefix_iff.mpr
      exact ⟨hentry, (versionPrefix_prefix_encode_iff _ _).mpr ⟨key, link.1, rfl, hkey⟩⟩
  · rintro ⟨hlast, hunder⟩ key version stored hmem
    rcases (mem_footprint_iff h).mp hmem with ⟨own, hown, link, hlink, heq⟩ | ⟨start, hstart, hscan⟩
    · simp only [Prod.mk.injEq, Key.encode_inj, Key.version.injEq] at heq
      rw [heq.1.2]
      exact hlast own hown link hlink
    · obtain ⟨hentry, hprefix⟩ := Store.mem_scanPrefix_iff.mp hscan
      obtain ⟨_, _, hown, hkey⟩ :=
        (versionPrefix_prefix_encode_iff start (.version key version)).mp hprefix
      cases hown
      exact hunder start hstart key hkey (version, stored)
        (mem_chain_iff.mpr (OrderedMap.get?_eq_some_iff.mpr hentry))

end Transact.Mvcc.Transaction
