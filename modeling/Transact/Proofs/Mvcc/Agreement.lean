/-
# Reads and scans agree

A read walks the versions of one key backwards and stops at the first that it
sees. A prefix scan walks the versions of many keys forwards, sets and removes
as it goes, and lays the buffer on top. On a store whose versions can all be
read the two find the same, whichever versions there are and in whichever state
the markers and the counter are: a pair is listed when a read of its key answers
its value, and a key is left out when a read finds nothing.
-/

import Mathlib.Control.Monad.Basic
import Transact.Proofs.Mvcc.Chain

namespace Transact.Mvcc

/-- Whatever begins like a version can be read: its key, and what is stored under it. -/
def VersionsUndamaged (store : Store) : Prop :=
  ∀ entry ∈ store.entries, [2] <+: entry.1 →
    (Key.decode entry.1).isOk = true ∧ (decodeVersion entry.2).isOk = true

instance (store : Store) : Decidable (VersionsUndamaged store) :=
  inferInstanceAs (Decidable (∀ entry ∈ store.entries, [2] <+: entry.1 →
    (Key.decode entry.1).isOk = true ∧ (decodeVersion entry.2).isOk = true))

namespace VersionsUndamaged

variable {store : Store}

/-- The first byte tells the family, so a key that begins like a version and can be read is one. -/
theorem versionsKeyed (h : VersionsUndamaged store) : VersionsKeyed store := by
  intro entry hentry hfamily
  obtain ⟨own, hown⟩ := Except.isOk_iff.mp (h entry hentry hfamily).1
  rw [Key.decode_eq_ok_iff] at hown
  rw [hown] at hfamily
  cases own with
  | nextVersion => simp [Key.encode] at hfamily
  | active version => simp [Key.encode] at hfamily
  | version key version => exact ⟨key, version, hown⟩

theorem versionsReadable (h : VersionsUndamaged store) : VersionsReadable store :=
  fun entry hentry hfamily => Except.isOk_iff.mp (h entry hentry hfamily).2

end VersionsUndamaged

namespace Transaction

/-- A prefix scan lists the keys that begin with the prefix and that a read answers with a value,
in ascending order and with that value; reads find nothing under the others. What has been read and
scanned before makes no difference. -/
theorem get_iff_mem_scanPrefix {store : Store} (h : VersionsUndamaged store) (snapshot : Snapshot)
    (writes : Writes) (start : Bytes) :
    ∃ entries : List (Bytes × Bytes),
      entries.Pairwise (fun first second => first.1 < second.1) ∧
      (∀ entry ∈ entries, start <+: entry.1) ∧
      ∀ reads prefixes, let txn : Transaction := ⟨snapshot, reads, prefixes, writes⟩
        (txn.scanPrefix store start).1 = .ok entries ∧
        ∀ key, start <+: key →
          (∀ value, (txn.get store key).1 = .ok (some value) ↔ (key, value) ∈ entries) ∧
          ((txn.get store key).1 = .ok none ↔ ∀ value, (key, value) ∉ entries) := by
  obtain ⟨found, hfound, hvalue⟩ := lookupPrefix_eq h.versionsKeyed h.versionsReadable
    ⟨snapshot, .empty, .empty, writes⟩ start
  have hunder : ∀ entry ∈ found.entries, start <+: entry.1 := by
    intro entry hentry
    have hget := OrderedMap.get?_eq_some_iff.mpr hentry
    rw [hvalue] at hget
    split at hget
    · assumption
    · cases hget
  refine ⟨found.entries, found.sorted, hunder, fun reads prefixes => ⟨?_, fun key hkey => ?_⟩⟩
  · have hscan : lookupPrefix ⟨snapshot, reads, prefixes, writes⟩ store start = .ok found := hfound
    rw [scanPrefix, hscan]
    rfl
  · have hread : (get ⟨snapshot, reads, prefixes, writes⟩ store key).1 = .ok (found.get? key) := by
      rw [get, lookup_eq h.versionsKeyed h.versionsReadable, hvalue, if_pos hkey]
      rfl
    constructor
    · intro value
      rw [hread, Except.ok.injEq, OrderedMap.get?_eq_some_iff]
    · simp only [hread, Except.ok.injEq, ← OrderedMap.get?_eq_some_iff]
      exact Option.eq_none_iff_forall_ne_some

/-- Versions that are too new or belong to an active transaction, deletions, keys that extend each
other by zero bytes, and writes and deletions in the buffer, among markers that are damaged. -/
theorem get_iff_mem_scanPrefix_overlapping :
    let store : Store := (((((((OrderedMap.empty.insert [1, 7] [9]).insert
      (Key.version [97] 1).encode (encodeVersion (some [1]))).insert
      (Key.version [97] 4).encode (encodeVersion none)).insert
      (Key.version [97] 9).encode (encodeVersion (some [2]))).insert
      (Key.version [97, 0] 1).encode (encodeVersion (some [3]))).insert
      (Key.version [97, 0] 2).encode (encodeVersion (some [4]))).insert
      (Key.version [97, 0, 255] 5).encode (encodeVersion (some [5]))).insert
      (Key.version [98] 5).encode (encodeVersion (some [6]))
    let txn : Transaction := ⟨⟨5, OrderedMap.empty.insert 2 ()⟩, .empty, .empty,
      (OrderedMap.empty.insert [97, 0, 255] none).insert [97, 255] (some [7])⟩
    VersionsUndamaged store ∧
      (txn.scanPrefix store [97]).1 = .ok [([97, 0], [3]), ([97, 255], [7])] ∧
      (txn.get store [97]).1 = .ok none ∧
      (txn.get store [97, 0]).1 = .ok (some [3]) ∧
      (txn.get store [97, 0, 255]).1 = .ok none := by
  intro store txn
  have hundamaged : VersionsUndamaged store := by decide +kernel
  obtain ⟨entries, _, _, hentries⟩ :=
    get_iff_mem_scanPrefix hundamaged txn.snapshot txn.writes [97]
  obtain ⟨hscan, hget⟩ := hentries .empty .empty
  have hlisted : entries = [([97, 0], [3]), ([97, 255], [7])] :=
    Except.ok.inj (hscan.symm.trans (by decide +kernel))
  subst hlisted
  exact ⟨hundamaged, hscan, (hget [97] (by decide)).2.mpr (by simp),
    ((hget [97, 0] (by decide)).1 [3]).mpr (by simp),
    (hget [97, 0, 255] (by decide)).2.mpr (by simp)⟩

end Transaction

end Transact.Mvcc
