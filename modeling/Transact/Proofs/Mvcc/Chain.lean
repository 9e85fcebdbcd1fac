/-
# Chains of versions

The versions that a store holds of one key form a chain, ascending by number.
Every look of a transaction at the store is a look at chains: a read finds the
last visible link of one chain, a prefix scan does so for all keys under the
prefix, and a commit checks the last link of every chain that it read or is
about to write and all links under the prefixes that it scanned.

Looks need the versions to be readable: what is stored under the first byte of
the versions has to be a version. Nothing is asked of which versions there are,
so these facts hold of stores that no run of transactions leaves behind.
-/

import Transact.Mvcc.Transaction
import Transact.Proofs.Mvcc.Layout
import Transact.Proofs.Storage.PrefixScan

namespace Transact.Mvcc

/-- Whatever begins like a version is one. -/
def VersionsKeyed (store : Store) : Prop :=
  ∀ entry ∈ store.entries, [2] <+: entry.1 →
    ∃ key version, entry.1 = (Key.version key version).encode

/-- Whatever is stored as a version can be read. -/
def VersionsReadable (store : Store) : Prop :=
  ∀ entry ∈ store.entries, [2] <+: entry.1 → ∃ write, decodeVersion entry.2 = .ok write

/-- The version of a key that an entry is, if it is one, with what is stored under it. -/
def linkOf (key : Bytes) (entry : Bytes × Bytes) : Option (UInt64 × Bytes) :=
  match Key.decode entry.1 with
  | .ok (.version own version) => if own = key then some (version, entry.2) else none
  | _ => none

/-- The versions of a key among entries. -/
def chainOf (key : Bytes) (entries : List (Bytes × Bytes)) : List (UInt64 × Bytes) :=
  entries.filterMap (linkOf key)

/-- The versions of a key in a store, oldest number first. -/
def chain (store : Store) (key : Bytes) : List (UInt64 × Bytes) := chainOf key store.entries

/-- The written value that stored bytes stand for; a deletion stands for none. -/
def writtenValue (stored : Bytes) : Option Bytes := (decodeVersion stored).toOption.join

/-- What a snapshot finds under a key: the value of the last version that it sees. -/
def Snapshot.value (snapshot : Snapshot) (store : Store) (key : Bytes) : Option Bytes :=
  ((chain store key).filter fun link => snapshot.sees link.1).getLast?.bind fun link =>
    writtenValue link.2

/-! ## The links of a chain -/

theorem linkOf_eq_some_iff {key : Bytes} {entry : Bytes × Bytes} {link : UInt64 × Bytes} :
    linkOf key entry = some link ↔ entry = ((Key.version key link.1).encode, link.2) := by
  obtain ⟨encoded, stored⟩ := entry
  obtain ⟨version, value⟩ := link
  constructor
  · intro hlink
    unfold linkOf at hlink
    split at hlink
    · rename_i own number hdecode
      rw [Key.decode_eq_ok_iff] at hdecode
      split at hlink <;> cases hlink
      rename_i hown
      rw [← hown, ← hdecode]
    · cases hlink
  · intro hentry
    cases hentry
    simp [linkOf]

theorem mem_chain_iff {store : Store} {key : Bytes} {link : UInt64 × Bytes} :
    link ∈ chain store key ↔
      store.get? (Key.version key link.1).encode = some link.2 := by
  rw [OrderedMap.get?_eq_some_iff]
  simp [chain, chainOf, List.mem_filterMap, linkOf_eq_some_iff]

/-- A chain ascends, since the versions of one key sort by their number. -/
theorem chain_sorted (store : Store) (key : Bytes) :
    (chain store key).Pairwise fun first second => first.1 < second.1 := by
  refine List.pairwise_filterMap.mpr (store.sorted.imp ?_)
  intro first second hlt link hlink other hother
  rw [linkOf_eq_some_iff] at hlink hother
  subst hlink hother
  have hirrefl : ¬ key < key := Std.lt_irrefl
  have hversion := Key.encode_version_lt_iff.mp hlt
  grind

/-- A chain is known by its links. -/
theorem chain_eq_of_mem_iff {store : Store} {key : Bytes} {links : List (UInt64 × Bytes)}
    (hsorted : links.Pairwise fun first second => first.1 < second.1)
    (hlinks : ∀ link, link ∈ links ↔
      store.get? (Key.version key link.1).encode = some link.2) :
    chain store key = links :=
  OrderedMap.eq_of_mem_iff (chain_sorted store key) hsorted fun link => by
    rw [mem_chain_iff, hlinks]

/-- The links under a prefix are the whole chains of the keys that begin with it. -/
theorem chainOf_scanPrefix (store : Store) (start key : Bytes) :
    chainOf key (store.scanPrefix (versionPrefix start)) =
      if start <+: key then chain store key else [] := by
  have hlinks : ∀ entry link, linkOf key entry = some link →
      ((versionPrefix start).isPrefixOf entry.1 = true ↔ start <+: key) := by
    intro entry link hlink
    rw [linkOf_eq_some_iff] at hlink
    subst hlink
    simp [versionPrefix_prefix_encode_iff]
  rw [Store.scanPrefix_eq_filter, chain, chainOf, chainOf, List.filterMap_filter]
  split
  · rename_i hstart
    congr 1
    funext entry
    cases hlink : linkOf key entry with
    | none => simp
    | some link => simp [(hlinks entry link hlink).mpr hstart]
  · rename_i hstart
    apply List.filterMap_eq_nil_iff.mpr
    intro entry _
    cases hlink : linkOf key entry with
    | none => simp
    | some link => simp [Bool.eq_false_iff.mpr (mt (hlinks entry link hlink).mp hstart)]

/-! ## Looking at one chain -/

/-- The stored versions of a key up to a number are the links of its chain up to there. -/
theorem versionsUpTo_eq {store : Store} (h : VersionsKeyed store) (key : Bytes) (bound : UInt64) :
    Transaction.versionsUpTo store key bound =
      (((chain store key).filter fun link => link.1 ≤ bound).map fun link =>
        ((Key.version key link.1).encode, link.2)).reverse := by
  unfold Transaction.versionsUpTo
  congr 1
  refine OrderedMap.eq_of_mem_iff (store.sorted.filter _) ?_ fun entry => ?_
  · refine List.pairwise_map.mpr ((chain_sorted store key).filter _ |>.imp fun hlt => ?_)
    exact Key.encode_version_lt_iff.mpr (.inr ⟨rfl, hlt⟩)
  · obtain ⟨encoded, stored⟩ := entry
    simp only [Store.scan, List.mem_filter, Bound.admitsAbove, Bound.admitsBelow, Bool.and_eq_true,
      Bool.not_eq_true', decide_eq_false_iff_not, List.mem_map, decide_eq_true_eq, mem_chain_iff,
      OrderedMap.get?_eq_some_iff, Prod.mk.injEq]
    constructor
    · rintro ⟨hmem, hleast, hgreatest⟩
      obtain ⟨own, version, hown⟩ := h _ hmem (Bytes.head_of_mem_range hleast hgreatest)
      simp only at hown
      subst hown
      obtain ⟨number, hversion, _, hbound⟩ := Key.encode_mem_range_iff.mp ⟨hleast, hgreatest⟩
      rw [hversion] at hmem ⊢
      exact ⟨(number, stored), ⟨hmem, hbound⟩, rfl, rfl⟩
    · rintro ⟨link, ⟨hmem, hbound⟩, rfl, rfl⟩
      exact ⟨hmem, Key.encode_mem_range_iff.mpr ⟨link.1, rfl, UInt64.zero_le, hbound⟩⟩

/-- Reading among the links of one chain, newest first, finds the last one that is seen. -/
theorem newestSeen_links (snapshot : Snapshot) (key : Bytes) (links : List (UInt64 × Bytes)) :
    Transaction.newestSeen snapshot
        ((links.map fun link => ((Key.version key link.1).encode, link.2)).reverse) =
      match (links.filter fun link => snapshot.sees link.1).getLast? with
      | some link => decodeVersion link.2
      | none => .ok none := by
  rw [← List.map_reverse, ← List.head?_reverse, ← List.filter_reverse]
  generalize links.reverse = links
  induction links with
  | nil => rfl
  | cons link links ih =>
      by_cases hsees : snapshot.sees link.1 = true
      · simp [Transaction.newestSeen, hsees]
      · simp [Transaction.newestSeen, hsees, ih]

theorem le_of_sees {snapshot : Snapshot} {version : UInt64} (h : snapshot.sees version = true) :
    version ≤ snapshot.version := by
  simp only [Snapshot.sees, Bool.and_eq_true, decide_eq_true_eq] at h
  exact h.2

/-- The last version that a snapshot sees, if there is one, is among what is readable. -/
theorem decode_of_mem_chain {store : Store} (h : VersionsReadable store) {key : Bytes}
    {link : UInt64 × Bytes} (hlink : link ∈ chain store key) :
    decodeVersion link.2 = .ok (writtenValue link.2) := by
  have hentry := OrderedMap.get?_eq_some_iff.mp (mem_chain_iff.mp hlink)
  obtain ⟨write, hwrite⟩ := h _ hentry (by simp [Key.encode])
  simp only at hwrite
  rw [writtenValue, hwrite]
  rfl

/-- A read finds the transaction's own write, and otherwise the value of its snapshot. -/
theorem lookup_eq {store : Store} (hkeyed : VersionsKeyed store)
    (hreadable : VersionsReadable store) (txn : Transaction) (key : Bytes) :
    txn.lookup store key = .ok ((txn.writes.get? key).getD (txn.snapshot.value store key)) := by
  unfold Transaction.lookup
  split
  · rename_i write hwrite
    simp [hwrite]
  · rename_i hwrite
    have hseen : ∀ link : UInt64 × Bytes,
        (txn.snapshot.sees link.1 && decide (link.1 ≤ txn.version)) = txn.snapshot.sees link.1 := by
      intro link
      rw [Bool.and_eq_left_iff_imp]
      intro hsees
      exact decide_eq_true (le_of_sees hsees)
    rw [versionsUpTo_eq hkeyed, newestSeen_links, List.filter_filter, hwrite]
    simp only [hseen, Snapshot.value, Option.getD_none]
    cases hlast : ((chain store key).filter fun link => txn.snapshot.sees link.1).getLast? with
    | none => rfl
    | some link =>
        have hmem := (List.mem_filter.mp (List.mem_of_getLast? hlast)).1
        exact decode_of_mem_chain hreadable hmem

/-! ## Looking at all chains under a prefix -/

@[simp] theorem get?_applyWrite (found : OrderedMap Bytes Bytes) (key other : Bytes)
    (write : Option Bytes) :
    (Transaction.applyWrite found key write).get? other =
      if other = key then write else found.get? other := by
  cases write <;> simp [Transaction.applyWrite]

/-- Applying writes in key order leaves under each key what is written there, if anything is. -/
theorem get?_foldl_applyWrite {writes : List (Bytes × Option Bytes)}
    (hsorted : writes.Pairwise fun first second => first.1 < second.1)
    (found : OrderedMap Bytes Bytes) (key : Bytes) :
    (writes.foldl (fun found write =>
        Transaction.applyWrite found write.1 write.2) found).get? key =
      (OrderedMap.find? key writes).getD (found.get? key) := by
  induction writes generalizing found with
  | nil => rfl
  | cons write writes ih =>
      obtain ⟨own, value⟩ := write
      have hrest := List.pairwise_cons.mp hsorted
      rw [List.foldl_cons, ih hrest.2, get?_applyWrite]
      by_cases hown : own = key
      · have hnone : OrderedMap.find? key writes = none :=
          OrderedMap.find?_eq_none_of_lt (hown ▸ hrest.1)
        simp [OrderedMap.find?, hown, hnone]
      · simp [OrderedMap.find?, hown, Ne.symm hown]

theorem chainOf_cons_version (key own : Bytes) (version : UInt64) (stored : Bytes)
    (entries : List (Bytes × Bytes)) :
    chainOf key (((Key.version own version).encode, stored) :: entries) =
      if own = key then (version, stored) :: chainOf key entries else chainOf key entries := by
  by_cases hown : own = key
  · have hlink : linkOf key ((Key.version own version).encode, stored) =
        some (version, stored) := by
      simp [linkOf, hown]
    rw [if_pos hown, chainOf, List.filterMap_cons_some hlink, chainOf]
  · have hlink : linkOf key ((Key.version own version).encode, stored) = none := by
      simp [linkOf, hown]
    rw [if_neg hown, chainOf, List.filterMap_cons_none hlink, chainOf]

/-- Walking readable versions in key order leaves under each key the value of the last link of
its chain that is seen; a key without one is left alone. -/
theorem visible_eq (snapshot : Snapshot) {entries : List (Bytes × Bytes)}
    (hkeyed : ∀ entry ∈ entries, ∃ key version, entry.1 = (Key.version key version).encode)
    (hreadable : ∀ entry ∈ entries, ∃ write, decodeVersion entry.2 = .ok write)
    (found : OrderedMap Bytes Bytes) :
    ∃ result, Transaction.visible snapshot entries found = .ok result ∧
      ∀ key, result.get? key =
        match ((chainOf key entries).filter fun link => snapshot.sees link.1).getLast? with
        | some link => writtenValue link.2
        | none => found.get? key := by
  induction entries generalizing found with
  | nil => exact ⟨found, rfl, fun key => rfl⟩
  | cons entry entries ih =>
      obtain ⟨encoded, stored⟩ := entry
      obtain ⟨own, version, hown⟩ := hkeyed _ List.mem_cons_self
      obtain ⟨write, hwrite⟩ := hreadable _ List.mem_cons_self
      simp only at hown hwrite
      subst hown
      have hvalue : writtenValue stored = write := by
        rw [writtenValue, hwrite]
        rfl
      have ih := ih (fun entry hentry => hkeyed entry (List.mem_cons_of_mem _ hentry))
        (fun entry hentry => hreadable entry (List.mem_cons_of_mem _ hentry))
      simp only [Transaction.visible, Key.decode_encode, chainOf_cons_version]
      by_cases hsees : snapshot.sees version = true
      · obtain ⟨result, hresult, hget⟩ := ih (Transaction.applyWrite found own write)
        refine ⟨result, by simpa [hsees, hwrite] using hresult, fun key => ?_⟩
        rw [hget, get?_applyWrite]
        by_cases hkey : own = key
        · simp only [hkey, if_true, List.filter_cons, hsees, List.getLast?_cons]
          cases ((chainOf key entries).filter fun link => snapshot.sees link.1).getLast? <;>
            simp [hvalue]
        · simp [hkey, Ne.symm hkey]
      · obtain ⟨result, hresult, hget⟩ := ih found
        refine ⟨result, by simpa [hsees] using hresult, fun key => ?_⟩
        rw [hget]
        by_cases hkey : own = key
        · simp [hkey, hsees]
        · simp [hkey]

/-- What a prefix scan walks belongs to the versions. -/
theorem family_of_mem_scanPrefix {store : Store} {start : Bytes} {entry : Bytes × Bytes}
    (h : entry ∈ store.scanPrefix (versionPrefix start)) :
    entry ∈ store.entries ∧ [2] <+: entry.1 := by
  obtain ⟨hmem, hstart⟩ := Store.mem_scanPrefix_iff.mp h
  refine ⟨hmem, List.IsPrefix.trans ?_ hstart⟩
  rw [versionPrefix_eq]
  simp

theorem versions_of_mem_scanPrefix {store : Store} (hkeyed : VersionsKeyed store) {start : Bytes}
    {entry : Bytes × Bytes} (h : entry ∈ store.scanPrefix (versionPrefix start)) :
    ∃ key version, entry.1 = (Key.version key version).encode :=
  hkeyed entry (family_of_mem_scanPrefix h).1 (family_of_mem_scanPrefix h).2

/-- A prefix scan succeeds and finds under every key that begins with the prefix what a read
of the key finds, and nothing else. -/
theorem lookupPrefix_eq {store : Store} (hkeyed : VersionsKeyed store)
    (hreadable : VersionsReadable store) (txn : Transaction) (start : Bytes) :
    ∃ found, txn.lookupPrefix store start = .ok found ∧
      ∀ key, found.get? key =
        if start <+: key then (txn.writes.get? key).getD (txn.snapshot.value store key)
        else none := by
  obtain ⟨found, hfound, hget⟩ := visible_eq txn.snapshot
    (fun entry (hentry : entry ∈ store.scanPrefix (versionPrefix start)) =>
      versions_of_mem_scanPrefix hkeyed hentry)
    (fun entry hentry => hreadable entry (family_of_mem_scanPrefix hentry).1
      (family_of_mem_scanPrefix hentry).2) .empty
  refine ⟨_, by simp only [Transaction.lookupPrefix, hfound]; rfl, fun key => ?_⟩
  have hsorted : (txn.writesUnder start).Pairwise fun first second => first.1 < second.1 :=
    txn.writes.sorted.filter _
  have hwrites : OrderedMap.find? key (txn.writesUnder start) =
      if start <+: key then txn.writes.get? key else none := by
    rw [Transaction.writesUnder, OrderedMap.find?_filter_key]
    simp [OrderedMap.get?]
  rw [get?_foldl_applyWrite hsorted, hwrites, hget, chainOf_scanPrefix]
  by_cases hstart : start <+: key
  · simp only [hstart, if_true, Snapshot.value]
    cases ((chain store key).filter fun link => txn.snapshot.sees link.1).getLast? <;> rfl
  · simp [hstart]

end Transact.Mvcc
