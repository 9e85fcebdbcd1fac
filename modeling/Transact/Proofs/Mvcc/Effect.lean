/-
# What beginning and finishing do to the store

Beginning a transaction sets the counter and adds a marker; finishing one
removes its marker and, if it goes through, sets one version for each key in
its buffer. Each effect is given as what the store answers afterwards, so that
everything not named is unchanged.
-/

import Transact.Mvcc.Transaction
import Transact.Proofs.Mvcc.Layout
import Transact.Proofs.Storage.PrefixScan

namespace Transact.Mvcc.Transaction

/-- Whatever begins like a marker is one. -/
def MarkersKeyed (store : Store) : Prop :=
  ∀ entry ∈ store.entries, KeyPrefix.active.encode <+: entry.1 →
    ∃ version, entry.1 = (Key.active version).encode

/-! ## Beginning -/

theorem activeVersions_eq {entries : List (Bytes × Bytes)}
    (h : ∀ entry ∈ entries, ∃ version, entry.1 = (Key.active version).encode)
    (found : OrderedSet UInt64) :
    ∃ active, activeVersions entries found = .ok active ∧
      ∀ version, active.contains version = true ↔
        found.contains version = true ∨
          ∃ entry ∈ entries, entry.1 = (Key.active version).encode := by
  induction entries generalizing found with
  | nil => exact ⟨found, rfl, fun version => by simp⟩
  | cons entry entries ih =>
      obtain ⟨encoded, stored⟩ := entry
      obtain ⟨own, hown⟩ := h _ List.mem_cons_self
      simp only at hown
      subst hown
      obtain ⟨active, hactive, hcontains⟩ :=
        ih (fun entry hentry => h entry (List.mem_cons_of_mem _ hentry)) (found.insert own ())
      refine ⟨active, by simpa [activeVersions] using hactive, fun version => ?_⟩
      rw [hcontains]
      simp only [OrderedMap.contains_insert, Bool.or_eq_true, decide_eq_true_eq, List.mem_cons,
        exists_eq_or_imp, Key.encode_inj, Key.active.injEq]
      grind

/-- The markers that a store holds. -/
theorem activeVersions_scanPrefix {store : Store} (h : MarkersKeyed store) :
    ∃ active, activeVersions (store.scanPrefix KeyPrefix.active.encode) .empty = .ok active ∧
      ∀ version, active.contains version = true ↔
        store.contains (Key.active version).encode = true := by
  have hmarkers : ∀ entry ∈ store.scanPrefix KeyPrefix.active.encode,
      ∃ version, entry.1 = (Key.active version).encode := by
    intro entry hentry
    obtain ⟨hmem, hprefix⟩ := Store.mem_scanPrefix_iff.mp hentry
    exact h entry hmem hprefix
  obtain ⟨active, hactive, hcontains⟩ := activeVersions_eq hmarkers .empty
  refine ⟨active, hactive, fun version => ?_⟩
  simp only [hcontains, OrderedMap.contains_empty, Bool.false_eq_true, false_or,
    Store.mem_scanPrefix_iff, OrderedMap.contains_iff, OrderedMap.get?_eq_some_iff]
  constructor
  · rintro ⟨⟨encoded, stored⟩, ⟨hmem, _⟩, rfl⟩
    exact ⟨stored, hmem⟩
  · rintro ⟨stored, hmem⟩
    exact ⟨_, ⟨hmem, (active_prefix_encode_iff _).mpr ⟨version, rfl⟩⟩, rfl⟩

/-- Setting the counter leaves the markers as they are. -/
theorem markersKeyed_insert_nextVersion {store : Store} (h : MarkersKeyed store) (value : Bytes) :
    MarkersKeyed (store.insert Key.nextVersion.encode value) := by
  rintro ⟨encoded, stored⟩ hentry hprefix
  rw [← OrderedMap.get?_eq_some_iff, OrderedMap.get?_insert] at hentry
  by_cases hcounter : encoded = Key.nextVersion.encode
  · subst hcounter
    simp [active_prefix_encode_iff] at hprefix
  · rw [if_neg hcounter, OrderedMap.get?_eq_some_iff] at hentry
    exact h _ hentry hprefix

/-- A transaction begins with the version that the counter names, and it takes for active what
has a marker; then the counter is raised and its own marker added. -/
theorem begin_eq {store : Store} (hmarkers : MarkersKeyed store) {version : UInt64}
    (hnext : nextVersion store = .ok version) :
    ∃ active : OrderedSet UInt64,
      (∀ other, active.contains other = true ↔ store.contains (Key.active other).encode = true) ∧
        begin.run store =
          (.ok ⟨⟨version, active⟩, .empty, .empty, .empty⟩,
            (store.insert Key.nextVersion.encode (encodeCounter (version + 1))).insert
              (Key.active version).encode []) := by
  have hcounted := markersKeyed_insert_nextVersion hmarkers (encodeCounter (version + 1))
  obtain ⟨active, hactive, hcontains⟩ := activeVersions_scanPrefix hcounted
  refine ⟨active, fun other => ?_, ?_⟩
  · rw [hcontains]
    simp
  · simp only [begin, Call.run, Call.of, hnext, hactive]

/-! ## Finishing -/

theorem get?_release (txn : Transaction) (store : Store) (bytes : Bytes) :
    (txn.release store).get? bytes =
      if bytes = (Key.active txn.version).encode then none else store.get? bytes :=
  OrderedMap.get?_erase store _ bytes

/-- A commit stores each buffered write as a version of its own number. -/
theorem get?_apply_version (txn : Transaction) (store : Store) (key : Bytes) :
    (txn.apply store).get? (Key.version key txn.version).encode =
      ((txn.writes.get? key).map encodeVersion).or
        (store.get? (Key.version key txn.version).encode) := by
  have hsorted := txn.writes.sorted
  simp only [apply, OrderedMap.get?]
  generalize txn.writes.entries = writes at hsorted
  induction writes generalizing store with
  | nil => rfl
  | cons write writes ih =>
      obtain ⟨own, value⟩ := write
      have hrest := List.pairwise_cons.mp hsorted
      rw [List.foldl_cons, ih _ hrest.2, ← OrderedMap.get?, ← OrderedMap.get?,
        OrderedMap.get?_insert]
      by_cases hown : own = key
      · have hnone : OrderedMap.find? key writes = none :=
          OrderedMap.find?_eq_none_of_lt (hown ▸ hrest.1)
        simp [OrderedMap.find?, hown, hnone]
      · simp [OrderedMap.find?, hown, Ne.symm hown]

/-- A commit changes nothing but the versions of its own number of the keys in its buffer. -/
theorem get?_apply_of_ne {txn : Transaction} {bytes : Bytes}
    (h : ∀ key, txn.writes.contains key = true → bytes ≠ (Key.version key txn.version).encode)
    (store : Store) : (txn.apply store).get? bytes = store.get? bytes := by
  have hne : ∀ write ∈ txn.writes.entries, bytes ≠ (Key.version write.1 txn.version).encode := by
    intro write hwrite
    refine h write.1 (OrderedMap.contains_iff.mpr ⟨write.2, ?_⟩)
    exact OrderedMap.get?_eq_some_iff.mpr hwrite
  unfold apply
  generalize txn.writes.entries = writes at hne
  induction writes generalizing store with
  | nil => rfl
  | cons write writes ih =>
      rw [List.foldl_cons, ih _ fun write hwrite => hne write (List.mem_cons_of_mem _ hwrite),
        OrderedMap.get?_insert, if_neg (hne write List.mem_cons_self)]

end Transact.Mvcc.Transaction
