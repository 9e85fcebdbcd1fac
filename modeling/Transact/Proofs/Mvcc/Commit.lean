/-
# Commits on any store

What a commit does is settled by two looks at the store, whatever the store
holds: what it checks decides how it ends, and that decides which entries it
writes. Entries that are no keys at all, that are keys of another kind than where
they stand, or whose values cannot be read are looked at and refused, or left as
they are.

So a commit applies all of its buffer or none of it. And two commits of which
neither writes what the other one checks can change places: neither answer and no
byte of the store tells which came first.
-/

import Mathlib.Data.List.Basic
import Transact.Proofs.Mvcc.Effect

namespace Transact.Mvcc.Transaction

/-! ## How a commit ends -/

theorem checkSeen_cases (snapshot : Snapshot) (key : Bytes) :
    checkSeen snapshot key = .ok () ∨ checkSeen snapshot key = .error .conflictAborted ∨
      ∃ fault, checkSeen snapshot key = .error (.internal fault) := by
  unfold checkSeen
  split
  · split
    · exact .inl rfl
    · exact .inr (.inl rfl)
  · exact .inr (.inr ⟨_, rfl⟩)
  · exact .inr (.inr ⟨_, rfl⟩)

theorem checkAllSeen_cases (snapshot : Snapshot) (entries : List (Bytes × Bytes)) :
    checkAllSeen snapshot entries = .ok () ∨
      checkAllSeen snapshot entries = .error .conflictAborted ∨
      ∃ fault, checkAllSeen snapshot entries = .error (.internal fault) := by
  induction entries with
  | nil => exact .inl rfl
  | cons entry entries ih =>
      rcases checkSeen_cases snapshot entry.1 with hentry | hentry | ⟨fault, hentry⟩
      · simpa only [checkAllSeen, hentry] using ih
      · exact .inr (.inl (by simp only [checkAllSeen, hentry]))
      · exact .inr (.inr ⟨fault, by simp only [checkAllSeen, hentry]⟩)

/-- A commit goes through, conflicts or comes upon damage. -/
theorem validate_cases (txn : Transaction) (store : Store) :
    txn.validate store = .ok () ∨ txn.validate store = .error .conflictAborted ∨
      ∃ fault, txn.validate store = .error (.internal fault) :=
  checkAllSeen_cases txn.snapshot (txn.footprint store)

/-- A commit answers what its check answers. -/
theorem commit_answer (txn : Transaction) (store : Store) :
    (txn.commit.run store).1 = txn.validate store := by
  simp only [commit, Call.run, Call.of]
  cases txn.validate store <;> rfl

/-! ## What a commit leaves -/

/-- What applying the buffer stores under an entry's key, if it stores anything there. -/
def stored? (txn : Transaction) (bytes : Bytes) : Option Bytes :=
  match Key.decode bytes with
  | .ok (.version key version) =>
    if version = txn.version then (txn.writes.get? key).map encodeVersion else none
  | _ => none

/-- What is stored is a version of the transaction's own number, of a key in its buffer. -/
theorem stored?_eq_some_iff {txn : Transaction} {bytes value : Bytes} :
    txn.stored? bytes = some value ↔
      ∃ key write, txn.writes.get? key = some write ∧
        bytes = (Key.version key txn.version).encode ∧ value = encodeVersion write := by
  unfold stored?
  constructor
  · intro h
    split at h
    · rename_i key version hdecode
      split at h
      · rename_i hversion
        obtain ⟨write, hwrite, rfl⟩ := Option.map_eq_some_iff.mp h
        exact ⟨key, write, hwrite, hversion ▸ Key.decode_eq_ok_iff.mp hdecode, rfl⟩
      · cases h
    · cases h
  · rintro ⟨key, write, hwrite, rfl, rfl⟩
    simp [hwrite]

theorem stored?_eq_none_iff {txn : Transaction} {bytes : Bytes} :
    txn.stored? bytes = none ↔
      ∀ key, txn.writes.contains key = true → bytes ≠ (Key.version key txn.version).encode := by
  simp only [Option.eq_none_iff_forall_ne_some, OrderedMap.contains_iff]
  constructor
  · rintro h key ⟨write, hwrite⟩ hbytes
    exact h _ (stored?_eq_some_iff.mpr ⟨key, write, hwrite, hbytes, rfl⟩)
  · intro h value hvalue
    obtain ⟨key, write, hwrite, hbytes, _⟩ := stored?_eq_some_iff.mp hvalue
    exact h key ⟨write, hwrite⟩ hbytes

/-- Applying the buffer sets its versions and leaves every other entry, damaged or not. -/
theorem get?_apply (txn : Transaction) (store : Store) (bytes : Bytes) :
    (txn.apply store).get? bytes = (txn.stored? bytes).or (store.get? bytes) := by
  cases hstored : txn.stored? bytes with
  | some value =>
      obtain ⟨key, write, hwrite, rfl, rfl⟩ := stored?_eq_some_iff.mp hstored
      simp [get?_apply_version, hwrite]
  | none => exact get?_apply_of_ne (stored?_eq_none_iff.mp hstored) store

@[simp] theorem stored?_active (txn : Transaction) (version : UInt64) :
    txn.stored? (Key.active version).encode = none := by
  simp [stored?]

/-- A commit removes the marker and, if it goes through, stores the buffer. -/
theorem get?_commit (txn : Transaction) (store : Store) (bytes : Bytes) :
    (txn.commit.run store).2.get? bytes =
      if bytes = (Key.active txn.version).encode then none
      else if (txn.validate store).isOk then (txn.stored? bytes).or (store.get? bytes)
      else store.get? bytes := by
  cases hvalid : txn.validate store with
  | error error =>
      simp [commit, Call.run, Call.of, hvalid, get?_release, Except.isOk, Except.toBool]
  | ok =>
      simp [commit, Call.run, Call.of, hvalid, get?_release, get?_apply, Except.isOk, Except.toBool]

/-- A commit that fails leaves the store as it was but for the marker; one that goes through leaves
the buffered writes under its own number besides, all of them, and nothing else is changed. -/
theorem commit_all_or_nothing (txn : Transaction) (store : Store) :
    (∃ error, (txn.commit.run store).1 = .error error ∧
        (error = .conflictAborted ∨ ∃ fault, error = .internal fault) ∧
        ∀ bytes, (txn.commit.run store).2.get? bytes =
          if bytes = (Key.active txn.version).encode then none else store.get? bytes) ∨
      ((txn.commit.run store).1 = .ok () ∧
        (txn.commit.run store).2.get? (Key.active txn.version).encode = none ∧
        (∀ key write, txn.writes.get? key = some write →
          (txn.commit.run store).2.get? (Key.version key txn.version).encode =
            some (encodeVersion write)) ∧
        ∀ bytes, bytes ≠ (Key.active txn.version).encode →
          (∀ key, txn.writes.contains key = true →
            bytes ≠ (Key.version key txn.version).encode) →
          (txn.commit.run store).2.get? bytes = store.get? bytes) := by
  simp only [commit_answer, get?_commit]
  rcases txn.validate_cases store with hvalid | hvalid | ⟨fault, hvalid⟩
  · refine .inr ⟨hvalid, by simp, fun key write hwrite => ?_, fun bytes hmarker hkeys => ?_⟩
    · have hstored := stored?_eq_some_iff.mpr ⟨key, write, hwrite, rfl, rfl⟩
      simp [hvalid, hstored, Except.isOk, Except.toBool]
    · have hstored : txn.stored? bytes = none := stored?_eq_none_iff.mpr hkeys
      simp [hmarker, hstored]
  · exact .inl ⟨_, hvalid, .inl rfl, fun bytes => by rw [hvalid]; rfl⟩
  · exact .inl ⟨_, hvalid, .inr ⟨fault, rfl⟩, fun bytes => by rw [hvalid]; rfl⟩

/-! ## What a commit looks at -/

/-- A commit's check looks at an entry: it lies among the versions of a key that was read or is
about to be written, or under a prefix that was scanned. -/
def LooksAt (txn : Transaction) (bytes : Bytes) : Prop :=
  (∃ key, (key ∈ txn.reads.keys ∨ key ∈ txn.writes.keys) ∧
      ¬ bytes < (Key.version key 0).encode ∧
      ¬ (Key.version key 0xFFFFFFFFFFFFFFFF).encode < bytes) ∨
    ∃ start ∈ txn.prefixes.keys, versionPrefix start <+: bytes

theorem newestVersion_congr {left right : Store} {key : Bytes}
    (h : ∀ bytes, ¬ bytes < (Key.version key 0).encode →
      ¬ (Key.version key 0xFFFFFFFFFFFFFFFF).encode < bytes →
      left.get? bytes = right.get? bytes) :
    newestVersion left key = newestVersion right key := by
  rw [newestVersion, newestVersion, versionsUpTo, versionsUpTo, Store.scan_congr]
  intro bytes hlower hupper
  exact h bytes (by simpa [Bound.admitsAbove] using hlower)
    (by simpa [Bound.admitsBelow] using hupper)

/-- On stores that hold the same where it looks, a commit checks the same and answers the same. -/
theorem validate_congr {txn : Transaction} {left right : Store}
    (h : ∀ bytes, txn.LooksAt bytes → left.get? bytes = right.get? bytes) :
    txn.validate left = txn.validate right := by
  have hkeys : ∀ key, key ∈ txn.reads.keys ∨ key ∈ txn.writes.keys →
      newestVersion left key = newestVersion right key := fun key hkey =>
    newestVersion_congr fun bytes hlower hupper => h bytes (.inl ⟨key, hkey, hlower, hupper⟩)
  have hprefixes : ∀ start ∈ txn.prefixes.keys,
      left.scanPrefix (versionPrefix start) = right.scanPrefix (versionPrefix start) :=
    fun start hstart => Store.scanPrefix_congr fun bytes hbytes =>
      h bytes (.inr ⟨start, hstart, hbytes⟩)
  rw [validate, validate, footprint, footprint,
    List.flatMap_congr fun key hkey => hkeys key (.inl hkey),
    List.flatMap_congr fun key hkey => hkeys key (.inr hkey),
    List.flatMap_congr hprefixes]

/-- Of the keys, a check looks at versions of keys that it depends on. -/
theorem LooksAt.exists_version {txn : Transaction} {own : Key} (h : txn.LooksAt own.encode) :
    ∃ key version, own = .version key version ∧
      (key ∈ txn.reads.keys ∨ key ∈ txn.writes.keys ∨
        ∃ start ∈ txn.prefixes.keys, start <+: key) := by
  rcases h with ⟨key, hkey, hrange⟩ | ⟨start, hstart, hprefix⟩
  · obtain ⟨version, rfl, _⟩ := Key.encode_mem_range_iff.mp hrange
    exact ⟨key, version, rfl, hkey.elim .inl (.inr ∘ .inl)⟩
  · obtain ⟨key, version, rfl, hkey⟩ := (versionPrefix_prefix_encode_iff start own).mp hprefix
    exact ⟨key, version, rfl, .inr (.inr ⟨start, hstart, hkey⟩)⟩

/-! ## Commits that leave each other alone -/

/-- Nothing that a transaction has buffered is what another one read, scanned or is about to
write. -/
def LeavesAlone (txn other : Transaction) : Prop :=
  ∀ key ∈ txn.writes.keys, key ∉ other.reads.keys ∧ key ∉ other.writes.keys ∧
    ∀ start ∈ other.prefixes.keys, ¬ start <+: key

instance (txn other : Transaction) : Decidable (txn.LeavesAlone other) :=
  inferInstanceAs (Decidable (∀ key ∈ txn.writes.keys, key ∉ other.reads.keys ∧
    key ∉ other.writes.keys ∧ ∀ start ∈ other.prefixes.keys, ¬ start <+: key))

namespace LeavesAlone

variable {txn other : Transaction}

/-- A commit does not touch what another one looks at. -/
theorem get?_commit_of_looksAt (h : txn.LeavesAlone other) (store : Store) {bytes : Bytes}
    (hlooks : other.LooksAt bytes) : (txn.commit.run store).2.get? bytes = store.get? bytes := by
  have hmarker : bytes ≠ (Key.active txn.version).encode := by
    rintro rfl
    obtain ⟨_, _, hown, _⟩ := hlooks.exists_version
    cases hown
  have hstored : txn.stored? bytes = none := by
    refine stored?_eq_none_iff.mpr fun key hkey hbytes => ?_
    subst hbytes
    obtain ⟨_, _, hown, hdepends⟩ := hlooks.exists_version
    cases hown
    obtain ⟨hread, hwritten, hunder⟩ := h key (OrderedMap.mem_keys_iff.mpr hkey)
    rcases hdepends with hin | hin | ⟨start, hstart, hprefix⟩
    · exact hread hin
    · exact hwritten hin
    · exact hunder start hstart hprefix
  simp [get?_commit, hmarker, hstored]

/-- A commit that is left alone checks the same before and after the other one. -/
theorem validate_commit (h : txn.LeavesAlone other) (store : Store) :
    other.validate (txn.commit.run store).2 = other.validate store :=
  validate_congr fun _ hlooks => h.get?_commit_of_looksAt store hlooks

end LeavesAlone

/-- Transactions of different numbers store nothing under the same key. -/
theorem stored?_eq_none_or {txn other : Transaction} (h : txn.version ≠ other.version)
    (bytes : Bytes) : txn.stored? bytes = none ∨ other.stored? bytes = none := by
  cases hstored : txn.stored? bytes with
  | none => exact .inl rfl
  | some value =>
      obtain ⟨key, _, _, rfl, _⟩ := stored?_eq_some_iff.mp hstored
      exact .inr (by simp [stored?, h])

/-- Two commits that leave each other alone can change places: each answers the same in both
orders, and the store is the same after both. -/
theorem commits_change_places {txn other : Transaction} (hversion : txn.version ≠ other.version)
    (hother : txn.LeavesAlone other) (htxn : other.LeavesAlone txn) (store : Store) :
    (other.commit.run (txn.commit.run store).2).1 = (other.commit.run store).1 ∧
      (txn.commit.run (other.commit.run store).2).1 = (txn.commit.run store).1 ∧
      (other.commit.run (txn.commit.run store).2).2 =
        (txn.commit.run (other.commit.run store).2).2 := by
  simp only [commit_answer]
  refine ⟨hother.validate_commit store, htxn.validate_commit store, ?_⟩
  ext bytes : 1
  simp only [get?_commit, hother.validate_commit, htxn.validate_commit]
  by_cases hone : bytes = (Key.active txn.version).encode
  · simp [hone]
  by_cases htwo : bytes = (Key.active other.version).encode
  · simp [htwo]
  rcases stored?_eq_none_or hversion bytes with hnone | hnone <;> simp [hone, htwo, hnone]

/-- A key with a zero behind it is another key, and what is damaged under a scanned prefix stops one
commit and not the other. -/
theorem commits_change_places_damaged :
    let store : Store := ((OrderedMap.empty.insert (Key.version [97] 3).encode
      (encodeVersion (some [7]))).insert [2, 98] []).insert (Key.active 5).encode []
    let txn : Transaction := ⟨⟨5, .empty⟩, OrderedMap.empty.insert [97] (), .empty,
      OrderedMap.empty.insert [97, 0] (some [1])⟩
    let other : Transaction := ⟨⟨6, OrderedMap.empty.insert 5 ()⟩, .empty,
      OrderedMap.empty.insert [98] (), OrderedMap.empty.insert [99] none⟩
    txn.version ≠ other.version ∧ txn.LeavesAlone other ∧ other.LeavesAlone txn ∧
      (txn.commit.run (other.commit.run store).2).1 = .ok () ∧
      (other.commit.run (txn.commit.run store).2).1 = .error (.internal .unterminatedBytes) ∧
      (other.commit.run (txn.commit.run store).2).2 =
        (txn.commit.run (other.commit.run store).2).2 := by
  intro store txn other
  have hversion : txn.version ≠ other.version := by decide
  have hother : txn.LeavesAlone other := by decide
  have htxn : other.LeavesAlone txn := by decide
  obtain ⟨hsecond, hfirst, hstore⟩ := commits_change_places hversion hother htxn store
  exact ⟨hversion, hother, htxn, hfirst.trans (by decide +kernel),
    hsecond.trans (by decide +kernel), hstore⟩

end Transact.Mvcc.Transaction
