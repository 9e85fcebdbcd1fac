/-
# Beginnings that fail

A beginning reads the counter, takes the number that it names, and looks for the
markers of others. The first and the last of these can come upon damage, on stores
that no run leads to. A number that has been taken is not given back, no more than
the number of a transaction that was rolled back: so a beginning that fails leaves
every entry as it was, except that the counter may have gone on by one. It never
leaves a marker.
-/

import Transact.Proofs.Mvcc.Versions

namespace Transact.Mvcc.Transaction

variable {store after : Store} {entries : List (Bytes × Bytes)} {found : OrderedSet UInt64}
  {fault : InternalFault} {error : Error}

/-- A search for markers fails at a key that cannot be read, or at one that is no marker. -/
theorem exists_of_activeVersions_error (h : activeVersions entries found = .error fault) :
    ∃ entry ∈ entries, Key.decode entry.1 = .error fault ∨
      ∃ own, Key.decode entry.1 = .ok own ∧ ∀ version, own ≠ .active version := by
  fun_induction activeVersions entries found with
  | case1 => cases h
  | case2 key _ rest found version hdecode ih =>
      obtain ⟨entry, hentry, hfault⟩ := ih h
      exact ⟨entry, List.mem_cons_of_mem _ hentry, hfault⟩
  | case3 key stored rest found own hother hdecode =>
      refine ⟨(key, stored), List.mem_cons_self, .inr ⟨own, hdecode, fun version heq => ?_⟩⟩
      exact hother version heq
  | case4 key stored rest found other hdecode =>
      cases h
      exact ⟨(key, stored), List.mem_cons_self, .inl hdecode⟩

/-- What begins like a marker and can be read is one, so the search fails only at what cannot. -/
theorem exists_damaged_of_activeVersions_error
    (h : activeVersions (store.scanPrefix KeyPrefix.active.encode) found = .error fault) :
    ∃ entry ∈ store.entries, KeyPrefix.active.encode <+: entry.1 ∧
      Key.decode entry.1 = .error fault := by
  obtain ⟨entry, hentry, hfault⟩ := exists_of_activeVersions_error h
  obtain ⟨hmem, hprefix⟩ := Store.mem_scanPrefix_iff.mp hentry
  refine ⟨entry, hmem, hprefix, ?_⟩
  rcases hfault with hdamaged | ⟨own, hown, hother⟩
  · exact hdamaged
  · rw [Key.decode_eq_ok_iff.mp hown] at hprefix
    obtain ⟨version, hversion⟩ := (active_prefix_encode_iff own).mp hprefix
    exact absurd hversion (hother version)

/-- Taking a number does not show in the search for markers. -/
theorem scanPrefix_active_insert_nextVersion (store : Store) (value : Bytes) :
    Store.scanPrefix (store.insert Key.nextVersion.encode value) KeyPrefix.active.encode =
      store.scanPrefix KeyPrefix.active.encode := by
  apply Store.scanPrefix_congr
  intro key hprefix
  rw [OrderedMap.get?_insert, if_neg]
  rintro rfl
  simp [active_prefix_encode_iff] at hprefix

/-- A beginning that fails leaves the store alone if the counter could not be read. Otherwise it
has taken the number that the counter names, and then come upon a damaged key among the markers:
the counter names the next number, and every other entry is as it was. -/
theorem failed_begin_keeps_entries (h : begin.run store = (.error error, after)) :
    (∃ fault, nextVersion store = .error fault ∧ error = .internal fault ∧ after = store) ∨
      ∃ version fault entry, nextVersion store = .ok version ∧ entry ∈ store.entries ∧
        KeyPrefix.active.encode <+: entry.1 ∧ Key.decode entry.1 = .error fault ∧
        error = .internal fault ∧
        after = store.insert Key.nextVersion.encode (encodeCounter (version + 1)) := by
  simp only [begin, Call.run, Call.of] at h
  cases hnext : nextVersion store with
  | error fault =>
      rw [hnext] at h
      cases h
      exact .inl ⟨fault, rfl, rfl, rfl⟩
  | ok version =>
      simp only [hnext, scanPrefix_active_insert_nextVersion] at h
      cases hactive : activeVersions (store.scanPrefix KeyPrefix.active.encode) .empty with
      | ok active =>
          rw [hactive] at h
          cases h
      | error fault =>
          rw [hactive] at h
          cases h
          obtain ⟨entry, hentry, hprefix, hdamaged⟩ :=
            exists_damaged_of_activeVersions_error hactive
          exact .inr ⟨version, fault, entry, rfl, hentry, hprefix, hdamaged, rfl, rfl⟩

/-- A key that is cut off stands among the markers, next to a version. The beginning fails, and the
version is still there. -/
theorem failed_begin_keeps_entries_next_to_version :
    let written := (Key.version [7] 3).encode
    let store : Store := (OrderedMap.empty.insert [1] []).insert written [0]
    (begin.run store).1 = .error (.internal (.insufficientBytes 8 0)) ∧
      (begin.run store).2.get? written = some [0] := by
  intro written store
  have hfails : begin.run store =
      (.error (.internal (.insufficientBytes 8 0)), (begin.run store).2) := rfl
  have hcounter : nextVersion store = .ok 1 := rfl
  refine ⟨congrArg Prod.fst hfails, ?_⟩
  rcases failed_begin_keeps_entries hfails with
    ⟨fault, hnext, -⟩ | ⟨version, fault, entry, -, -, -, -, -, hafter⟩
  · rw [hcounter] at hnext
    cases hnext
  · rw [hafter, OrderedMap.get?_insert, if_neg (by decide)]
    rfl

/-- A beginning that fails need not leave the store alone: with nothing in it but a marker that is
cut off, it has a counter afterwards. -/
theorem failed_begin_sets_counter :
    let store : Store := OrderedMap.empty.insert [1] []
    begin.run store =
        (.error (.internal (.insufficientBytes 8 0)),
          store.insert Key.nextVersion.encode (encodeCounter 2)) ∧
      store.insert Key.nextVersion.encode (encodeCounter 2) ≠ store :=
  ⟨rfl, by decide⟩

end Transact.Mvcc.Transaction
