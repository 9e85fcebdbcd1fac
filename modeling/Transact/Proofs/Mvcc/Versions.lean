/-
# What happens to the stored versions

Of everything that a transaction does, only a commit that goes through touches
the versions in the store: beginning sets the counter and adds a marker, and
releasing removes the marker. A commit that goes through sets the versions of
its own number of the keys in its buffer and leaves all others as they are.
Nothing is assumed of the store here.
-/

import Transact.Proofs.Mvcc.Effect

namespace Transact.Mvcc

/-- Two stores hold the same versions, byte for byte. -/
def SameVersions (before after : Store) : Prop :=
  ∀ key version, after.get? (Key.version key version).encode =
    before.get? (Key.version key version).encode

theorem SameVersions.refl (store : Store) : SameVersions store store := fun _ _ => rfl

/-- Setting an entry that is no version keeps the versions. -/
theorem SameVersions.insert {before after : Store} (h : SameVersions before after) {own : Key}
    (hown : ∀ key version, own ≠ .version key version) (value : Bytes) :
    SameVersions before (after.insert own.encode value) := by
  intro key version
  rw [OrderedMap.get?_insert, if_neg, h key version]
  rw [Key.encode_inj]
  exact (hown key version).symm

namespace Transaction

/-- A beginning that fails has set the counter at most; one that goes through takes the number
that the counter names, with nothing in its buffer, and adds its marker. -/
theorem begin_cases (store : Store) :
    (∃ fault, begin.run store = (.error (.internal fault), store)) ∨
      ∃ version, nextVersion store = .ok version ∧
        ((∃ fault, begin.run store =
            (.error (.internal fault),
              store.insert Key.nextVersion.encode (encodeCounter (version + 1)))) ∨
          ∃ active, begin.run store =
            (.ok ⟨⟨version, active⟩, .empty, .empty, .empty⟩,
              (store.insert Key.nextVersion.encode (encodeCounter (version + 1))).insert
                (Key.active version).encode [])) := by
  simp only [begin, Call.run, Call.of]
  cases hnext : nextVersion store with
  | error fault => exact .inl ⟨fault, rfl⟩
  | ok version =>
      refine .inr ⟨version, rfl, ?_⟩
      cases hactive : activeVersions
          (Store.scanPrefix (store.insert Key.nextVersion.encode (encodeCounter (version + 1)))
            KeyPrefix.active.encode) .empty with
      | error fault => exact .inl ⟨fault, by simp only [hactive]⟩
      | ok active => exact .inr ⟨active, by simp only [hactive]⟩

/-- A transaction that has just begun has nothing in its buffer. -/
theorem writes_of_begin {store after : Store} {txn : Transaction}
    (h : begin.run store = (.ok txn, after)) : txn.writes = .empty := by
  rcases begin_cases store with ⟨_, hbegin⟩ | ⟨_, _, ⟨_, hbegin⟩ | ⟨_, hbegin⟩⟩ <;>
    rw [hbegin] at h <;> cases h
  rfl

theorem sameVersions_begin (store : Store) : SameVersions store (begin.run store).2 := by
  rcases begin_cases store with ⟨_, h⟩ | ⟨version, _, ⟨_, h⟩ | ⟨_, h⟩⟩ <;> rw [h]
  · exact .refl store
  · exact (SameVersions.refl store).insert (fun _ _ => Key.noConfusion) _
  · exact ((SameVersions.refl store).insert (fun _ _ => Key.noConfusion) _).insert
      (fun _ _ => Key.noConfusion) _

theorem sameVersions_release (txn : Transaction) (store : Store) :
    SameVersions store (txn.release store) := by
  intro key version
  rw [get?_release, if_neg]
  rw [Key.encode_inj]
  exact nofun

theorem release_congr {txn other : Transaction} (h : txn.snapshot = other.snapshot)
    (store : Store) : txn.release store = other.release store := by
  rw [release, release, version, version, h]

/-- The versions that a commit leaves which goes through. -/
theorem get?_release_apply_version (txn : Transaction) (store : Store) (key : Bytes)
    (version : UInt64) :
    (txn.release (txn.apply store)).get? (Key.version key version).encode =
      if version = txn.version then
        ((txn.writes.get? key).map encodeVersion).or (store.get? (Key.version key version).encode)
      else store.get? (Key.version key version).encode := by
  rw [sameVersions_release]
  split
  case isTrue hown => rw [hown, get?_apply_version]
  case isFalse hother =>
    apply get?_apply_of_ne
    intro own _ hkey
    rw [Key.encode_inj] at hkey
    cases hkey
    exact hother rfl

end Transaction

end Transact.Mvcc
