/-
# Prefixes of versioned keys

Keys and prefixes of keys are declared apart, each with a variant for every family of
entries, and both are written in the ordered format. Their variants stand in the same
order, so a prefix is laid out as the keys of its family begin. In that of a version the
end of the byte string is cut off, so that longer keys begin with it too.

What is left begins the layouts of the versions of the keys that begin with the prefix,
and no others. The first byte tells the versions from the rest. Behind it a match ends
where the escaped key does, at the latest: the two zeros that end a key cannot pass for
bytes of the prefix, in whose escaped form every zero has an `ff` behind it.
-/

import Transact.OrderedKey.Item
import Transact.Proofs.Mvcc.Layout

namespace Transact.Mvcc

open OrderedKey

/-- A key as an item of the ordered format. -/
def Key.item : Key → Item
  | .nextVersion => .unitVariant 0
  | .active number => .newtypeVariant 1 (.uint64 number)
  | .version key number => .tupleVariant 2 [.bytes key, .uint64 number]

/-- A prefix of keys as an item of the ordered format. -/
def KeyPrefix.item : KeyPrefix → Item
  | .nextVersion => .unitVariant 0
  | .active => .unitVariant 1
  | .version start => .newtypeVariant 2 (.bytes start)

/-- A key is laid out as its item is written. -/
theorem Key.encode_item (own : Key) : own.item.encode = .ok own.encode := by
  cases own with
  | nextVersion => rfl
  | active number => rfl
  | version key number =>
      simp [item, Item.encode, encodeFields, variantByte, encode, versionField, bind, Except.bind,
        pure, Except.pure]

/-- A prefix is laid out as its item is written. -/
theorem KeyPrefix.encode_item (front : KeyPrefix) : front.item.encode = .ok front.encode := by
  cases front <;> rfl

/-- The prefix of versions is written whole and then loses what ends its byte string. -/
theorem encode_version_eq_append (start : Bytes) :
    (KeyPrefix.version start).encode = versionPrefix start ++ terminator := by
  rw [versionPrefix_eq]
  rfl

/-- The layout of a version begins with its escaped key. -/
theorem escape_prefix_encode (key : Bytes) (version : UInt64) :
    2 :: escape key <+: (Key.version key version).encode := by
  rw [Key.encode, bytesField, List.append_assoc, ← List.cons_append]
  apply List.prefix_append

/-- What is left of a prefix without its end begins the layouts of the versions of those keys that
begin with the prefix, and no layout else. It matches the escaped key alone wherever it matches the
layout of a version: never into what ends the key or into the number behind it. -/
theorem versionPrefix_selects (start : Bytes) (own : Key) :
    (KeyPrefix.version start).item.encode = .ok (versionPrefix start ++ terminator) ∧
      own.item.encode = .ok own.encode ∧
      (versionPrefix start <+: own.encode ↔
        ∃ key version, own = .version key version ∧ start <+: key) ∧
      ∀ key version, own = .version key version →
        (versionPrefix start <+: own.encode ↔ versionPrefix start <+: 2 :: escape key) := by
  refine ⟨?_, own.encode_item, versionPrefix_prefix_encode_iff start own, ?_⟩
  · rw [KeyPrefix.encode_item, encode_version_eq_append]
  · rintro key version rfl
    constructor
    · intro hmatch
      obtain ⟨_, _, hown, hstart⟩ := (versionPrefix_prefix_encode_iff start _).mp hmatch
      cases hown
      rw [versionPrefix_eq, List.cons_prefix_cons, escape_prefix_escape_iff]
      exact ⟨rfl, hstart⟩
    · intro hmatch
      exact hmatch.trans (escape_prefix_encode key version)

end Transact.Mvcc
