/-
# Optimistic transactions

A transaction sees the store as it was when it began: the versions with a
number up to its own, except those of transactions that were active then. Its
writes stay in its buffer. What it reads and which prefixes it scans is noted,
and a commit first checks that nothing it read or is about to write has a
version that it cannot see; then the buffer is written under its own number.
Finishing a transaction in any way removes its marker.
-/

import Transact.Call
import Transact.Mvcc.Layout
import Transact.Storage.Store

namespace Transact.Mvcc

/-- What a transaction may see. -/
structure Snapshot where
  version : UInt64
  active : OrderedSet UInt64
  deriving DecidableEq

/-- Whether a version belongs to a snapshot. -/
def Snapshot.sees (snapshot : Snapshot) (version : UInt64) : Bool :=
  !snapshot.active.contains version && decide (version ≤ snapshot.version)

/-- The writes that a transaction has buffered; a deletion writes nothing. -/
abbrev Writes := OrderedMap Bytes (Option Bytes)

/-- A transaction on the versioned store. -/
structure Transaction where
  snapshot : Snapshot
  reads : OrderedSet Bytes
  prefixes : OrderedSet Bytes
  writes : Writes
  deriving DecidableEq

/-- The transactions that have a marker among the entries. -/
def activeVersions : List (Bytes × Bytes) → OrderedSet UInt64 →
    Except InternalFault (OrderedSet UInt64)
  | [], found => .ok found
  | (key, _) :: rest, found =>
    match Key.decode key with
    | .ok (.active version) => activeVersions rest (found.insert version ())
    | .ok other => .error (.unexpectedKey other)
    | .error fault => .error fault

/-- The version that the next transaction gets. -/
def nextVersion (store : Store) : Except InternalFault UInt64 :=
  match store.get? Key.nextVersion.encode with
  | some stored => decodeCounter stored
  | none => .ok 1

namespace Transaction

def version (txn : Transaction) : UInt64 := txn.snapshot.version

/-- Begin a transaction: take the next version, note who is active, and leave a marker. -/
def begin : Call Store Transaction := Call.of fun store =>
  match nextVersion store with
  | .error fault => (.error (.internal fault), store)
  | .ok version =>
    let counted : Store := store.insert Key.nextVersion.encode (encodeCounter (version + 1))
    match activeVersions (counted.scanPrefix KeyPrefix.active.encode) .empty with
    | .error fault => (.error (.internal fault), counted)
    | .ok active =>
      (.ok ⟨⟨version, active⟩, .empty, .empty, .empty⟩,
        counted.insert (Key.active version).encode [])

/-- Buffer a write. -/
def set (txn : Transaction) (key value : Bytes) : Transaction :=
  { txn with writes := txn.writes.insert key (some value) }

/-- Buffer a deletion. -/
def delete (txn : Transaction) (key : Bytes) : Transaction :=
  { txn with writes := txn.writes.insert key none }

/-- Go back to the writes of a checkpoint; what has been read since stays noted. -/
def restore (txn : Transaction) (checkpoint : Writes) : Transaction :=
  { txn with writes := checkpoint }

/-- The newest visible value among the versions of one key, newest first. -/
def newestSeen (snapshot : Snapshot) : List (Bytes × Bytes) → Except InternalFault (Option Bytes)
  | [] => .ok none
  | (key, stored) :: rest =>
    match Key.decode key with
    | .ok (.version _ version) =>
      if snapshot.sees version then decodeVersion stored else newestSeen snapshot rest
    | .ok other => .error (.unexpectedKey other)
    | .error fault => .error fault

/-- The stored versions of a key up to a number, newest first. -/
def versionsUpTo (store : Store) (key : Bytes) (version : UInt64) : List (Bytes × Bytes) :=
  (store.scan (.included (Key.version key 0).encode)
    (.included (Key.version key version).encode)).reverse

/-- What a transaction finds under a key: its own write, or else the snapshot's value. -/
def lookup (txn : Transaction) (store : Store) (key : Bytes) :
    Except InternalFault (Option Bytes) :=
  match txn.writes.get? key with
  | some write => .ok write
  | none => newestSeen txn.snapshot (versionsUpTo store key txn.version)

/-- Note that a key is read, unless the transaction's own write answers it. -/
def noteRead (txn : Transaction) (key : Bytes) : Transaction :=
  if txn.writes.contains key then txn else { txn with reads := txn.reads.insert key () }

/-- Read a key. -/
def get (txn : Transaction) (store : Store) (key : Bytes) :
    Except Error (Option Bytes) × Transaction :=
  (Error.ofInternal (txn.lookup store key), txn.noteRead key)

/-- A key with what was written under it: the entry is set, or removed. -/
def applyWrite (found : OrderedMap Bytes Bytes) (key : Bytes) :
    Option Bytes → OrderedMap Bytes Bytes
  | some value => found.insert key value
  | none => found.erase key

/-- The visible values among the versions of many keys, oldest first under each key. -/
def visible (snapshot : Snapshot) : List (Bytes × Bytes) → OrderedMap Bytes Bytes →
    Except InternalFault (OrderedMap Bytes Bytes)
  | [], found => .ok found
  | (encoded, stored) :: rest, found =>
    match Key.decode encoded with
    | .ok (.version key version) =>
      if snapshot.sees version then
        match decodeVersion stored with
        | .ok write => visible snapshot rest (applyWrite found key write)
        | .error fault => .error fault
      else visible snapshot rest found
    | .ok other => .error (.unexpectedKey other)
    | .error fault => .error fault

/-- The buffered writes to the keys that begin with a prefix. -/
def writesUnder (txn : Transaction) (start : Bytes) : List (Bytes × Option Bytes) :=
  txn.writes.entries.filter fun entry => start.isPrefixOf entry.1

/-- What a transaction finds under a prefix: the snapshot's values with its own writes on top. -/
def lookupPrefix (txn : Transaction) (store : Store) (start : Bytes) :
    Except InternalFault (OrderedMap Bytes Bytes) :=
  match visible txn.snapshot (store.scanPrefix (versionPrefix start)) .empty with
  | .error fault => .error fault
  | .ok found =>
    .ok ((txn.writesUnder start).foldl (fun found write => applyWrite found write.1 write.2) found)

/-- Note that a prefix is scanned. -/
def notePrefix (txn : Transaction) (start : Bytes) : Transaction :=
  { txn with prefixes := txn.prefixes.insert start () }

/-- Read all keys that begin with a prefix, ascending. -/
def scanPrefix (txn : Transaction) (store : Store) (start : Bytes) :
    Except Error (List (Bytes × Bytes)) × Transaction :=
  (Error.ofInternal ((txn.lookupPrefix store start).map OrderedMap.entries), txn.notePrefix start)

/-- Check that a stored version was visible when the transaction began. -/
def checkSeen (snapshot : Snapshot) (key : Bytes) : Except Error Unit :=
  match Key.decode key with
  | .ok (.version _ version) =>
    if snapshot.sees version then .ok () else .error .conflictAborted
  | .ok other => .error (.internal (.unexpectedKey other))
  | .error fault => .error (.internal fault)

/-- Check a list of stored versions one after the other. -/
def checkAllSeen (snapshot : Snapshot) : List (Bytes × Bytes) → Except Error Unit
  | [] => .ok ()
  | (key, _) :: rest =>
    match checkSeen snapshot key with
    | .ok () => checkAllSeen snapshot rest
    | .error error => .error error

/-- The newest stored version of a key, if there is any. -/
def newestVersion (store : Store) (key : Bytes) : List (Bytes × Bytes) :=
  (versionsUpTo store key 0xFFFFFFFFFFFFFFFF).take 1

/-- Everything that a commit checks, in this order: the newest version of each key read, of
each key written, and every version under each prefix scanned. -/
def footprint (txn : Transaction) (store : Store) : List (Bytes × Bytes) :=
  txn.reads.keys.flatMap (newestVersion store) ++ txn.writes.keys.flatMap (newestVersion store)
    ++ txn.prefixes.keys.flatMap fun start => store.scanPrefix (versionPrefix start)

/-- Check that no version came up that the transaction should have seen. -/
def validate (txn : Transaction) (store : Store) : Except Error Unit :=
  checkAllSeen txn.snapshot (txn.footprint store)

/-- Store the buffered writes under the transaction's own version. -/
def apply (txn : Transaction) (store : Store) : Store :=
  txn.writes.entries.foldl
    (fun store write =>
      store.insert (Key.version write.1 txn.version).encode (encodeVersion write.2))
    store

/-- Remove the transaction's marker. -/
def release (txn : Transaction) (store : Store) : Store :=
  store.erase (Key.active txn.version).encode

/-- Finish the transaction: apply its writes if they are still valid. -/
def commit (txn : Transaction) : Call Store Unit := Call.of fun store =>
  match txn.validate store with
  | .error error => (.error error, txn.release store)
  | .ok () => (.ok (), txn.release (txn.apply store))

/-- Finish the transaction without its writes. -/
def rollback (txn : Transaction) : Call Store Unit := Call.of fun store =>
  (.ok (), txn.release store)

end Transaction

end Transact.Mvcc
