/-
# The keys of the versioned store

Three families of entries share one engine: the counter of versions, a marker
for every active transaction, and one entry for every version of every key.
-/

import Transact.Bytes

namespace Transact.Mvcc

/-- The key of an entry of the engine. -/
inductive Key where
  | nextVersion
  | active (version : UInt64)
  | version (key : Bytes) (version : UInt64)
  deriving DecidableEq, Repr

/-- A key as it is shown in messages. -/
def Key.toText : Key → String
  | .nextVersion => "NextVersion"
  | .active number => "TxnActive(" ++ toString number.toNat ++ ")"
  | .version key number =>
    "Version([" ++ ", ".intercalate (key.map fun byte => toString byte.toNat) ++ "], "
      ++ toString number.toNat ++ ")"

end Transact.Mvcc
