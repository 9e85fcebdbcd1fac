/-
# The life of a transaction

A transaction is active until it commits or aborts; both are final.
-/

import Transact.Bytes

namespace Transact

/-- Where a transaction stands. -/
inductive Lifecycle where
  | active
  | committed
  | aborted
  deriving DecidableEq, Repr

/-- The state as it is named in messages. -/
def Lifecycle.name : Lifecycle → String
  | .active => "active"
  | .committed => "committed"
  | .aborted => "aborted"

end Transact
