/-
# Steps on the byte store

Single changes and looks, as data: what a step does to the store and what it
answers.
-/

import Transact.Storage.Store

namespace Transact.Store

/-- A change or a look. Scans may run from the back. -/
inductive Step where
  | set (key value : Bytes)
  | get (key : Bytes)
  | delete (key : Bytes)
  | scanPrefix (start : Bytes) (backwards : Bool)
  | scan (lower upper : Bound) (backwards : Bool)
  deriving DecidableEq, Repr

/-- What a step answers. -/
inductive Answer where
  | done
  | value (found : Option Bytes)
  | entries (found : List (Bytes × Bytes))
  deriving DecidableEq, Repr

/-- Entries in the order of a scan. -/
def inOrder (backwards : Bool) (entries : List (Bytes × Bytes)) : Answer :=
  .entries (if backwards then entries.reverse else entries)

/-- Perform a step. -/
def perform (store : Store) : Step → Answer × Store
  | .set key value => (.done, store.insert key value)
  | .get key => (.value (store.get? key), store)
  | .delete key => (.done, store.erase key)
  | .scanPrefix start backwards => (inOrder backwards (store.scanPrefix start), store)
  | .scan lower upper backwards => (inOrder backwards (store.scan lower upper), store)

end Transact.Store
